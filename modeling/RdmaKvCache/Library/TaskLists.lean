import Mathlib.Data.List.Perm.Basic

/-!
# Lists of tasks

Concurrent tasks are kept in a list, and one of them changes at a time.  What
does not depend on the order of the tasks is the same for the list with the
changed task in front.
-/

namespace TaskLists

universe u v

variable {Task : Type u} {tasks : List Task} {index : Nat} {old : Task}

/-- A task and the others, before and after a change of the task. -/
theorem exists_others (found : tasks[index]? = some old) :
    ∃ others,
      tasks.Perm (old :: others) ∧
        ∀ new, (tasks.set index new).Perm (new :: others) := by
  obtain ⟨bound, isOld⟩ := List.getElem?_eq_some_iff.mp found
  refine ⟨tasks.eraseIdx index, ?_, List.set_perm_cons_eraseIdx bound⟩
  have perm := List.getElem_cons_eraseIdx_perm bound
  rw [isOld] at perm
  exact perm.symm

/-- Replacing a task changes a count by the two tasks only. -/
theorem countP_set_add
    (found : tasks[index]? = some old) (new : Task)
    (property : Task → Bool) :
    (tasks.set index new).countP property + (property old).toNat =
      tasks.countP property + (property new).toNat := by
  obtain ⟨others, before, after⟩ := exists_others found
  rw [before.countP_eq, (after new).countP_eq, List.countP_cons,
    List.countP_cons]
  cases property old <;>
    cases property new <;>
    simp only [Bool.toNat_true, Bool.toNat_false, if_true,
      Bool.false_eq_true, if_false]

/-! ## What the tasks hold -/

variable {Item : Type v} [BEq Item] (held : Task → List Item)

/-- Replacing a task changes what the tasks hold together by what the two tasks
hold. -/
theorem count_flatMap_set_add
    (found : tasks[index]? = some old) (new : Task) (item : Item) :
    ((tasks.set index new).flatMap held).count item + (held old).count item =
      (tasks.flatMap held).count item + (held new).count item := by
  obtain ⟨others, before, after⟩ := exists_others found
  rw [(before.flatMap_right held).count_eq,
    ((after new).flatMap_right held).count_eq]
  simp only [List.flatMap_cons, List.count_append]
  omega

theorem count_flatMap_snoc (new : Task) (item : Item) :
    ((tasks ++ [new]).flatMap held).count item =
      (tasks.flatMap held).count item + (held new).count item := by
  simp

/-- The tasks that give away what they hold give it away together. -/
theorem count_flatMap_map_add
    {selected : Task → Bool} {emptied : Task → Task}
    (empties : ∀ task, selected task = true → held (emptied task) = [])
    (tasks : List Task) (item : Item) :
    ((tasks.map fun task =>
            if selected task then emptied task else task).flatMap held).count
          item +
        ((tasks.filter selected).flatMap held).count item =
      (tasks.flatMap held).count item := by
  induction tasks with
  | nil =>
      rfl
  | cons task rest inductionHypothesis =>
      simp only [List.map_cons, List.flatMap_cons, List.count_append,
        List.filter_cons]
      by_cases isSelected : selected task = true
      · simp only [isSelected, if_true, empties task isSelected,
          List.count_nil, List.flatMap_cons, List.count_append]
        omega
      · simp only [isSelected, Bool.false_eq_true, if_false]
        omega

end TaskLists
