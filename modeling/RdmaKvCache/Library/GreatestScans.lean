import Mathlib.Data.List.FinRange
import Mathlib.Data.List.MinMax

/-!
# Scans for the first greatest key

A scan goes through a list once and exchanges the item it has for the next one if
that has a greater key.  It may start from nothing or from the head of the list,
and may look at the head again; either way it ends with the first of the items
that have a greatest key.
-/

namespace GreatestScans

universe u v

variable {Item : Type u} {Key : Type v} [LinearOrder Key]

/-- The step of a scan that has an item. -/
def keepGreater (key : Item → Key) (best item : Item) : Item :=
  if key best < key item then item else best

/-- The step of a scan that may not have an item yet. -/
def keepGreaterFrom (key : Item → Key) (best : Option Item) (item : Item) :
    Option Item :=
  match best with
  | none => some item
  | some best => some (keepGreater key best item)

variable (key : Item → Key)

theorem keepGreater_self (item : Item) : keepGreater key item item = item :=
  if_neg (lt_irrefl (key item))

theorem keepGreaterFrom_eq_argAux (best : Option Item) (item : Item) :
    keepGreaterFrom key best item =
      List.argAux (fun later earlier => key earlier < key later) best item := by
  cases best with
  | none =>
      rfl
  | some best =>
      rw [keepGreaterFrom, keepGreater, List.argAux]
      by_cases greater : key best < key item
      · rw [if_pos greater]
        exact (if_pos greater).symm
      · rw [if_neg greater]
        exact (if_neg greater).symm

/-- A scan from nothing finds what `List.argmax` does. -/
theorem foldl_keepGreaterFrom (items : List Item) :
    items.foldl (keepGreaterFrom key) none = List.argmax key items := by
  have sameStep :
      keepGreaterFrom key =
        List.argAux fun later earlier => key earlier < key later := by
    funext best item
    exact keepGreaterFrom_eq_argAux key best item
  rw [sameStep, List.argmax]

theorem foldl_keepGreaterFrom_some (items : List Item) (best : Item) :
    items.foldl (keepGreaterFrom key) (some best) =
      some (items.foldl (keepGreater key) best) := by
  induction items generalizing best with
  | nil =>
      rfl
  | cons item rest inductionHypothesis =>
      rw [List.foldl_cons, List.foldl_cons]
      exact inductionHypothesis (keepGreater key best item)

/-- So does a scan that starts from the head and looks at it again. -/
theorem some_foldl_keepGreater_head (head : Item) (rest : List Item) :
    some ((head :: rest).foldl (keepGreater key) head) =
      List.argmax key (head :: rest) := by
  rw [← foldl_keepGreaterFrom, List.foldl_cons, List.foldl_cons,
    keepGreater_self, ← foldl_keepGreaterFrom_some]
  rfl

/-! ## Positions -/

variable {size : Nat}

/-- The first of the positions with a greatest key. -/
structure FirstGreatest (key : Fin size → Key) (chosen : Fin size) : Prop where
  greatest : ∀ position, key position ≤ key chosen
  first : ∀ position, position < chosen → key position < key chosen

variable {key : Fin size → Key} {chosen other : Fin size}

theorem FirstGreatest.unique
    (isFirst : FirstGreatest key chosen) (isOther : FirstGreatest key other) :
    chosen = other := by
  rcases lt_trichotomy chosen other with before | same | behind
  · exact absurd (isOther.first chosen before) (isFirst.greatest other).not_gt
  · exact same
  · exact absurd (isFirst.first other behind) (isOther.greatest chosen).not_gt

theorem argmax_finRange_eq_some_iff :
    List.argmax key (List.finRange size) = some chosen ↔
      FirstGreatest key chosen := by
  rw [List.argmax_eq_some_iff]
  constructor
  · intro ⟨_, greatest, first⟩
    refine ⟨fun position => greatest position (List.mem_finRange position), ?_⟩
    intro position before
    by_contra notLess
    have behind :=
      first position (List.mem_finRange position) (not_lt.mp notLess)
    rw [List.idxOf_finRange, List.idxOf_finRange] at behind
    exact absurd before (Fin.not_lt.mpr behind)
  · intro isFirst
    refine
      ⟨List.mem_finRange chosen, fun position _ => isFirst.greatest position,
        ?_⟩
    intro position _ atLeast
    rw [List.idxOf_finRange, List.idxOf_finRange]
    by_contra before
    exact
      absurd (isFirst.first position (Fin.lt_def.mpr (not_le.mp before)))
        atLeast.not_gt

/-- A list with an item has a first greatest one. -/
theorem exists_argmax_finRange (key : Fin size → Key) (nonempty : 0 < size) :
    ∃ chosen,
      List.argmax key (List.finRange size) = some chosen ∧
        FirstGreatest key chosen := by
  have someItem : List.argmax key (List.finRange size) ≠ none := by
    rw [ne_eq, List.argmax_eq_none, List.finRange_eq_nil_iff]
    exact Nat.ne_of_gt nonempty
  obtain ⟨chosen, found⟩ := Option.ne_none_iff_exists'.mp someItem
  exact ⟨chosen, found, argmax_finRange_eq_some_iff.mp found⟩

end GreatestScans
