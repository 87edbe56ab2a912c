import Mathlib.Data.List.Basic

/-!
# Scans for a least key

A scan goes through a list once and keeps the first item whose key is below the
bound; the bound, a limit at first, is then the key of this item.  It ends with an
item of least key, and without one exactly if no key is below the limit.
-/

namespace LeastScans

universe u v

variable {Item : Type u} {Key : Type v} [LT Key] [DecidableLT Key]

/-- The step of a scan. -/
def keepLess (key : Item → Key) (best : Option Item × Key) (item : Item) :
    Option Item × Key :=
  if key item < best.2 then (some item, key item) else best

def scan (key : Item → Key) (items : List Item) (best : Option Item × Key) :
    Option Item × Key :=
  items.foldl (keepLess key) best

theorem scan_cons
    (key : Item → Key) (head : Item) (rest : List Item)
    (best : Option Item × Key) :
    scan key (head :: rest) best = scan key rest (keepLess key best head) :=
  rfl

variable [LE Key] [Std.IsLinearOrder Key] [Std.LawfulOrderLT Key]

theorem keepLess_snd_le
    (key : Item → Key) (best : Option Item × Key) (item : Item) :
    (keepLess key best item).2 ≤ best.2 ∧
      (keepLess key best item).2 ≤ key item := by
  rw [keepLess]
  split
  · rename_i less
    exact ⟨Std.le_of_lt less, Std.le_refl _⟩
  · rename_i notLess
    exact ⟨Std.le_refl _, Std.not_lt.mp notLess⟩

/-- The bound falls to every key. -/
theorem scan_snd_le
    (key : Item → Key) (items : List Item) (best : Option Item × Key) :
    (scan key items best).2 ≤ best.2 ∧
      ∀ item ∈ items, (scan key items best).2 ≤ key item := by
  induction items generalizing best with
  | nil =>
      exact ⟨Std.le_refl _, fun item listed => by cases listed⟩
  | cons head rest inductionHypothesis =>
      rw [scan_cons]
      obtain ⟨belowStep, belowRest⟩ :=
        inductionHypothesis (keepLess key best head)
      obtain ⟨belowBest, belowHead⟩ := keepLess_snd_le key best head
      refine ⟨Std.le_trans belowStep belowBest, ?_⟩
      intro item listed
      rcases List.mem_cons.mp listed with isHead | later
      · rw [isHead]
        exact Std.le_trans belowStep belowHead
      · exact belowRest item later

/-- A scan keeps what it has, or ends with an item and its key. -/
theorem scan_cases
    (key : Item → Key) (items : List Item) (best : Option Item × Key) :
    scan key items best = best ∨
      ∃ item ∈ items, key item < best.2 ∧
        scan key items best = (some item, key item) := by
  induction items generalizing best with
  | nil =>
      exact Or.inl rfl
  | cons head rest inductionHypothesis =>
      rw [scan_cons]
      rcases inductionHypothesis (keepLess key best head) with
        kept | ⟨item, listed, less, result⟩
      · rw [kept, keepLess]
        split
        · rename_i less
          exact Or.inr ⟨head, List.mem_cons_self, less, rfl⟩
        · exact Or.inl rfl
      · have below : key item < best.2 :=
          Std.lt_of_lt_of_le less (keepLess_snd_le key best head).1
        exact Or.inr ⟨item, List.mem_cons_of_mem head listed, below, result⟩

variable {key : Item → Key} {items : List Item} {limit : Key}

/-- What is found has a least key. -/
theorem least_of_scan
    {chosen : Item} (found : (scan key items (none, limit)).1 = some chosen) :
    chosen ∈ items ∧ ∀ item ∈ items, key chosen ≤ key item := by
  have least := (scan_snd_le key items (none, limit)).2
  rcases scan_cases key items (none, limit) with
    nothing | ⟨item, listed, _, result⟩
  · rw [nothing] at found
    cases found
  · rw [result] at found least
    cases found
    exact ⟨listed, least⟩

/-- Nothing is found exactly if no key is below the limit. -/
theorem scan_eq_none_iff :
    (scan key items (none, limit)).1 = none ↔
      ¬ ∃ item ∈ items, key item < limit := by
  have least := (scan_snd_le key items (none, limit)).2
  rcases scan_cases key items (none, limit) with
    nothing | ⟨item, listed, less, result⟩
  · rw [nothing] at least ⊢
    refine iff_of_true rfl ?_
    rintro ⟨item, listed, less⟩
    exact Std.not_lt.mpr (least item listed) less
  · rw [result]
    refine iff_of_false ?_ ?_
    · intro noItem
      cases noItem
    · intro noneLess
      exact noneLess ⟨item, listed, less⟩

end LeastScans
