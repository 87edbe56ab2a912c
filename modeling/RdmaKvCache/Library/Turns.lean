import Mathlib.Data.Int.CardIntervalMod
import Mathlib.Data.List.Nodup

/-!
# Taking turns

The items of a list are taken one after the other, and then again from the start.
After any number of turns no item has been taken more than once more often than any
other.
-/

namespace Turns

universe u

variable {α : Type u}

/-- The items of the first turns; there are none if there are no items. -/
def turns (items : List α) (count : Nat) : List α :=
  (List.range count).filterMap fun turn => items[turn % items.length]?

@[simp]
theorem turns_zero (items : List α) : turns items 0 = [] :=
  rfl

theorem turns_succ (items : List α) (count : Nat) :
    turns items (count + 1) =
      turns items count ++ (items[count % items.length]?).toList := by
  rw [turns, List.range_succ, List.filterMap_append, turns]
  rfl

variable [DecidableEq α]

/-- An item is taken at the turns that are congruent to its place. -/
theorem count_turns
    {items : List α} (nodup : items.Nodup) {place : Nat}
    (inItems : place < items.length) (count : Nat) :
    (turns items count).count items[place] =
      Nat.count (· ≡ place [MOD items.length]) count := by
  induction count with
  | zero =>
      rfl
  | succ count inductionHypothesis =>
      have positive : 0 < items.length := Nat.zero_lt_of_lt inItems
      have turn : count % items.length < items.length :=
        Nat.mod_lt count positive
      have sameItem :
          items[count % items.length] = items[place] ↔
            count ≡ place [MOD items.length] := by
        rw [nodup.getElem_inj_iff, Nat.ModEq, Nat.mod_eq_of_lt inItems]
      rw [turns_succ, List.getElem?_eq_getElem turn, List.count_append,
        inductionHypothesis, Nat.count_succ]
      simp only [Option.toList_some, List.count_singleton, beq_iff_eq,
        sameItem]

theorem count_turns_le
    {items : List α} (nodup : items.Nodup) {first second : α}
    (isFirst : first ∈ items) (isSecond : second ∈ items) (count : Nat) :
    (turns items count).count first ≤ (turns items count).count second + 1 := by
  obtain ⟨firstPlace, inItems, rfl⟩ := List.getElem_of_mem isFirst
  obtain ⟨secondPlace, alsoInItems, rfl⟩ := List.getElem_of_mem isSecond
  have positive : 0 < items.length := Nat.zero_lt_of_lt inItems
  rw [count_turns nodup inItems, count_turns nodup alsoInItems,
    Nat.count_modEq_card count positive, Nat.count_modEq_card count positive]
  split <;> split <;> omega

end Turns
