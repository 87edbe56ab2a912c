import Mathlib.Data.Finset.Card

/-!
# Collecting all of some items

Items arrive one by one, in any order, some of them again and some that are not
wanted.  The wanted ones are collected and counted.  The arrival that completes
the collection is the one that brings the last missing item, and the count tells
it from all others.
-/

namespace CoverTracking

universe u

variable {Item : Type u} [DecidableEq Item]
variable {wanted : Finset Item} {arrived : List Item} {item : Item}

/-- The wanted items that have arrived. -/
def collected (wanted : Finset Item) (arrived : List Item) : Finset Item :=
  wanted.filter fun item => item ∈ arrived

def Covered (wanted : Finset Item) (arrived : List Item) : Prop :=
  ∀ item ∈ wanted, item ∈ arrived

instance decidableCovered (wanted : Finset Item) (arrived : List Item) :
    Decidable (Covered wanted arrived) :=
  Finset.decidableDforallFinset

theorem mem_collected :
    item ∈ collected wanted arrived ↔ item ∈ wanted ∧ item ∈ arrived :=
  Finset.mem_filter

theorem collected_nil : collected wanted [] = ∅ := by
  simp [collected]

theorem card_collected_le :
    (collected wanted arrived).card ≤ wanted.card :=
  Finset.card_filter_le wanted _

theorem covered_iff_card :
    Covered wanted arrived ↔
      (collected wanted arrived).card = wanted.card := by
  rw [collected, Finset.card_filter_eq_iff]
  rfl

/-- A wanted item that has not arrived before is one more. -/
theorem collected_append_of_new
    (isWanted : item ∈ wanted) :
    collected wanted (arrived ++ [item]) =
      insert item (collected wanted arrived) := by
  ext tested
  simp only [mem_collected, List.mem_append, List.mem_singleton,
    Finset.mem_insert]
  constructor
  · rintro ⟨testedWanted, earlier | isItem⟩
    · exact Or.inr ⟨testedWanted, earlier⟩
    · exact Or.inl isItem
  · rintro (rfl | ⟨testedWanted, earlier⟩)
    · exact ⟨isWanted, Or.inr rfl⟩
    · exact ⟨testedWanted, Or.inl earlier⟩

/-- Any other item changes nothing. -/
theorem collected_append_of_old
    (old : item ∉ wanted ∨ item ∈ arrived) :
    collected wanted (arrived ++ [item]) = collected wanted arrived := by
  ext tested
  simp only [mem_collected, List.mem_append, List.mem_singleton]
  constructor
  · rintro ⟨testedWanted, earlier | rfl⟩
    · exact ⟨testedWanted, earlier⟩
    · exact ⟨testedWanted, old.resolve_left (not_not_intro testedWanted)⟩
  · rintro ⟨testedWanted, earlier⟩
    exact ⟨testedWanted, Or.inl earlier⟩

theorem card_collected_append_of_new
    (isWanted : item ∈ wanted) (isNew : item ∉ arrived) :
    (collected wanted (arrived ++ [item])).card =
      (collected wanted arrived).card + 1 := by
  have notCollected : item ∉ collected wanted arrived := by
    intro member
    exact isNew (mem_collected.mp member).2
  rw [collected_append_of_new isWanted,
    Finset.card_insert_of_notMem notCollected]

/-- The collection is completed exactly by a new item that brings the count up to
the number of wanted items. -/
theorem completes_iff :
    ¬ Covered wanted arrived ∧ Covered wanted (arrived ++ [item]) ↔
      item ∈ wanted ∧ item ∉ arrived ∧
        (collected wanted arrived).card + 1 = wanted.card := by
  rw [covered_iff_card, covered_iff_card]
  constructor
  · rintro ⟨incomplete, complete⟩
    by_cases isNew : item ∈ wanted ∧ item ∉ arrived
    · rw [card_collected_append_of_new isNew.1 isNew.2] at complete
      exact ⟨isNew.1, isNew.2, complete⟩
    · have old : item ∉ wanted ∨ item ∈ arrived := by
        tauto
      rw [collected_append_of_old old] at complete
      exact absurd complete incomplete
  · rintro ⟨isWanted, isNew, last⟩
    rw [card_collected_append_of_new isWanted isNew]
    omega

end CoverTracking
