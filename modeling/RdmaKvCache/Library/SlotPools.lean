import Mathlib.Data.List.Nodup
import Mathlib.Data.Set.Basic
import Mathlib.Logic.Function.Basic

/-!
# Pools of exclusive slots

A pool lends the slots of a fixed set to holders: a slot is taken from the front
of a queue of free slots and comes back to its end.  A holder has at most one
slot at a time, and acquiring a second one forgets the first, which then
belongs to nobody and is never lent again.

The structure carries what makes lending exclusive, so `acquire` and `release`
cannot leave it.  `Lent` says that a slot cannot be acquired and that nobody but
one holder can give it back; only a release by that holder ends it.
-/

namespace SlotPools

universe u v

/-- Free slots and the slot of each holder, with no slot in two places. -/
structure Pool (holder : Type u) (slot : Type v) (slots : Set slot) where
  free : List slot
  held : holder → Option slot
  free_nodup : free.Nodup
  held_injective :
    ∀ {first second taken},
      held first = some taken → held second = some taken → first = second
  held_not_free : ∀ {owner taken}, held owner = some taken → taken ∉ free
  free_subset : ∀ {unused}, unused ∈ free → unused ∈ slots
  held_subset : ∀ {owner taken}, held owner = some taken → taken ∈ slots

variable {holder : Type u} {slot : Type v} {slots : Set slot}

namespace Pool

/-- The pool nobody has taken a slot from. -/
def unused (available : List slot) (nodup : available.Nodup)
    (subset : ∀ {spare}, spare ∈ available → spare ∈ slots) :
    Pool holder slot slots where
  free := available
  held := fun _ => none
  free_nodup := nodup
  held_injective := by simp
  held_not_free := by simp
  free_subset := subset
  held_subset := by simp

variable [DecidableEq holder]

/-- Lend the front slot `taken` to `owner`. -/
def lend (pool : Pool holder slot slots) (owner : holder)
    (taken : slot) (rest : List slot) (front : pool.free = taken :: rest) :
    Pool holder slot slots where
  free := rest
  held := Function.update pool.held owner (some taken)
  free_nodup := by
    have nodup := pool.free_nodup
    rw [front] at nodup
    exact (List.nodup_cons.mp nodup).2
  held_injective := by
    intro first second other firstHeld secondHeld
    have takenFree : taken ∈ pool.free := by simp [front]
    by_cases firstOwner : first = owner
    · by_cases secondOwner : second = owner
      · exact firstOwner.trans secondOwner.symm
      · rw [firstOwner, Function.update_self] at firstHeld
        rw [Function.update_of_ne secondOwner] at secondHeld
        cases firstHeld
        exact absurd takenFree (pool.held_not_free secondHeld)
    · rw [Function.update_of_ne firstOwner] at firstHeld
      by_cases secondOwner : second = owner
      · rw [secondOwner, Function.update_self] at secondHeld
        cases secondHeld
        exact absurd takenFree (pool.held_not_free firstHeld)
      · rw [Function.update_of_ne secondOwner] at secondHeld
        exact pool.held_injective firstHeld secondHeld
  held_not_free := by
    intro tested other otherHeld member
    have nodup := pool.free_nodup
    rw [front] at nodup
    by_cases testedOwner : tested = owner
    · rw [testedOwner, Function.update_self] at otherHeld
      cases otherHeld
      exact (List.nodup_cons.mp nodup).1 member
    · rw [Function.update_of_ne testedOwner] at otherHeld
      refine pool.held_not_free otherHeld ?_
      rw [front]
      exact List.mem_cons_of_mem taken member
  free_subset := by
    intro spare member
    apply pool.free_subset
    rw [front]
    exact List.mem_cons_of_mem taken member
  held_subset := by
    intro tested other otherHeld
    by_cases testedOwner : tested = owner
    · rw [testedOwner, Function.update_self] at otherHeld
      cases otherHeld
      exact pool.free_subset (by simp [front])
    · rw [Function.update_of_ne testedOwner] at otherHeld
      exact pool.held_subset otherHeld

/-- Put the slot `taken` of `owner` back at the end of the queue. -/
def giveBack (pool : Pool holder slot slots) (owner : holder)
    (taken : slot) (owned : pool.held owner = some taken) :
    Pool holder slot slots where
  free := pool.free ++ [taken]
  held := Function.update pool.held owner none
  free_nodup := by
    refine List.nodup_append.mpr
      ⟨pool.free_nodup, List.nodup_singleton taken, ?_⟩
    intro spare member other otherMember same
    rw [List.mem_singleton.mp otherMember] at same
    rw [same] at member
    exact pool.held_not_free owned member
  held_injective := by
    intro first second other firstHeld secondHeld
    have firstNe : first ≠ owner := by
      intro same
      subst same
      simp at firstHeld
    have secondNe : second ≠ owner := by
      intro same
      subst same
      simp at secondHeld
    rw [Function.update_of_ne firstNe] at firstHeld
    rw [Function.update_of_ne secondNe] at secondHeld
    exact pool.held_injective firstHeld secondHeld
  held_not_free := by
    intro tested other otherHeld member
    have testedNe : tested ≠ owner := by
      intro same
      subst same
      simp at otherHeld
    rw [Function.update_of_ne testedNe] at otherHeld
    rcases List.mem_append.mp member with spare | returned
    · exact pool.held_not_free otherHeld spare
    · rw [List.mem_singleton.mp returned] at otherHeld
      exact testedNe (pool.held_injective otherHeld owned)
  free_subset := by
    intro spare member
    rcases List.mem_append.mp member with earlier | returned
    · exact pool.free_subset earlier
    · rw [List.mem_singleton.mp returned]
      exact pool.held_subset owned
  held_subset := by
    intro tested other otherHeld
    have testedNe : tested ≠ owner := by
      intro same
      subst same
      simp at otherHeld
    rw [Function.update_of_ne testedNe] at otherHeld
    exact pool.held_subset otherHeld

omit [DecidableEq holder] in
/-- `taken` is out of the queue, and nobody but `owner` can put it back. -/
def Lent (pool : Pool holder slot slots) (owner : holder) (taken : slot) :
    Prop :=
  taken ∉ pool.free ∧
    ∀ tested, pool.held tested = some taken → tested = owner

theorem lent_lend
    (pool : Pool holder slot slots) (owner : holder)
    (taken : slot) (rest : List slot) (front : pool.free = taken :: rest) :
    (pool.lend owner taken rest front).Lent owner taken := by
  have owned : (pool.lend owner taken rest front).held owner = some taken := by
    simp [lend]
  refine ⟨(pool.lend owner taken rest front).held_not_free owned, ?_⟩
  intro tested held
  exact (pool.lend owner taken rest front).held_injective held owned

/-- Lending another slot leaves a lent slot lent. -/
theorem Lent.lend
    {pool : Pool holder slot slots} {owner borrower : holder}
    {taken other : slot} {rest : List slot}
    (lent : pool.Lent owner taken) (front : pool.free = other :: rest) :
    (pool.lend borrower other rest front).Lent owner taken := by
  obtain ⟨notFree, onlyOwner⟩ := lent
  rw [front, List.mem_cons, not_or] at notFree
  refine ⟨notFree.2, ?_⟩
  intro tested held
  by_cases testedBorrower : tested = borrower
  · simp only [Pool.lend, testedBorrower, Function.update_self,
      Option.some.injEq] at held
    exact absurd held.symm notFree.1
  · simp only [Pool.lend, Function.update_of_ne testedBorrower] at held
    exact onlyOwner tested held

/-- A lent slot stays lent when anybody else gives a slot back. -/
theorem Lent.giveBack
    {pool : Pool holder slot slots} {owner other : holder}
    {taken returned : slot}
    (lent : pool.Lent owner taken)
    (owned : pool.held other = some returned) (different : other ≠ owner) :
    (pool.giveBack other returned owned).Lent owner taken := by
  obtain ⟨notFree, onlyOwner⟩ := lent
  have returnedNe : returned ≠ taken := by
    intro same
    subst same
    exact different (onlyOwner other owned)
  constructor
  · simp only [Pool.giveBack, List.mem_append, List.mem_singleton, not_or]
    exact ⟨notFree, Ne.symm returnedNe⟩
  · intro tested held
    by_cases testedOther : tested = other
    · simp [Pool.giveBack, testedOther] at held
    · simp only [Pool.giveBack, Function.update_of_ne testedOther] at held
      exact onlyOwner tested held

omit [DecidableEq holder] in
/-- No slot is lost: each is in the queue or has a holder. -/
def Complete (pool : Pool holder slot slots) : Prop :=
  ∀ tested ∈ slots,
    tested ∈ pool.free ∨ ∃ owner, pool.held owner = some tested

/-- Lending loses nothing if the borrower has no slot yet. -/
theorem Complete.lend
    {pool : Pool holder slot slots} {owner : holder} {taken : slot}
    {rest : List slot} (complete : pool.Complete)
    (front : pool.free = taken :: rest) (idle : pool.held owner = none) :
    (pool.lend owner taken rest front).Complete := by
  intro tested isSlot
  rcases complete tested isSlot with isFree | ⟨other, held⟩
  · rw [front] at isFree
    rcases List.mem_cons.mp isFree with isTaken | later
    · refine Or.inr ⟨owner, ?_⟩
      rw [isTaken]
      exact Function.update_self owner (some taken) pool.held
    · exact Or.inl later
  · refine Or.inr ⟨other, ?_⟩
    have different : other ≠ owner := by
      intro same
      rw [same, idle] at held
      cases held
    exact (Function.update_of_ne different (some taken) pool.held).trans held

theorem Complete.giveBack
    {pool : Pool holder slot slots} {owner : holder} {taken : slot}
    (complete : pool.Complete) (owned : pool.held owner = some taken) :
    (pool.giveBack owner taken owned).Complete := by
  intro tested isSlot
  rcases complete tested isSlot with isFree | ⟨other, held⟩
  · exact Or.inl (List.mem_append_left _ isFree)
  · by_cases same : other = owner
    · rw [same, owned] at held
      apply Or.inl
      apply List.mem_append_right
      exact List.mem_singleton.mpr (Option.some.inj held).symm
    · refine Or.inr ⟨other, ?_⟩
      exact (Function.update_of_ne same none pool.held).trans held

/-! ## Pools in several places -/

section Places

universe w

variable {Place : Type w} [DecidableEq Place]
variable {pools : Place → Pool holder slot slots} {place : Place}
variable {owner : holder} {taken : slot} {rest : List slot}

theorem held_update_lend
    (front : (pools place).free = taken :: rest)
    (testedPlace : Place) (tested : holder) :
    (Function.update pools place ((pools place).lend owner taken rest front)
        testedPlace).held tested =
      if tested = owner ∧ testedPlace = place then some taken
      else (pools testedPlace).held tested := by
  by_cases samePlace : testedPlace = place
  · subst testedPlace
    by_cases same : tested = owner
    · simp [Pool.lend, same]
    · simp [Pool.lend, same]
  · simp [samePlace]

theorem held_update_giveBack
    (owned : (pools place).held owner = some taken)
    (testedPlace : Place) (tested : holder) :
    (Function.update pools place ((pools place).giveBack owner taken owned)
        testedPlace).held tested =
      if tested = owner ∧ testedPlace = place then none
      else (pools testedPlace).held tested := by
  by_cases samePlace : testedPlace = place
  · subst testedPlace
    by_cases same : tested = owner
    · simp [Pool.giveBack, same]
    · simp [Pool.giveBack, same]
  · simp [samePlace]

/-- A slot that is lent was free, and no other becomes free. -/
theorem not_free_update_lend
    (front : (pools place).free = taken :: rest)
    {testedPlace : Place} {spare : slot}
    (notFree : spare ∉ (pools testedPlace).free) :
    spare ∉
      (Function.update pools place ((pools place).lend owner taken rest front)
        testedPlace).free := by
  by_cases samePlace : testedPlace = place
  · subst testedPlace
    rw [front, List.mem_cons, not_or] at notFree
    rw [Function.update_self]
    exact notFree.2
  · rw [Function.update_of_ne samePlace]
    exact notFree

/-- Only the slot that is given back becomes free. -/
theorem not_free_update_giveBack
    (owned : (pools place).held owner = some taken)
    {testedPlace : Place} {spare : slot}
    (notFree : spare ∉ (pools testedPlace).free)
    (other : testedPlace = place → spare ≠ taken) :
    spare ∉
      (Function.update pools place ((pools place).giveBack owner taken owned)
        testedPlace).free := by
  by_cases samePlace : testedPlace = place
  · subst testedPlace
    rw [Function.update_self]
    simp only [Pool.giveBack, List.mem_append, List.mem_singleton, not_or]
    exact ⟨notFree, other rfl⟩
  · rw [Function.update_of_ne samePlace]
    exact notFree

theorem complete_update_lend
    (complete : ∀ place, (pools place).Complete)
    (front : (pools place).free = taken :: rest)
    (idle : (pools place).held owner = none) (testedPlace : Place) :
    (Function.update pools place ((pools place).lend owner taken rest front)
      testedPlace).Complete := by
  by_cases samePlace : testedPlace = place
  · rw [samePlace, Function.update_self]
    exact (complete place).lend front idle
  · rw [Function.update_of_ne samePlace]
    exact complete testedPlace

theorem complete_update_giveBack
    (complete : ∀ place, (pools place).Complete)
    (owned : (pools place).held owner = some taken) (testedPlace : Place) :
    (Function.update pools place ((pools place).giveBack owner taken owned)
      testedPlace).Complete := by
  by_cases samePlace : testedPlace = place
  · rw [samePlace, Function.update_self]
    exact (complete place).giveBack owned
  · rw [Function.update_of_ne samePlace]
    exact complete testedPlace

end Places

end Pool

end SlotPools
