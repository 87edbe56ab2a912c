import Mathlib.Data.List.Range
import Mathlib.Data.Nat.ModEq

/-!
# Queues that are signaled in batches

Of the entries of a queue only each last one of a batch is signaled.  A signal
reclaims the entries up to the first signaled one, which is one batch.
-/

namespace SignaledBatches

/-- Whether each of the first `length` entries is signaled. -/
def signals (batch length : Nat) : List Bool :=
  (List.range length).map fun index => decide ((index + 1) % batch = 0)

/-- The entries after the first signaled one. -/
def reclaim : List Bool → List Bool
  | [] => []
  | signaled :: rest => if signaled then rest else reclaim rest

variable {batch length : Nat}

@[simp]
theorem length_signals : (signals batch length).length = length := by
  rw [signals, List.length_map, List.length_range]

theorem signals_succ :
    signals batch (length + 1) =
      signals batch length ++ [decide ((length + 1) % batch = 0)] := by
  rw [signals, List.range_succ, List.map_append]
  rfl

theorem count_signals :
    (signals batch length).count true = length / batch := by
  induction length with
  | zero =>
      exact (Nat.zero_div batch).symm
  | succ length inductionHypothesis =>
      rw [signals_succ, List.count_append, inductionHypothesis, Nat.succ_div]
      by_cases isLast : (length + 1) % batch = 0
      · rw [if_pos (Nat.dvd_of_mod_eq_zero isLast), decide_eq_true isLast]
        rfl
      · have notLast : ¬ batch ∣ length + 1 := fun divides =>
          isLast (Nat.mod_eq_zero_of_dvd divides)
        rw [if_neg notLast, decide_eq_false isLast]
        rfl

theorem signals_batch_add :
    signals batch (batch + length) =
      signals batch batch ++ signals batch length := by
  rw [signals, List.range_add, List.map_append, List.map_map]
  congr 1
  apply List.map_congr_left
  intro index _
  dsimp only [Function.comp_apply]
  rw [Nat.add_assoc, Nat.add_mod_left]

theorem reclaim_append_of_none
    {entries rest : List Bool} (none : true ∉ entries) :
    reclaim (entries ++ rest) = reclaim rest := by
  induction entries with
  | nil =>
      rfl
  | cons signaled others inductionHypothesis =>
      rw [List.mem_cons, not_or] at none
      have notSignaled : ¬ signaled = true := fun same => none.1 same.symm
      rw [List.cons_append, reclaim, if_neg notSignaled]
      exact inductionHypothesis none.2

/-- A signal reclaims one batch. -/
theorem reclaim_signals (positive : 0 < batch) :
    reclaim (signals batch (batch + length)) = signals batch length := by
  obtain ⟨earlier, rfl⟩ := Nat.exists_eq_add_of_lt positive
  rw [Nat.zero_add] at *
  have noneEarlier : true ∉ signals (earlier + 1) earlier := by
    intro member
    obtain ⟨index, inRange, isLast⟩ := List.mem_map.mp member
    have below : index < earlier := List.mem_range.mp inRange
    rw [decide_eq_true_eq, Nat.mod_eq_of_lt (by omega)] at isLast
    omega
  rw [signals_batch_add, signals_succ, List.append_assoc,
    reclaim_append_of_none noneEarlier, Nat.mod_self]
  rfl

/-! ## Waiting for one signal -/

/-- The last entry is the only one which is signaled. -/
def OnlyLast (entries : List Bool) : Prop :=
  entries.getLast? = some true ∧ entries.count true = 1

instance (entries : List Bool) : Decidable (OnlyLast entries) :=
  inferInstanceAs (Decidable (_ ∧ _))

/-- No entry is left once the signal has come. -/
theorem OnlyLast.eq_nil
    {done left : List Bool} (onlyLast : OnlyLast (done ++ left))
    (signaled : 0 < done.count true) :
    left = [] := by
  obtain ⟨last, once⟩ := onlyLast
  rw [List.count_append] at once
  by_contra someLeft
  rw [List.getLast?_append_of_ne_nil done someLeft] at last
  have member : true ∈ left := List.mem_of_getLast? last
  have positive := List.count_pos_iff.mpr member
  omega

/-- Otherwise, if there is a signal at all, the first one leaves some entries. -/
theorem exists_left_of_not_onlyLast
    {entries : List Bool} (notOnly : ¬ OnlyLast entries)
    (signaled : true ∈ entries) :
    ∃ earlier left,
      entries = earlier ++ true :: left ∧ true ∉ earlier ∧ left ≠ [] := by
  obtain ⟨earlier, left, split, noneEarlier⟩ :=
    List.eq_append_cons_of_mem signaled
  refine ⟨earlier, left, split, noneEarlier, ?_⟩
  intro nothingLeft
  apply notOnly
  rw [split, nothingLeft]
  constructor
  · rw [List.getLast?_append_of_ne_nil earlier (List.cons_ne_nil true [])]
    rfl
  · rw [List.count_append, List.count_eq_zero.mpr noneEarlier]
    rfl

/-- Of entries that are signaled in batches, exactly those of one batch have their
last one as the only signaled one. -/
theorem onlyLast_signals_iff (positive : 0 < batch) :
    OnlyLast (signals batch length) ↔ length = batch := by
  rw [OnlyLast, count_signals]
  constructor
  · intro onlyLast
    obtain ⟨last, once⟩ := onlyLast
    cases length with
    | zero =>
        cases last
    | succ length =>
        rw [signals_succ, List.getLast?_concat, Option.some.injEq,
          decide_eq_true_eq] at last
        have whole := Nat.div_add_mod (length + 1) batch
        rw [once, last] at whole
        omega
  · intro oneBatch
    rw [oneBatch, Nat.div_self positive]
    refine ⟨?_, rfl⟩
    obtain ⟨earlier, rfl⟩ := Nat.exists_eq_add_of_lt positive
    rw [Nat.zero_add, signals_succ, List.getLast?_concat, Nat.mod_self]
    rfl

end SignaledBatches
