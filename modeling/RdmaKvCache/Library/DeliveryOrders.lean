import Mathlib.Data.List.Basic

/-!
# Delivery in order

Items wait in one list, oldest first, and any number of queues share it: an item
is delivered when it is the oldest waiting item of its queue.  If the items that
precede another one are on the same queue and are there before it, everything
that precedes a delivered item has been delivered.
-/

namespace DeliveryOrders

universe u

variable {item : Type u} {precedes : item → item → Prop}
variable {delivered waiting : List item}

/-- No item is delivered, or waits, ahead of one that precedes it. -/
structure Ordered
    (precedes : item → item → Prop) (delivered waiting : List item) :
    Prop where
  of_delivered :
    ∀ later ∈ delivered, ∀ earlier, precedes earlier later →
      earlier ∈ delivered
  of_waiting :
    ∀ {before later after}, waiting = before ++ later :: after →
      ∀ earlier, precedes earlier later →
        earlier ∈ delivered ∨ earlier ∈ before

/-- The oldest item of a queue and those around it. -/
theorem split_of_find?
    {onQueue : item → Bool} {oldest : item}
    (found : waiting.find? onQueue = some oldest) :
    ∃ ahead behind,
      waiting = ahead ++ oldest :: behind ∧
        waiting.eraseP onQueue = ahead ++ behind ∧
        ∀ other ∈ ahead, onQueue other ≠ true := by
  obtain ⟨isOn, ahead, behind, split, others⟩ :=
    List.find?_eq_some_iff_append.mp found
  have notOn : ∀ other ∈ ahead, onQueue other ≠ true := by
    simpa using others
  refine ⟨ahead, behind, split, ?_, notOn⟩
  rw [split, List.eraseP_append_right _ notOn, List.eraseP_cons_of_pos isOn]

/-- Delivering an item loses none. -/
theorem mem_of_deliver
    {onQueue : item → Bool} {oldest other : item}
    (found : waiting.find? onQueue = some oldest)
    (member : other ∈ delivered ∨ other ∈ waiting) :
    other ∈ delivered ++ [oldest] ∨ other ∈ waiting.eraseP onQueue := by
  obtain ⟨ahead, behind, split, erased, _⟩ := split_of_find? found
  rw [erased]
  rw [split] at member
  simp only [List.mem_append, List.mem_cons, List.not_mem_nil, or_false]
    at member ⊢
  tauto

namespace Ordered

theorem nil : Ordered precedes ([] : List item) [] where
  of_delivered := by
    intro later member
    cases member
  of_waiting := by
    intro before later after split
    cases before <;> cases split

theorem enqueue
    (ordered : Ordered precedes delivered waiting) {last : item}
    (known :
      ∀ earlier, precedes earlier last →
        earlier ∈ delivered ∨ earlier ∈ waiting) :
    Ordered precedes delivered (waiting ++ [last]) where
  of_delivered := ordered.of_delivered
  of_waiting := by
    intro before later after split earlier isEarlier
    rcases List.append_eq_append_iff.mp split with
      ⟨middle, rfl, ends⟩ | ⟨middle, isWaiting, ends⟩
    · rcases List.singleton_eq_append_iff.mp ends with
        ⟨rfl, same⟩ | ⟨_, same⟩
      · cases same
        rw [List.append_nil]
        exact known earlier isEarlier
      · cases same
    · rcases List.cons_eq_append_iff.mp ends with
        ⟨rfl, same⟩ | ⟨after, rfl, _⟩
      · cases same
        rw [List.append_nil] at isWaiting
        rw [← isWaiting]
        exact known earlier isEarlier
      · exact ordered.of_waiting isWaiting earlier isEarlier

/-- Delivering the oldest item of a queue keeps the order. -/
theorem deliver
    (ordered : Ordered precedes delivered waiting)
    {onQueue : item → Bool} {oldest : item}
    (found : waiting.find? onQueue = some oldest)
    (sameQueue :
      ∀ earlier, precedes earlier oldest → onQueue earlier = true) :
    Ordered precedes (delivered ++ [oldest]) (waiting.eraseP onQueue) := by
  obtain ⟨ahead, behind, split, erased, others⟩ := split_of_find? found
  rw [erased]
  constructor
  · intro later member earlier isEarlier
    refine List.mem_append_left _ ?_
    rcases List.mem_append.mp member with arrived | isOldest
    · exact ordered.of_delivered later arrived earlier isEarlier
    · rw [List.mem_singleton.mp isOldest] at isEarlier
      rcases ordered.of_waiting split earlier isEarlier with arrived | isAhead
      · exact arrived
      · exact absurd (sameQueue earlier isEarlier) (others earlier isAhead)
  · intro before later after remaining earlier isEarlier
    rcases List.append_eq_append_iff.mp remaining with
      ⟨middle, rfl, ends⟩ | ⟨middle, rfl, ends⟩
    · have whole :
          waiting = (ahead ++ oldest :: middle) ++ later :: after := by
        rw [split, ends]
        simp
      have known := ordered.of_waiting whole earlier isEarlier
      simp only [List.mem_append, List.mem_cons, List.not_mem_nil, or_false]
        at known ⊢
      tauto
    · rcases List.cons_eq_append_iff.mp ends with
        ⟨rfl, isBehind⟩ | ⟨middle, rfl, _⟩
      · have whole : waiting = (before ++ [oldest]) ++ later :: after := by
          rw [split, isBehind]
          simp
        have known := ordered.of_waiting whole earlier isEarlier
        simp only [List.mem_append, List.mem_cons, List.not_mem_nil, or_false]
          at known ⊢
        tauto
      · have whole :
            waiting = before ++ later :: (middle ++ oldest :: behind) := by
          rw [split]
          simp
        have known := ordered.of_waiting whole earlier isEarlier
        simp only [List.mem_append] at known ⊢
        tauto

end Ordered

end DeliveryOrders
