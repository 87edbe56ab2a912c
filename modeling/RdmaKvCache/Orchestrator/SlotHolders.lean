import RdmaKvCache.Orchestrator.RequestRouter

/-!
# Which request holds a slot

The slot a request holds on a decode node and the node it is mapped to are all
that matters for giving slots back.  Each operation of the router is described
by what it does to these two.
-/

namespace RdmaKvCache

namespace RequestRouter

/-- The slot the request holds on a decode node. -/
def slotOf (router : RequestRouter) (nodeId requestId : ByteString) :
    Option Int32 :=
  (router.allocatorOf nodeId).requestToSlot.lookup requestId

/-- The decode node `free_slot` gives the slot of the request back to. -/
def decodeNodeOf (router : RequestRouter) (requestId : ByteString) :
    Option ByteString :=
  router.requestToDecodeNode.lookup requestId

/-- Nobody holds another slot or is mapped to another node than before. -/
structure SameHolders (router next : RequestRouter) : Prop where
  slotOf_eq :
    ∀ nodeId requestId,
      next.slotOf nodeId requestId = router.slotOf nodeId requestId
  decodeNodeOf_eq :
    ∀ requestId, next.decodeNodeOf requestId = router.decodeNodeOf requestId

namespace SameHolders

variable {router middle next : RequestRouter}

theorem of_allocatorOf
    (sameAllocators :
      ∀ nodeId, next.allocatorOf nodeId = router.allocatorOf nodeId)
    (sameMap : next.requestToDecodeNode = router.requestToDecodeNode) :
    router.SameHolders next where
  slotOf_eq := by
    intro nodeId requestId
    rw [slotOf, sameAllocators, slotOf]
  decodeNodeOf_eq := by
    intro requestId
    rw [decodeNodeOf, sameMap, decodeNodeOf]

theorem trans
    (first : router.SameHolders middle) (second : middle.SameHolders next) :
    router.SameHolders next where
  slotOf_eq := by
    intro nodeId requestId
    exact
      (second.slotOf_eq nodeId requestId).trans
        (first.slotOf_eq nodeId requestId)
  decodeNodeOf_eq := by
    intro requestId
    exact
      (second.decodeNodeOf_eq requestId).trans
        (first.decodeNodeOf_eq requestId)

theorem incrementNodeLoad (router : RequestRouter) (nodeId : ByteString) :
    router.SameHolders (router.incrementNodeLoad nodeId) :=
  of_allocatorOf (fun _ => rfl) rfl

theorem decrementNodeLoad (router : RequestRouter) (nodeId : ByteString) :
    router.SameHolders (router.decrementNodeLoad nodeId) := by
  refine of_allocatorOf (allocatorOf_decrementNodeLoad router nodeId) ?_
  rw [RequestRouter.decrementNodeLoad]
  split
  · rfl
  · split <;> rfl

end SameHolders

/-- Slots, the nodes the requests are mapped to and the loads are the same. -/
structure SameAssignments (router next : RequestRouter) : Prop where
  allocators :
    ∀ nodeId, next.allocatorOf nodeId = router.allocatorOf nodeId
  decodeNodes : next.requestToDecodeNode = router.requestToDecodeNode
  loads : next.nodeLoads = router.nodeLoads

namespace SameAssignments

variable {router middle next : RequestRouter}

theorem refl (router : RequestRouter) : router.SameAssignments router :=
  ⟨fun _ => rfl, rfl, rfl⟩

theorem trans
    (first : router.SameAssignments middle)
    (second : middle.SameAssignments next) :
    router.SameAssignments next where
  allocators := by
    intro nodeId
    rw [second.allocators, first.allocators]
  decodeNodes := second.decodeNodes.trans first.decodeNodes
  loads := second.loads.trans first.loads

theorem sameHolders (same : router.SameAssignments next) :
    router.SameHolders next :=
  .of_allocatorOf same.allocators same.decodeNodes

theorem initializeNodeSlots (router : RequestRouter) (nodeId : ByteString) :
    router.SameAssignments (router.initializeNodeSlots nodeId) where
  allocators := allocatorOf_initializeNodeSlots router nodeId
  decodeNodes := initializeNodeSlots_requestToDecodeNode router nodeId
  loads := by
    rw [RequestRouter.initializeNodeSlots]
    split <;> rfl

theorem nodesWithSlots (router : RequestRouter) (nodes : List NodeInfo) :
    router.SameAssignments (router.nodesWithSlots nodes).2 := by
  induction nodes generalizing router with
  | nil =>
      exact .refl router
  | cons node rest inductionHypothesis =>
      have listed :=
        (initializeNodeSlots router node.nodeId).trans
          (inductionHypothesis (router.initializeNodeSlots node.nodeId))
      simp only [RequestRouter.nodesWithSlots]
      split <;>
        exact listed

theorem selectPrefillNode
    (router : RequestRouter) (nodes : List NodeInfo) (draw : Nat) :
    router.SameAssignments (router.selectPrefillNode nodes draw).2 := by
  rw [RequestRouter.selectPrefillNode]
  split <;>
    exact ⟨fun _ => rfl, rfl, rfl⟩

theorem selectDecodeNode
    (router : RequestRouter) (nodes : List NodeInfo) (draw : Nat) :
    router.SameAssignments (router.selectDecodeNode nodes draw).2 := by
  rw [RequestRouter.selectDecodeNode]
  split <;>
    exact ⟨fun _ => rfl, rfl, rfl⟩

end SameAssignments

/-! ## Giving back -/

theorem slotOf_setAllocator
    (router : RequestRouter) (nodeId tested requestId : ByteString)
    (allocator : NodeSlotAllocator) :
    (router.setAllocator nodeId allocator).slotOf tested requestId =
      if tested = nodeId then allocator.requestToSlot.lookup requestId
      else router.slotOf tested requestId := by
  rw [slotOf, allocatorOf_setAllocator]
  split <;> rfl

theorem NodeSlotAllocator.lookup_free
    {allocator freed : NodeSlotAllocator} {requestId : ByteString}
    (given : allocator.free requestId = some freed) (tested : ByteString) :
    freed.requestToSlot.lookup tested =
      if tested = requestId then none
      else allocator.requestToSlot.lookup tested := by
  obtain ⟨slotId, _, rfl⟩ := Option.map_eq_some_iff.mp given
  by_cases same : tested = requestId
  · subst tested
    simp
  · simp [same, AList.lookup_erase_ne same]

/-- After `free_slot_for_node` the request holds nothing on that node. -/
theorem slotOf_freeSlotForNode
    (router : RequestRouter) (nodeId requestId testedNode tested : ByteString) :
    (router.freeSlotForNode nodeId requestId).slotOf testedNode tested =
      if tested = requestId ∧ testedNode = nodeId then none
      else router.slotOf testedNode tested := by
  by_cases other : testedNode = nodeId
  · subst testedNode
    by_cases same : tested = requestId
    · subst tested
      simp only [and_self, if_true]
      rw [freeSlotForNode]
      split
      · rename_i absent
        simp [slotOf, allocatorOf, absent, NodeSlotAllocator.new]
      · rename_i allocator present
        split
        · rename_i refused
          have notHeld : allocator.requestToSlot.lookup requestId = none := by
            simpa [NodeSlotAllocator.free] using refused
          simpa [slotOf, allocatorOf, present] using notHeld
        · rename_i freed given
          have erased :=
            slotOf_setAllocator router nodeId nodeId requestId freed
          simp only [if_true] at erased
          exact
            erased.trans
              (by simp [NodeSlotAllocator.lookup_free given])
    · simp only [same, false_and, if_false]
      rw [freeSlotForNode]
      split
      · rfl
      · rename_i allocator present
        split
        · rfl
        · rename_i freed given
          have kept := slotOf_setAllocator router nodeId nodeId tested freed
          simp only [if_true] at kept
          exact
            kept.trans
              (by
                simp [NodeSlotAllocator.lookup_free given, same, slotOf,
                  allocatorOf, present])
  · simp only [other, and_false, if_false]
    rw [freeSlotForNode]
    split
    · rfl
    · split
      · rfl
      · rename_i freed given
        have kept := slotOf_setAllocator router nodeId testedNode tested freed
        rw [if_neg other] at kept
        exact kept

theorem decodeNodeOf_freeSlotForNode
    (router : RequestRouter) (nodeId requestId tested : ByteString) :
    (router.freeSlotForNode nodeId requestId).decodeNodeOf tested =
      router.decodeNodeOf tested := by
  rw [freeSlotForNode]
  split
  · rfl
  · split <;> rfl

theorem slotOf_freeSlot
    (router : RequestRouter) (requestId nodeId tested : ByteString) :
    (router.freeSlot requestId).slotOf nodeId tested =
      if tested = requestId ∧ router.decodeNodeOf requestId = some nodeId then
        none
      else router.slotOf nodeId tested := by
  rw [freeSlot]
  split
  · rename_i unmapped
    simp [decodeNodeOf, unmapped]
  · rename_i mappedNode mapped
    rw [slotOf_freeSlotForNode]
    simp only [decodeNodeOf, mapped, Option.some.injEq, eq_comm (a := nodeId)]
    rfl

theorem decodeNodeOf_freeSlot
    (router : RequestRouter) (requestId tested : ByteString) :
    (router.freeSlot requestId).decodeNodeOf tested =
      if tested = requestId then none else router.decodeNodeOf tested := by
  rw [freeSlot]
  split
  · rename_i unmapped
    by_cases same : tested = requestId
    · subst tested
      simpa [decodeNodeOf] using unmapped
    · simp [same]
  · rw [decodeNodeOf_freeSlotForNode]
    by_cases same : tested = requestId
    · subst tested
      simp [decodeNodeOf]
    · simp [decodeNodeOf, same, AList.lookup_erase_ne same]

/-! ## Taking a slot -/

/-- The request is given this slot of this node, and nobody else anything. -/
structure TakesSlot
    (router next : RequestRouter) (requestId nodeId : ByteString)
    (slotId : Int32) : Prop where
  slotOf_eq :
    ∀ testedNode tested,
      next.slotOf testedNode tested =
        if tested = requestId ∧ testedNode = nodeId then some slotId
        else router.slotOf testedNode tested
  decodeNodeOf_eq :
    ∀ tested,
      next.decodeNodeOf tested =
        if tested = requestId then some nodeId else router.decodeNodeOf tested

theorem TakesSlot.of_allocated
    {router next : RequestRouter} {nodeId requestId : ByteString}
    {slotId : Int32}
    (allocated :
      router.allocateSlotForNode nodeId requestId = (some slotId, next)) :
    router.TakesSlot (next.trackDecodeNode requestId nodeId) requestId nodeId
      slotId := by
  obtain ⟨allocator, taken, rfl⟩ := allocateSlotForNode_some allocated
  have recorded :
      allocator.requestToSlot =
        (router.allocatorOf nodeId).requestToSlot.insert requestId slotId := by
    rw [NodeSlotAllocator.allocate] at taken
    split at taken
    · cases taken
    · cases taken
      rfl
  have sameHolders :=
    (SameAssignments.initializeNodeSlots router nodeId).sameHolders
  constructor
  · intro testedNode tested
    have set :=
      slotOf_setAllocator (router.initializeNodeSlots nodeId) nodeId testedNode
        tested allocator
    refine Eq.trans set ?_
    rw [recorded, sameHolders.slotOf_eq]
    by_cases sameNode : testedNode = nodeId
    · subst testedNode
      by_cases same : tested = requestId
      · subst tested
        simp
      · simp [same, AList.lookup_insert_ne same, slotOf]
    · simp [sameNode]
  · intro tested
    by_cases same : tested = requestId
    · subst tested
      simp [decodeNodeOf, trackDecodeNode]
    · simp [decodeNodeOf, trackDecodeNode, setAllocator, same,
        AList.lookup_insert_ne same]

theorem TakesSlot.of_sameHolders
    {router middle next : RequestRouter} {nodeId requestId : ByteString}
    {slotId : Int32} (same : router.SameHolders middle)
    (takes : middle.TakesSlot next requestId nodeId slotId) :
    router.TakesSlot next requestId nodeId slotId where
  slotOf_eq := by
    intro testedNode tested
    rw [takes.slotOf_eq, same.slotOf_eq]
  decodeNodeOf_eq := by
    intro tested
    rw [takes.decodeNodeOf_eq, same.decodeNodeOf_eq]

/-- A call running alone gives the request one slot and maps it to the slot's
node, or gives nobody anything. -/
theorem selectNodesAndAllocateSlot_cases
    (router : RequestRouter) (prefillNodes decodeNodes : List NodeInfo)
    (prefillDraw decodeDraw : Nat) (requestId : ByteString) :
    (∃ next,
        router.selectNodesAndAllocateSlot prefillNodes decodeNodes prefillDraw
            decodeDraw requestId = (none, next) ∧
          router.SameAssignments next) ∨
      ∃ routing next,
        router.selectNodesAndAllocateSlot prefillNodes decodeNodes prefillDraw
            decodeDraw requestId = (some routing, next) ∧
          router.TakesSlot next requestId routing.decodeNode.nodeId
            routing.slotId := by
  rcases selectNodesAndAllocateSlot_of_kept router.SameAssignments
      (fun middle nodes draw same =>
        same.trans (SameAssignments.selectPrefillNode middle nodes draw))
      (fun middle nodes same =>
        same.trans (SameAssignments.nodesWithSlots middle nodes))
      (fun middle nodes draw same =>
        same.trans (SameAssignments.selectDecodeNode middle nodes draw))
      (fun middle nodeId same =>
        same.trans (SameAssignments.initializeNodeSlots middle nodeId))
      (SameAssignments.refl router) prefillNodes decodeNodes prefillDraw
      decodeDraw requestId with
    refused | ⟨routing, middle, allocated, same, allocates, selects⟩
  · exact Or.inl refused
  · exact
      Or.inr
        ⟨routing, _, selects,
          (TakesSlot.of_allocated allocates).of_sameHolders same.sameHolders⟩

end RequestRouter

end RdmaKvCache
