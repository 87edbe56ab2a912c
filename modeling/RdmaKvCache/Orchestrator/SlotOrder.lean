import RdmaKvCache.Orchestrator.RouterRuns

/-!
# In which order slots are used

A decode node's slots are in a queue.  An allocation takes the slot at the front and
`free_slot` puts the slot of a request at the back.  So whatever calls are
interleaved, the slots of a node are allocated in the order of their ids first and
then in the order in which they have been freed.
-/

namespace RdmaKvCache

open LabelledRuns

/-- The slots of the node in the order in which they have been allocated. -/
def allocatedSlots (nodeId : ByteString) : List RouterEvent → List Int32
  | [] => []
  | .allocated _ allocatedNode _ slotId :: older =>
      allocatedSlots nodeId older ++
        if allocatedNode = nodeId then [slotId] else []
  | .freeSlot _ :: older => allocatedSlots nodeId older

/-- The slots of the node that a `free_slot` call for the request gives back. -/
def RequestRouter.givenBack
    (router : RequestRouter) (nodeId requestId : ByteString) : List Int32 :=
  if router.requestToDecodeNode.lookup requestId = some nodeId then
    ((router.decodeNodeSlots.lookup nodeId).bind fun allocator =>
      allocator.requestToSlot.lookup requestId).toList
  else
    []

def RouterSystem.givenBackBy
    (system : RouterSystem) (nodeId : ByteString) :
    RouterAction → List Int32
  | .freeSlot requestId => system.router.givenBack nodeId requestId
  | .select _ | .advance _ _ | .incrementNodeLoad _ | .decrementNodeLoad _
  | .updateRegistry _ => []

/-- The slots of the node in the order in which the actions free them. -/
def RouterSystem.freedSlots (nodeId : ByteString) :
    RouterSystem → List RouterAction → List Int32
  | _, [] => []
  | system, action :: rest =>
      system.givenBackBy nodeId action ++
        match system.step action with
        | some next => freedSlots nodeId next rest
        | none => []

def RequestRouter.freeSlotsOf (router : RequestRouter) (nodeId : ByteString) :
    List Int32 :=
  (router.allocatorOf nodeId).freeSlots

namespace SelectState

variable {router next : RequestRouter} {registry : NodeRegistry}
variable {requestId : ByteString} {input : SelectInput}
variable {state reached : SelectState}

theorem selectPrefillNode_allocators
    (router : RequestRouter) (nodes : List NodeInfo) (draw : Nat)
    (nodeId : ByteString) :
    (router.selectPrefillNode nodes draw).2.freeSlotsOf nodeId =
      router.freeSlotsOf nodeId := by
  unfold RequestRouter.selectPrefillNode
  split <;> rfl

theorem selectDecodeNode_allocators
    (router : RequestRouter) (nodes : List NodeInfo) (draw : Nat)
    (nodeId : ByteString) :
    (router.selectDecodeNode nodes draw).2.freeSlotsOf nodeId =
      router.freeSlotsOf nodeId := by
  unfold RequestRouter.selectDecodeNode
  split <;> rfl

/-- A section takes at most the slot at the front of one node, and says so. -/
theorem advance_freeSlots
    (advanced :
      state.advance router registry requestId input = some (next, reached))
    (call : Nat) (nodeId : ByteString) :
    allocatedSlots nodeId (reached.events call requestId) ++
        next.freeSlotsOf nodeId =
      router.freeSlotsOf nodeId := by
  cases section_of_advance advanced with
  | noPrefill | prefillListed | noDecode | decodeListed | returned =>
      rfl
  | prefillRefused prefillNodes chosen
  | prefillSelected prefillNodes chosen =>
      have same :=
        selectPrefillNode_allocators router prefillNodes input.draw nodeId
      rw [chosen] at same
      exact same
  | noSlots prefillNode decodeNodes filtered
  | slotsFiltered prefillNode decodeNodes filtered =>
      have same :=
        RequestRouter.allocatorOf_nodesWithSlots router decodeNodes nodeId
      rw [filtered] at same
      exact congrArg NodeSlotAllocator.freeSlots same
  | decodeRefused prefillNode nodesWithSlots chosen
  | decodeSelected prefillNode nodesWithSlots chosen =>
      have same :=
        selectDecodeNode_allocators router nodesWithSlots input.draw nodeId
      rw [chosen] at same
      exact same
  | notAllocated prefillNode decodeNode failed =>
      rw [(RequestRouter.allocateSlotForNode_none failed).2]
      exact
        congrArg NodeSlotAllocator.freeSlots
          (RequestRouter.allocatorOf_initializeNodeSlots router
            decodeNode.nodeId nodeId)
  | @slotAllocated prefillNode decodeNode slotId _ succeeded =>
      obtain ⟨allocator, allocated, rfl⟩ :=
        RequestRouter.allocateSlotForNode_some succeeded
      have front :
          (router.allocatorOf decodeNode.nodeId).freeSlots =
            slotId :: allocator.freeSlots := by
        rw [NodeSlotAllocator.allocate] at allocated
        split at allocated
        · cases allocated
        · rename_i first rest isFront
          cases allocated
          exact isFront
      simp only [events, allocatedSlots, List.nil_append,
        RequestRouter.freeSlotsOf, RequestRouter.allocatorOf_setAllocator,
        RequestRouter.allocatorOf_initializeNodeSlots]
      by_cases same : decodeNode.nodeId = nodeId
      · rw [if_pos same, if_pos same.symm, ← same, front]
        rfl
      · rw [if_neg same, if_neg (Ne.symm same)]
        rfl

end SelectState

namespace RequestRouter

/-- `free_slot` puts at most the slot of the request at the back of its node. -/
theorem freeSlot_freeSlots
    (router : RequestRouter) (requestId nodeId : ByteString) :
    (router.freeSlot requestId).freeSlotsOf nodeId =
      router.freeSlotsOf nodeId ++ router.givenBack nodeId requestId := by
  rw [freeSlot, givenBack]
  cases mapped : router.requestToDecodeNode.lookup requestId with
  | none =>
      simp
  | some decodeNodeId =>
      simp only [freeSlotForNode, Option.some.injEq]
      by_cases same : decodeNodeId = nodeId
      · rw [if_pos same, same]
        cases found : router.decodeNodeSlots.lookup nodeId with
        | none =>
            simp [freeSlotsOf, allocatorOf, found]
        | some allocator =>
            simp only [Option.bind_some, NodeSlotAllocator.free]
            cases held : allocator.requestToSlot.lookup requestId with
            | none =>
                simp [freeSlotsOf, allocatorOf, found]
            | some slotId =>
                simp [freeSlotsOf, allocatorOf, found]
      · rw [if_neg same, List.append_nil]
        cases found : router.decodeNodeSlots.lookup decodeNodeId with
        | none =>
            rfl
        | some allocator =>
            simp only [NodeSlotAllocator.free]
            cases held : allocator.requestToSlot.lookup requestId with
            | none =>
                rfl
            | some slotId =>
                simp only [Option.map_some, freeSlotsOf, allocatorOf]
                rw [AList.lookup_insert_ne (Ne.symm same)]

end RequestRouter

theorem allocatedSlots_append
    (nodeId : ByteString) (newer older : List RouterEvent) :
    allocatedSlots nodeId (newer ++ older) =
      allocatedSlots nodeId older ++ allocatedSlots nodeId newer := by
  induction newer with
  | nil =>
      exact (List.append_nil _).symm
  | cons event rest inductionHypothesis =>
      cases event with
      | allocated call allocatedNode requestId slotId =>
          rw [List.cons_append, allocatedSlots, inductionHypothesis,
            allocatedSlots, List.append_assoc]
      | freeSlot requestId =>
          exact inductionHypothesis

namespace RouterSystem

/-- What has been allocated and then what is free. -/
def slotOrder (system : RouterSystem) (nodeId : ByteString) : List Int32 :=
  allocatedSlots nodeId system.history ++ system.router.freeSlotsOf nodeId

variable {system next final : RouterSystem}

theorem step_slotOrder
    {action : RouterAction} (taken : system.step action = some next)
    (nodeId : ByteString) :
    next.slotOrder nodeId =
      system.slotOrder nodeId ++ system.givenBackBy nodeId action := by
  cases action with
  | select requestId =>
      cases taken
      exact (List.append_nil _).symm
  | advance index input =>
      simp only [step, Option.bind_eq_some_iff, Option.map_eq_some_iff] at taken
      obtain ⟨call, found, ⟨router, reached⟩, advanced, rfl⟩ := taken
      have kept := SelectState.advance_freeSlots advanced index nodeId
      rw [slotOrder, slotOrder, ← kept, allocatedSlots_append]
      simp only [List.append_assoc, givenBackBy, List.append_nil]
  | freeSlot requestId =>
      cases taken
      simp only [slotOrder, allocatedSlots, RequestRouter.freeSlot_freeSlots,
        givenBackBy, List.append_assoc]
  | incrementNodeLoad nodeId =>
      cases taken
      exact (List.append_nil _).symm
  | decrementNodeLoad loadedNode =>
      cases taken
      have same :=
        RequestRouter.allocatorOf_decrementNodeLoad system.router loadedNode
          nodeId
      rw [slotOrder, slotOrder, RequestRouter.freeSlotsOf, same, givenBackBy,
        List.append_nil]
      rfl
  | updateRegistry registry =>
      cases taken
      exact (List.append_nil _).symm

theorem slotOrder_of_execute
    {actions : List RouterAction}
    (run : execute RouterSystem.step system actions = some final)
    (nodeId : ByteString) :
    final.slotOrder nodeId =
      system.slotOrder nodeId ++ system.freedSlots nodeId actions := by
  induction actions generalizing system with
  | nil =>
      cases run
      exact (List.append_nil _).symm
  | cons action rest inductionHypothesis =>
      obtain ⟨next, taken, remaining⟩ := execute_cons_eq_some run
      rw [freedSlots, taken, inductionHypothesis remaining,
        step_slotOrder taken nodeId, List.append_assoc]

/-- The slots of a node are allocated in the order of their ids, and then each in
the order in which it has been freed; those that have not been allocated since are
free, in this order. -/
theorem slots_used_in_order
    {policy : RoutingPolicy} {slotConfig : RequestRouterSlotConfig}
    {registry : NodeRegistry} {actions : List RouterAction}
    (run :
      execute RouterSystem.step (start policy slotConfig registry) actions =
        some final)
    (nodeId : ByteString) :
    allocatedSlots nodeId final.history ++ final.router.freeSlotsOf nodeId =
      slotIds slotConfig.maxSlotsPerNode ++
        (start policy slotConfig registry).freedSlots nodeId actions :=
  slotOrder_of_execute run nodeId

/-! ## Two slots, freed in the other order -/

def sampleOrder : RouterSystem :=
  start .leastLoaded { maxSlotsPerNode := 2, numLayers := 1, layerSizeMb := 1 }
    (({} : NodeRegistry).addNode (NodeInfo.healthy [1] .prefill) |>.addNode
      (NodeInfo.healthy [2] .decode))

def sampleOrderActions : List RouterAction :=
  let call (index : Nat) (requestId : ByteString) :=
    selectAlone index requestId (NodeInfo.healthy [1] .prefill)
      (NodeInfo.healthy [2] .decode)
  call 0 [10] ++ call 1 [11] ++
    .freeSlot [11] :: .freeSlot [10] :: (call 2 [12] ++ call 3 [13])

theorem slots_used_in_order_sampleOrder :
    ∃ final,
      execute RouterSystem.step sampleOrder sampleOrderActions = some final ∧
        allocatedSlots [2] final.history ++ final.router.freeSlotsOf [2] =
          [0, 1, 1, 0] := by
  have isSome :
      (execute RouterSystem.step sampleOrder sampleOrderActions).isSome =
        true := by
    decide +kernel
  obtain ⟨final, run⟩ := Option.isSome_iff_exists.mp isSome
  have order :
      slotIds 2 ++ sampleOrder.freedSlots [2] sampleOrderActions =
        [0, 1, 1, 0] := by
    decide +kernel
  exact ⟨final, run, (slots_used_in_order run [2]).trans order⟩

end RouterSystem

end RdmaKvCache
