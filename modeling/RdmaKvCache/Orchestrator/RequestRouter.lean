import RdmaKvCache.Library.SlotPools
import RdmaKvCache.Orchestrator.NodeRegistry

/-!
# The request router

`RequestRouter` chooses a prefill and a decode node for a request and takes one
slot of the decode node for it.  Each definition below that changes the router
is the body of one critical section of the source, so that callers can be
interleaved between them.

An allocator represents a pool of exclusive slots, and a decode node that has
no allocator yet represents the pool nobody has taken a slot from.
-/

namespace RdmaKvCache

structure RequestRouterSlotConfig where
  maxSlotsPerNode : Int32 := 8
  bufferSizeMb : UInt64 := 16384
  numLayers : Int32 := 32
  layerSizeMb : UInt64 := 128
  deriving DecidableEq

namespace RequestRouterSlotConfig

def getRequestSizeMb (slotConfig : RequestRouterSlotConfig) : UInt64 :=
  slotConfig.numLayers.toInt64.toUInt64 * slotConfig.layerSizeMb

/-- The request size in bytes, as `select_nodes_and_allocate_slot` computes it. -/
def requestSizeBytes (slotConfig : RequestRouterSlotConfig) : UInt64 :=
  slotConfig.getRequestSizeMb * 1024 * 1024

def slotBaseOffset
    (slotConfig : RequestRouterSlotConfig) (slotId : Int32) : UInt64 :=
  slotId.toInt64.toUInt64 * slotConfig.requestSizeBytes

end RequestRouterSlotConfig

/-- The slot numbers `0, 1, ..., maxSlots - 1`, none when `maxSlots` is not
positive. -/
def slotIds (maxSlots : Int32) : List Int32 :=
  (List.range maxSlots.toInt.toNat).map Int32.ofNat

structure NodeSlotAllocator where
  nodeId : ByteString
  maxSlots : Int32
  freeSlots : List Int32
  requestToSlot : UnorderedMap ByteString Int32
  slotToRequest : UnorderedMap Int32 ByteString

namespace NodeSlotAllocator

def new (nodeId : ByteString) (maxSlots : Int32) : NodeSlotAllocator where
  nodeId := nodeId
  maxSlots := maxSlots
  freeSlots := slotIds maxSlots
  requestToSlot := ∅
  slotToRequest := ∅

def hasFreeSlot (allocator : NodeSlotAllocator) : Bool :=
  !allocator.freeSlots.isEmpty

def availableSlots (allocator : NodeSlotAllocator) : Int32 :=
  Int32.ofNat allocator.freeSlots.length

/-- Pop the front slot and record it for the request, in both maps. -/
def allocate (allocator : NodeSlotAllocator) (requestId : ByteString) :
    Option (Int32 × NodeSlotAllocator) :=
  match allocator.freeSlots with
  | [] => none
  | slotId :: rest =>
      some (slotId,
        { allocator with
          freeSlots := rest
          requestToSlot := allocator.requestToSlot.insert requestId slotId
          slotToRequest := allocator.slotToRequest.insert slotId requestId })

/-- Push the slot of the request back and forget the request. -/
def free (allocator : NodeSlotAllocator) (requestId : ByteString) :
    Option NodeSlotAllocator :=
  (allocator.requestToSlot.lookup requestId).map fun slotId =>
    { allocator with
      freeSlots := allocator.freeSlots ++ [slotId]
      requestToSlot := allocator.requestToSlot.erase requestId
      slotToRequest := allocator.slotToRequest.erase slotId }

end NodeSlotAllocator

inductive RoutingPolicy where
  | roundRobin
  | leastLoaded
  | random
  deriving DecidableEq

structure RoutingResult where
  prefillNode : NodeInfo
  decodeNode : NodeInfo
  slotId : Int32
  slotBaseOffset : UInt64
  deriving DecidableEq

structure RequestRouter where
  policy : RoutingPolicy := .leastLoaded
  slotConfig : RequestRouterSlotConfig := {}
  nodeLoads : UnorderedMap ByteString Int32 := ∅
  prefillRrIndex : UInt64 := 0
  decodeRrIndex : UInt64 := 0
  decodeNodeSlots : UnorderedMap ByteString NodeSlotAllocator := ∅
  requestToDecodeNode : UnorderedMap ByteString ByteString := ∅

namespace RequestRouter

/-! ## Choosing among nodes -/

def getNodeLoad (router : RequestRouter) (nodeId : ByteString) : Int32 :=
  (router.nodeLoads.lookup nodeId).getD 0

def incrementNodeLoad (router : RequestRouter) (nodeId : ByteString) :
    RequestRouter :=
  { router with
    nodeLoads :=
      router.nodeLoads.insert nodeId (router.getNodeLoad nodeId + 1) }

/-- The load of an unknown node is left alone, and no load falls below zero. -/
def decrementNodeLoad (router : RequestRouter) (nodeId : ByteString) :
    RequestRouter :=
  match router.nodeLoads.lookup nodeId with
  | none => router
  | some load =>
      if 0 < load then
        { router with nodeLoads := router.nodeLoads.insert nodeId (load - 1) }
      else
        router

def selectLeastLoaded (router : RequestRouter) (nodes : List NodeInfo) :
    Option NodeInfo :=
  (nodes.foldl
    (fun (best : Option NodeInfo × Int32) node =>
      let load := router.getNodeLoad node.nodeId
      if load < best.2 then (some node, load) else best)
    (none, Int32.maxValue)).1

def selectRoundRobin (nodes : List NodeInfo) (index : UInt64) :
    Option NodeInfo :=
  nodes[index.toNat % nodes.length]?

/-- `draw` is what the random generator yields. -/
def selectRandom (nodes : List NodeInfo) (draw : Nat) : Option NodeInfo :=
  nodes[draw % nodes.length]?

def selectPrefillNode
    (router : RequestRouter) (nodes : List NodeInfo) (draw : Nat) :
    Option NodeInfo × RequestRouter :=
  match router.policy with
  | .roundRobin =>
      (selectRoundRobin nodes router.prefillRrIndex,
        { router with prefillRrIndex := router.prefillRrIndex + 1 })
  | .leastLoaded => (router.selectLeastLoaded nodes, router)
  | .random => (selectRandom nodes draw, router)

/-- The choice at the end of `select_decode_node_with_slot`. -/
def selectDecodeNode
    (router : RequestRouter) (nodes : List NodeInfo) (draw : Nat) :
    Option NodeInfo × RequestRouter :=
  match router.policy with
  | .roundRobin =>
      (selectRoundRobin nodes router.decodeRrIndex,
        { router with decodeRrIndex := router.decodeRrIndex + 1 })
  | .leastLoaded => (router.selectLeastLoaded nodes, router)
  | .random => (selectRandom nodes draw, router)

/-! ## Critical sections of `slot_mutex_` -/

def initializeNodeSlots (router : RequestRouter) (nodeId : ByteString) :
    RequestRouter :=
  match router.decodeNodeSlots.lookup nodeId with
  | some _ => router
  | none =>
      { router with
        decodeNodeSlots :=
          router.decodeNodeSlots.insert nodeId
            (.new nodeId router.slotConfig.maxSlotsPerNode) }

/-- The allocator of a decode node, a new one when there is none yet. -/
def allocatorOf (router : RequestRouter) (nodeId : ByteString) :
    NodeSlotAllocator :=
  (router.decodeNodeSlots.lookup nodeId).getD
    (.new nodeId router.slotConfig.maxSlotsPerNode)

/-- The locked block of `select_decode_node_with_slot`. -/
def nodesWithSlots (router : RequestRouter) :
    List NodeInfo → List NodeInfo × RequestRouter
  | [] => ([], router)
  | node :: rest =>
      let initialized := router.initializeNodeSlots node.nodeId
      let (selected, final) := initialized.nodesWithSlots rest
      if (initialized.allocatorOf node.nodeId).hasFreeSlot then
        (node :: selected, final)
      else
        (selected, final)

def allocateSlotForNode
    (router : RequestRouter) (decodeNodeId requestId : ByteString) :
    Option Int32 × RequestRouter :=
  let initialized := router.initializeNodeSlots decodeNodeId
  match (initialized.allocatorOf decodeNodeId).allocate requestId with
  | none => (none, initialized)
  | some (slotId, allocator) =>
      (some slotId,
        { initialized with
          decodeNodeSlots :=
            initialized.decodeNodeSlots.insert decodeNodeId allocator })

def trackDecodeNode
    (router : RequestRouter) (requestId decodeNodeId : ByteString) :
    RequestRouter :=
  { router with
    requestToDecodeNode :=
      router.requestToDecodeNode.insert requestId decodeNodeId }

def freeSlotForNode
    (router : RequestRouter) (decodeNodeId requestId : ByteString) :
    RequestRouter :=
  match router.decodeNodeSlots.lookup decodeNodeId with
  | none => router
  | some allocator =>
      match allocator.free requestId with
      | none => router
      | some freed =>
          { router with
            decodeNodeSlots :=
              router.decodeNodeSlots.insert decodeNodeId freed }

def freeSlot (router : RequestRouter) (requestId : ByteString) :
    RequestRouter :=
  match router.requestToDecodeNode.lookup requestId with
  | none => router
  | some decodeNodeId =>
      { router with
        requestToDecodeNode :=
          router.requestToDecodeNode.erase requestId
      }.freeSlotForNode decodeNodeId requestId

/-- Not initialized means that all slots are free. -/
def getAvailableSlots (router : RequestRouter) (decodeNodeId : ByteString) :
    Int32 :=
  match router.decodeNodeSlots.lookup decodeNodeId with
  | none => router.slotConfig.maxSlotsPerNode
  | some allocator => allocator.availableSlots

/-! ## Selection running alone -/

/-- `select_nodes_and_allocate_slot` with no other thread in between, given the
healthy nodes the registry lists and what the random generator yields. -/
def selectNodesAndAllocateSlot
    (router : RequestRouter) (prefillNodes decodeNodes : List NodeInfo)
    (prefillDraw decodeDraw : Nat) (requestId : ByteString) :
    Option RoutingResult × RequestRouter :=
  if prefillNodes.isEmpty then (none, router) else
  match router.selectPrefillNode prefillNodes prefillDraw with
  | (none, afterPrefill) => (none, afterPrefill)
  | (some prefillNode, afterPrefill) =>
      if decodeNodes.isEmpty then (none, afterPrefill) else
      let (withSlots, listed) := afterPrefill.nodesWithSlots decodeNodes
      if withSlots.isEmpty then (none, listed) else
      match listed.selectDecodeNode withSlots decodeDraw with
      | (none, afterDecode) => (none, afterDecode)
      | (some decodeNode, afterDecode) =>
          match afterDecode.allocateSlotForNode decodeNode.nodeId requestId with
          | (none, allocated) => (none, allocated)
          | (some slotId, allocated) =>
              (some
                { prefillNode := prefillNode
                  decodeNode := decodeNode
                  slotId := slotId
                  slotBaseOffset := router.slotConfig.slotBaseOffset slotId },
                allocated.trackDecodeNode requestId decodeNode.nodeId)

/-! ## What the critical sections do to the allocators -/

@[simp]
theorem initializeNodeSlots_slotConfig
    (router : RequestRouter) (nodeId : ByteString) :
    (router.initializeNodeSlots nodeId).slotConfig = router.slotConfig := by
  rw [initializeNodeSlots]
  split <;> rfl

@[simp]
theorem initializeNodeSlots_requestToDecodeNode
    (router : RequestRouter) (nodeId : ByteString) :
    (router.initializeNodeSlots nodeId).requestToDecodeNode =
      router.requestToDecodeNode := by
  rw [initializeNodeSlots]
  split <;> rfl

@[simp]
theorem allocatorOf_initializeNodeSlots
    (router : RequestRouter) (nodeId tested : ByteString) :
    (router.initializeNodeSlots nodeId).allocatorOf tested =
      router.allocatorOf tested := by
  rw [initializeNodeSlots]
  split
  · rfl
  · rename_i absent
    by_cases same : tested = nodeId
    · subst tested
      simp [allocatorOf, absent]
    · simp [allocatorOf, AList.lookup_insert_ne same]

/-- Replacing the allocator of one node. -/
def setAllocator
    (router : RequestRouter) (nodeId : ByteString)
    (allocator : NodeSlotAllocator) : RequestRouter :=
  { router with
    decodeNodeSlots := router.decodeNodeSlots.insert nodeId allocator }

theorem allocatorOf_setAllocator
    (router : RequestRouter) (nodeId tested : ByteString)
    (allocator : NodeSlotAllocator) :
    (router.setAllocator nodeId allocator).allocatorOf tested =
      if tested = nodeId then allocator else router.allocatorOf tested := by
  by_cases same : tested = nodeId
  · subst tested
    simp [allocatorOf, setAllocator]
  · simp [allocatorOf, setAllocator, same, AList.lookup_insert_ne same]

theorem nodesWithSlots_slotConfig
    (router : RequestRouter) (nodes : List NodeInfo) :
    (router.nodesWithSlots nodes).2.slotConfig = router.slotConfig := by
  induction nodes generalizing router with
  | nil =>
      rfl
  | cons node rest inductionHypothesis =>
      simp only [nodesWithSlots]
      split <;> simp [inductionHypothesis]

theorem allocatorOf_nodesWithSlots
    (router : RequestRouter) (nodes : List NodeInfo) (tested : ByteString) :
    (router.nodesWithSlots nodes).2.allocatorOf tested =
      router.allocatorOf tested := by
  induction nodes generalizing router with
  | nil =>
      rfl
  | cons node rest inductionHypothesis =>
      simp only [nodesWithSlots]
      split <;> simp [inductionHypothesis]

/-- The nodes listed as having a free slot are among the given ones, and each
has one. -/
theorem mem_nodesWithSlots
    {router : RequestRouter} {nodes : List NodeInfo} {node : NodeInfo} :
    node ∈ (router.nodesWithSlots nodes).1 ↔
      node ∈ nodes ∧
        (router.allocatorOf node.nodeId).hasFreeSlot = true := by
  induction nodes generalizing router with
  | nil =>
      simp [nodesWithSlots]
  | cons head rest inductionHypothesis =>
      simp only [nodesWithSlots]
      split
      · rename_i headFree
        rw [allocatorOf_initializeNodeSlots] at headFree
        simp only [List.mem_cons, inductionHypothesis,
          allocatorOf_initializeNodeSlots]
        constructor
        · rintro (rfl | ⟨member, free⟩)
          · exact ⟨Or.inl rfl, headFree⟩
          · exact ⟨Or.inr member, free⟩
        · rintro ⟨rfl | member, free⟩
          · exact Or.inl rfl
          · exact Or.inr ⟨member, free⟩
      · rename_i headBusy
        rw [allocatorOf_initializeNodeSlots] at headBusy
        simp only [List.mem_cons, inductionHypothesis,
          allocatorOf_initializeNodeSlots]
        constructor
        · rintro ⟨member, free⟩
          exact ⟨Or.inr member, free⟩
        · rintro ⟨rfl | member, free⟩
          · exact absurd free headBusy
          · exact ⟨member, free⟩

/-- A failed allocation changes no allocator: the node has no free slot. -/
theorem allocateSlotForNode_none
    {router final : RequestRouter} {nodeId requestId : ByteString}
    (failed :
      router.allocateSlotForNode nodeId requestId = (none, final)) :
    (router.allocatorOf nodeId).freeSlots = [] ∧
      final = router.initializeNodeSlots nodeId := by
  simp only [allocateSlotForNode, allocatorOf_initializeNodeSlots] at failed
  split at failed
  · rename_i exhausted
    refine ⟨?_, (Prod.mk.inj failed).2.symm⟩
    rw [NodeSlotAllocator.allocate] at exhausted
    split at exhausted
    · assumption
    · cases exhausted
  · cases failed

/-- A successful allocation is one of the node's allocator. -/
theorem allocateSlotForNode_some
    {router final : RequestRouter} {nodeId requestId : ByteString}
    {slotId : Int32}
    (succeeded :
      router.allocateSlotForNode nodeId requestId = (some slotId, final)) :
    ∃ allocator,
      (router.allocatorOf nodeId).allocate requestId =
          some (slotId, allocator) ∧
        final =
          (router.initializeNodeSlots nodeId).setAllocator
            nodeId allocator := by
  simp only [allocateSlotForNode, allocatorOf_initializeNodeSlots] at succeeded
  split at succeeded
  · cases succeeded
  · rename_i taken allocator allocated
    obtain ⟨sameSlot, sameRouter⟩ := Prod.mk.inj succeeded
    cases sameSlot
    exact ⟨allocator, allocated, sameRouter.symm⟩

/-- With a free slot an allocation succeeds, and takes the front one. -/
theorem allocateSlotForNode_of_free
    {router : RequestRouter} {nodeId : ByteString} {slotId : Int32}
    {rest : List Int32} (requestId : ByteString)
    (front : (router.allocatorOf nodeId).freeSlots = slotId :: rest) :
    ∃ allocator,
      allocator.freeSlots = rest ∧
        router.allocateSlotForNode nodeId requestId =
          (some slotId,
            (router.initializeNodeSlots nodeId).setAllocator
              nodeId allocator) := by
  refine
    ⟨{ router.allocatorOf nodeId with
        freeSlots := rest
        requestToSlot :=
          (router.allocatorOf nodeId).requestToSlot.insert requestId slotId
        slotToRequest :=
          (router.allocatorOf nodeId).slotToRequest.insert slotId requestId },
      rfl, ?_⟩
  simp only [allocateSlotForNode, allocatorOf_initializeNodeSlots,
    NodeSlotAllocator.allocate, front]
  rfl

/-- What no choice of a call changes holds of the router when the call allocates its
slot, and in the end if it returns nothing. -/
theorem selectNodesAndAllocateSlot_of_kept
    (kept : RequestRouter → Prop)
    (keepsPrefill :
      ∀ router nodes draw,
        kept router → kept (router.selectPrefillNode nodes draw).2)
    (keepsSlots :
      ∀ router nodes, kept router → kept (router.nodesWithSlots nodes).2)
    (keepsDecode :
      ∀ router nodes draw,
        kept router → kept (router.selectDecodeNode nodes draw).2)
    (keepsSetup :
      ∀ router nodeId, kept router → kept (router.initializeNodeSlots nodeId))
    {router : RequestRouter} (before : kept router)
    (prefillNodes decodeNodes : List NodeInfo) (prefillDraw decodeDraw : Nat)
    (requestId : ByteString) :
    (∃ next,
        router.selectNodesAndAllocateSlot prefillNodes decodeNodes prefillDraw
            decodeDraw requestId = (none, next) ∧
          kept next) ∨
      ∃ routing middle allocated,
        kept middle ∧
          middle.allocateSlotForNode routing.decodeNode.nodeId requestId =
            (some routing.slotId, allocated) ∧
          router.selectNodesAndAllocateSlot prefillNodes decodeNodes
              prefillDraw decodeDraw requestId =
            (some routing,
              allocated.trackDecodeNode requestId
                routing.decodeNode.nodeId) := by
  rw [selectNodesAndAllocateSlot]
  have afterPrefill := keepsPrefill router prefillNodes prefillDraw before
  split
  · exact Or.inl ⟨router, rfl, before⟩
  · split
    · rename_i prefillRouter selected
      rw [selected] at afterPrefill
      exact Or.inl ⟨prefillRouter, rfl, afterPrefill⟩
    · rename_i prefillNode prefillRouter selected
      rw [selected] at afterPrefill
      split
      · exact Or.inl ⟨prefillRouter, rfl, afterPrefill⟩
      · have listed := keepsSlots prefillRouter decodeNodes afterPrefill
        simp only
        split
        · exact Or.inl ⟨_, rfl, listed⟩
        · have chosen :=
            keepsDecode _ (prefillRouter.nodesWithSlots decodeNodes).1
              decodeDraw listed
          split
          · rename_i decodeRouter decided
            rw [decided] at chosen
            exact Or.inl ⟨decodeRouter, rfl, chosen⟩
          · rename_i decodeNode decodeRouter decided
            rw [decided] at chosen
            split
            · rename_i failedRouter failed
              rw [(allocateSlotForNode_none failed).2]
              exact
                Or.inl ⟨_, rfl, keepsSetup decodeRouter decodeNode.nodeId chosen⟩
            · rename_i slotId allocatedRouter allocated
              exact Or.inr ⟨_, decodeRouter, _, chosen, allocated, rfl⟩

/-- `free_slot` either gives back the slot of the request on the one node the
request is mapped to, or leaves every allocator as it is. -/
theorem freeSlot_cases (router : RequestRouter) (requestId : ByteString) :
    (∃ nodeId freed,
        router.requestToDecodeNode.lookup requestId = some nodeId ∧
        (router.allocatorOf nodeId).free requestId = some freed ∧
        router.freeSlot requestId =
          { router.setAllocator nodeId freed with
            requestToDecodeNode :=
              router.requestToDecodeNode.erase requestId }) ∨
      ((router.freeSlot requestId).decodeNodeSlots =
          router.decodeNodeSlots ∧
        (router.freeSlot requestId).slotConfig = router.slotConfig) := by
  rw [freeSlot]
  split
  · exact Or.inr ⟨rfl, rfl⟩
  · rename_i nodeId mapped
    simp only [freeSlotForNode]
    split
    · exact Or.inr ⟨rfl, rfl⟩
    · rename_i allocator present
      split
      · exact Or.inr ⟨rfl, rfl⟩
      · rename_i freed given
        refine Or.inl ⟨nodeId, freed, mapped, ?_, rfl⟩
        simpa [allocatorOf, present] using given

@[simp]
theorem selectPrefillNode_slotConfig
    (router : RequestRouter) (nodes : List NodeInfo) (draw : Nat) :
    (router.selectPrefillNode nodes draw).2.slotConfig =
      router.slotConfig := by
  rw [selectPrefillNode]
  split <;> rfl

@[simp]
theorem selectDecodeNode_slotConfig
    (router : RequestRouter) (nodes : List NodeInfo) (draw : Nat) :
    (router.selectDecodeNode nodes draw).2.slotConfig =
      router.slotConfig := by
  rw [selectDecodeNode]
  split <;> rfl

@[simp]
theorem allocatorOf_selectPrefillNode
    (router : RequestRouter) (nodes : List NodeInfo) (draw : Nat)
    (tested : ByteString) :
    (router.selectPrefillNode nodes draw).2.allocatorOf tested =
      router.allocatorOf tested := by
  rw [selectPrefillNode]
  split <;> rfl

@[simp]
theorem allocatorOf_selectDecodeNode
    (router : RequestRouter) (nodes : List NodeInfo) (draw : Nat)
    (tested : ByteString) :
    (router.selectDecodeNode nodes draw).2.allocatorOf tested =
      router.allocatorOf tested := by
  rw [selectDecodeNode]
  split <;> rfl

theorem decrementNodeLoad_slotConfig
    (router : RequestRouter) (nodeId : ByteString) :
    (router.decrementNodeLoad nodeId).slotConfig = router.slotConfig := by
  rw [decrementNodeLoad]
  split
  · rfl
  · split <;> rfl

theorem allocatorOf_decrementNodeLoad
    (router : RequestRouter) (nodeId tested : ByteString) :
    (router.decrementNodeLoad nodeId).allocatorOf tested =
      router.allocatorOf tested := by
  rw [decrementNodeLoad]
  split
  · rfl
  · split <;> rfl

end RequestRouter

end RdmaKvCache
