import RdmaKvCache.Common.Config
import RdmaKvCache.Node.RequestTrackerLayer
import RdmaKvCache.Orchestrator.NodeChoices
import RdmaKvCache.Orchestrator.RouterRuns

/-!
# Slot addresses on both sides

The orchestrator's router and the memory layout of a decode node compute the
byte offset of a slot independently.  The router is built without the
configuration and keeps its default sizes:

* eight slots of 32 layers of 128 MB, hence a stride of `2 ^ 32` bytes;
* every slot number below eight is handed out sooner or later.

So both sides agree exactly for the configurations of that shape.
-/

namespace RdmaKvCache

open RequestTrackerLayer

/-! ## Nodes of a cluster -/

namespace Config

/-- The layout `Node`'s constructor passes to its request tracker. -/
def memoryLayout (config : Config) : MemoryLayout where
  bufferSizeBytes := config.memory.kvBufferMb * 1024 * 1024
  maxConcurrentRequests := config.memory.maxConcurrentRequests
  numLayers := config.numLayers.toInt32
  layerSizeBytes := config.memory.layerSizeMb * 1024 * 1024

/-- The check `Node::start` makes first. -/
def bufferSuffices (config : Config) : Bool :=
  !decide (config.memory.kvBufferMb < config.memory.requiredMb)

/-- What all nodes of a cluster have to share. -/
def sizing (config : Config) : UInt32 × UInt64 × Int32 × UInt64 :=
  (config.numLayers, config.memory.layerSizeMb,
    config.memory.maxConcurrentRequests, config.memory.kvBufferMb)

end Config

/-- The configurations of the nodes of one cluster: they share their sizes, all
nodes start, and there is a decode node. -/
structure ClusterConfig where
  prefillNodes : List LoadedConfig
  decodeNode : LoadedConfig
  furtherDecodeNodes : List LoadedConfig
  shared :
    ∀ node ∈ prefillNodes ++ furtherDecodeNodes,
      node.sizing = decodeNode.sizing
  started :
    ∀ node ∈ prefillNodes ++ decodeNode :: furtherDecodeNodes,
      node.bufferSuffices = true

namespace ClusterConfig

def decodeNodes (cluster : ClusterConfig) : List LoadedConfig :=
  cluster.decodeNode :: cluster.furtherDecodeNodes

end ClusterConfig

/-! ## Slots a router hands out -/

/-- Some call of some run returns `result`. -/
def RouterSystem.HandsOut (start : RouterSystem) (result : RoutingResult) :
    Prop :=
  ∃ actions final requestId,
    LabelledRuns.execute RouterSystem.step start actions = some final ∧
      ⟨requestId, .returned (some result)⟩ ∈ final.calls

/-- The router a new orchestrator has. -/
def OrchestratorEngine.requestRouter : RouterSystem :=
  .start .leastLoaded {} {}

namespace RouterSystem

/-- One prefill and one decode node, both idle, and these free slots. -/
structure Ready
    (system : RouterSystem) (prefillNode decodeNode : NodeInfo)
    (free : List Int32) : Prop where
  policy : system.router.policy = .leastLoaded
  loads : system.router.nodeLoads = ∅
  prefill : system.registry.getHealthyNodes .prefill = [prefillNode]
  decode : system.registry.getHealthyNodes .decode = [decodeNode]
  freeSlots : (system.router.allocatorOf decodeNode.nodeId).freeSlots = free

variable {system : RouterSystem} {prefillNode decodeNode : NodeInfo}

private theorem selectLeastLoaded_idle
    {router : RequestRouter} (idle : router.nodeLoads = ∅) (node : NodeInfo) :
    router.selectLeastLoaded [node] = some node := by
  have noLoad : router.getNodeLoad node.nodeId = 0 := by
    simp [RequestRouter.getNodeLoad, idle]
  have smallest : (0 : Int32) < Int32.maxValue := by decide
  simp [RequestRouter.selectLeastLoaded, noLoad, smallest]

private theorem step_advance_last
    {calls : List SelectCall} {requestId : ByteString}
    {state reached : SelectState} {input : SelectInput}
    {router : RequestRouter}
    (last : system.calls = calls ++ [⟨requestId, state⟩])
    (advanced :
      state.advance system.router system.registry requestId input =
        some (router, reached)) :
    system.step (.advance calls.length input) =
      some
        { system with
          router := router
          calls := calls ++ [⟨requestId, reached⟩]
          history :=
            reached.events calls.length requestId ++ system.history } := by
  simp [step, last, advanced]

private theorem execute_advance_last
    {calls : List SelectCall} {requestId : ByteString}
    {state reached : SelectState} {input : SelectInput}
    {router : RequestRouter} {remaining : List RouterAction}
    (last : system.calls = calls ++ [⟨requestId, state⟩])
    (advanced :
      state.advance system.router system.registry requestId input =
        some (router, reached)) :
    LabelledRuns.execute step system
        (.advance calls.length input :: remaining) =
      LabelledRuns.execute step
        { system with
          router := router
          calls := calls ++ [⟨requestId, reached⟩]
          history :=
            reached.events calls.length requestId ++ system.history }
        remaining := by
  rw [LabelledRuns.execute, step_advance_last last advanced, Option.bind_some]

/-- The sections of a call running alone, one after the other. -/
private theorem execute_selectAlone
    {router listed allocatedRouter : RequestRouter} {registry : NodeRegistry}
    (calls : List SelectCall) (history : List RouterEvent)
    {requestId : ByteString} {slotId : Int32}
    (prefill : registry.getHealthyNodes .prefill = [prefillNode])
    (decode : registry.getHealthyNodes .decode = [decodeNode])
    (prefillSelected :
      router.selectPrefillNode [prefillNode] 0 = (some prefillNode, router))
    (withSlots :
      router.nodesWithSlots [decodeNode] = ([decodeNode], listed))
    (decodeSelected :
      listed.selectDecodeNode [decodeNode] 0 = (some decodeNode, listed))
    (allocated :
      listed.allocateSlotForNode decodeNode.nodeId requestId =
        (some slotId, allocatedRouter)) :
    LabelledRuns.execute step ⟨router, registry, calls, history⟩
        (selectAlone calls.length requestId prefillNode decodeNode) =
      some
        { router := allocatedRouter.trackDecodeNode requestId decodeNode.nodeId
          registry := registry
          calls :=
            calls ++
              [⟨requestId,
                .returned
                  (some
                    { prefillNode := prefillNode
                      decodeNode := decodeNode
                      slotId := slotId
                      slotBaseOffset :=
                        allocatedRouter.slotConfig.slotBaseOffset slotId })⟩]
          history :=
            .allocated calls.length decodeNode.nodeId requestId slotId ::
              history } := by
  have entered :
      SelectState.entered.advance router registry requestId
          { listing := [prefillNode] } =
        some (router, .prefillListed [prefillNode]) := by
    simp [SelectState.advance, SelectState.listed, prefill]
  have prefillListed :
      (SelectState.prefillListed [prefillNode]).advance router registry
          requestId {} =
        some (router, .prefillSelected prefillNode) := by
    rw [SelectState.advance, prefillSelected]
  have prefillChosen :
      (SelectState.prefillSelected prefillNode).advance router registry
          requestId { listing := [decodeNode] } =
        some (router, .decodeListed prefillNode [decodeNode]) := by
    simp [SelectState.advance, SelectState.listed, decode]
  have decodeListed :
      (SelectState.decodeListed prefillNode [decodeNode]).advance router
          registry requestId {} =
        some (listed, .slotsFiltered prefillNode [decodeNode]) := by
    rw [SelectState.advance, withSlots]
  have slotsFiltered :
      (SelectState.slotsFiltered prefillNode [decodeNode]).advance listed
          registry requestId {} =
        some (listed, .decodeSelected prefillNode decodeNode) := by
    rw [SelectState.advance, decodeSelected]
  have decodeChosen :
      (SelectState.decodeSelected prefillNode decodeNode).advance listed
          registry requestId {} =
        some
          (allocatedRouter,
            .slotAllocated prefillNode decodeNode slotId) := by
    rw [SelectState.advance, allocated]
  rw [selectAlone, LabelledRuns.execute, step, Option.bind_some,
    execute_advance_last rfl entered, execute_advance_last rfl prefillListed,
    execute_advance_last rfl prefillChosen,
    execute_advance_last rfl decodeListed,
    execute_advance_last rfl slotsFiltered,
    execute_advance_last rfl decodeChosen, execute_advance_last rfl rfl]
  rfl

/-- With a free slot, a call running alone returns the front slot. -/
theorem Ready.selectAlone
    {slotId : Int32} {rest : List Int32} (requestId : ByteString)
    (ready : system.Ready prefillNode decodeNode (slotId :: rest)) :
    ∃ next,
      LabelledRuns.execute step system
          (selectAlone system.calls.length requestId prefillNode decodeNode) =
        some next ∧
      next.Ready prefillNode decodeNode rest ∧
      next.router.slotConfig = system.router.slotConfig ∧
      ⟨requestId,
        .returned
          (some
            { prefillNode := prefillNode
              decodeNode := decodeNode
              slotId := slotId
              slotBaseOffset :=
                system.router.slotConfig.slotBaseOffset slotId })⟩ ∈
        next.calls := by
  obtain ⟨router, registry, calls, history⟩ := system
  obtain ⟨policy, loads, prefill, decode, freeSlots⟩ := ready
  simp only at policy loads prefill decode freeSlots
  let listed := router.initializeNodeSlots decodeNode.nodeId
  have hasFree :
      (router.allocatorOf decodeNode.nodeId).hasFreeSlot = true := by
    simp [NodeSlotAllocator.hasFreeSlot, freeSlots]
  have withSlots :
      router.nodesWithSlots [decodeNode] = ([decodeNode], listed) := by
    simp [RequestRouter.nodesWithSlots, hasFree, listed]
  have listedPolicy : listed.policy = .leastLoaded :=
    (router.policy_initializeNodeSlots decodeNode.nodeId).trans policy
  have listedLoads : listed.nodeLoads = ∅ :=
    (RequestRouter.SameAssignments.initializeNodeSlots router
      decodeNode.nodeId).loads.trans loads
  have prefillSelected :
      router.selectPrefillNode [prefillNode] 0 =
        (some prefillNode, router) := by
    simp [RequestRouter.selectPrefillNode, policy,
      selectLeastLoaded_idle loads]
  have decodeSelected :
      listed.selectDecodeNode [decodeNode] 0 = (some decodeNode, listed) := by
    simp [RequestRouter.selectDecodeNode, listedPolicy,
      selectLeastLoaded_idle listedLoads]
  have front :
      (listed.allocatorOf decodeNode.nodeId).freeSlots = slotId :: rest := by
    rw [RequestRouter.allocatorOf_initializeNodeSlots, freeSlots]
  obtain ⟨allocator, remaining, allocated⟩ :=
    RequestRouter.allocateSlotForNode_of_free requestId front
  have run :=
    execute_selectAlone calls history prefill decode prefillSelected withSlots
      decodeSelected allocated
  let initialized := listed.initializeNodeSlots decodeNode.nodeId
  have sameConfig : initialized.slotConfig = router.slotConfig :=
    (RequestRouter.initializeNodeSlots_slotConfig listed
      decodeNode.nodeId).trans
      (RequestRouter.initializeNodeSlots_slotConfig router decodeNode.nodeId)
  have samePolicy : initialized.policy = .leastLoaded :=
    (listed.policy_initializeNodeSlots decodeNode.nodeId).trans listedPolicy
  have sameLoads : initialized.nodeLoads = ∅ :=
    (RequestRouter.SameAssignments.initializeNodeSlots listed
      decodeNode.nodeId).loads.trans listedLoads
  have nextFree :
      ((initialized.setAllocator decodeNode.nodeId allocator).allocatorOf
        decodeNode.nodeId).freeSlots = rest := by
    rw [RequestRouter.allocatorOf_setAllocator, if_pos rfl, remaining]
  refine ⟨_, run, ⟨samePolicy, sameLoads, prefill, decode, nextFree⟩, ?_, ?_⟩
  · exact sameConfig
  · have offsets :
        (initialized.setAllocator decodeNode.nodeId allocator).slotConfig =
          router.slotConfig :=
      sameConfig
    simp [← offsets, initialized]

/-- Every free slot is handed out in some run. -/
theorem Ready.exists_returned
    {free : List Int32} {slotId : Int32}
    (ready : system.Ready prefillNode decodeNode free)
    (member : slotId ∈ free) :
    ∃ result,
      system.HandsOut result ∧
        result.decodeNode = decodeNode ∧ result.slotId = slotId := by
  induction free generalizing system with
  | nil =>
      cases member
  | cons head rest inductionHypothesis =>
      obtain ⟨next, run, nextReady, _, returned⟩ := ready.selectAlone []
      rcases List.mem_cons.mp member with rfl | later
      · exact ⟨_, ⟨_, next, [], run, returned⟩, rfl, rfl⟩
      · obtain ⟨result, ⟨actions, final, requestId, remaining, found⟩, same⟩ :=
          inductionHypothesis nextReady later
        exact
          ⟨result,
            ⟨_, final, requestId, LabelledRuns.execute_trans run remaining,
              found⟩,
            same⟩

end RouterSystem

/-! ## What the orchestrator hands out -/

/-- A registry with one prefill and one decode node. -/
def NodeRegistry.pair (prefillNode decodeNode : NodeInfo) : NodeRegistry :=
  (({} : NodeRegistry).addNode prefillNode).addNode decodeNode

theorem NodeRegistry.getAllNodes_pair
    {prefillNode decodeNode : NodeInfo}
    (different : prefillNode.nodeId ≠ decodeNode.nodeId) :
    (NodeRegistry.pair prefillNode decodeNode).getAllNodes =
      [decodeNode, prefillNode] := by
  simp [pair, addNode, getAllNodes, Ne.symm different]

namespace OrchestratorEngine

/-- The slots handed out are those below eight, at multiples of `2 ^ 32`. -/
theorem handsOut_slot
    {result : RoutingResult} (handsOut : requestRouter.HandsOut result) :
    result.slotId ∈ SlotRange 8 ∧
      result.slotBaseOffset =
        ({} : RequestRouterSlotConfig).slotBaseOffset result.slotId := by
  obtain ⟨actions, final, requestId, run, member⟩ := handsOut
  obtain ⟨index, found⟩ := List.mem_iff_getElem?.mp member
  have holds := RouterSystem.invariant_of_run run
  obtain ⟨pools, _, recorded⟩ := holds.pools
  obtain ⟨allocated, offset⟩ := holds.calls found
  exact ⟨recorded.inRange allocated, offset⟩

theorem exists_handsOut
    (nodeId : ByteString) (slotId : Int32) (inRange : slotId ∈ slotIds 8) :
    ∃ result,
      requestRouter.HandsOut result ∧
        result.decodeNode.nodeId = nodeId ∧ result.slotId = slotId := by
  let prefillNode := NodeInfo.healthy (0 :: nodeId) .prefill
  let decodeNode := NodeInfo.healthy nodeId .decode
  let registry := NodeRegistry.pair prefillNode decodeNode
  have allNodes : registry.getAllNodes = [decodeNode, prefillNode] :=
    NodeRegistry.getAllNodes_pair (List.cons_ne_self 0 nodeId)
  have ready :
      ({ requestRouter with registry := registry } : RouterSystem).Ready
        prefillNode decodeNode (slotIds 8) :=
    { policy := rfl
      loads := rfl
      prefill := by
        simp [NodeRegistry.getHealthyNodes, allNodes, prefillNode, decodeNode,
          NodeInfo.healthy]
      decode := by
        simp [NodeRegistry.getHealthyNodes, allNodes, prefillNode, decodeNode,
          NodeInfo.healthy]
      freeSlots := rfl }
  obtain ⟨result, ⟨actions, final, requestId, run, member⟩, sameNode, same⟩ :=
    ready.exists_returned inRange
  refine
    ⟨result, ⟨.updateRegistry registry :: actions, final, requestId, ?_, member⟩,
      by rw [sameNode]; rfl, same⟩
  exact run

end OrchestratorEngine

/-! ## Agreement -/

/-- Both sides mean the same bytes of the buffer by a slot. -/
structure SlotAddressAgrees (config : Config) (result : RoutingResult) :
    Prop where
  inRange :
    0 ≤ result.slotId ∧
      result.slotId < config.memoryLayout.maxConcurrentRequests
  sameOffset :
    result.slotBaseOffset =
      config.memoryLayout.getSlotBaseOffset result.slotId
  inBuffer :
    result.slotBaseOffset.toNat + config.memoryLayout.getRequestSize.toNat ≤
      config.memoryLayout.bufferSizeBytes.toNat

/-- The shape the router's default sizes assume: at least eight slots of 4096 MB
and a buffer of eight times as much, all modulo the `2 ^ 44` MB a `size_t`
counts. -/
def Config.HasDefaultShape (config : Config) : Prop :=
  8 ≤ config.memory.maxConcurrentRequests ∧
    config.numLayers.toInt32.toInt * config.memory.layerSizeMb.toNat %
        2 ^ 44 = 4096 ∧
      32768 ≤ config.memory.kvBufferMb.toNat % 2 ^ 44

theorem Config.getRequestSize_eq (config : Config) :
    (config.memoryLayout.getRequestSize.toNat : Int) =
      config.numLayers.toInt32.toInt * config.memory.layerSizeMb.toNat %
        2 ^ 44 * 2 ^ 20 := by
  have product :
      config.memoryLayout.getRequestSize =
        config.numLayers.toInt32.toInt64.toUInt64 *
          (config.memory.layerSizeMb * 1024 * 1024) := rfl
  have layer :
      (config.memory.layerSizeMb * 1024 * 1024).toNat =
        config.memory.layerSizeMb.toNat * 2 ^ 20 % 2 ^ 64 := by
    rw [megabytes_toNat]
    omega
  calc
    (config.memoryLayout.getRequestSize.toNat : Int) =
        config.numLayers.toInt32.toInt % (2 ^ 64 : Nat) *
            (config.memory.layerSizeMb.toNat * 2 ^ 20 : Nat) %
          (2 ^ 64 : Nat) := by
      rw [product, UInt64.toNat_mul, layer, Nat.mul_mod_mod,
        Int.natCast_emod, Int.natCast_mul, toUInt64_toNat_eq_emod]
    _ = config.numLayers.toInt32.toInt * config.memory.layerSizeMb.toNat *
          2 ^ 20 % (2 ^ 44 * 2 ^ 20) := by
      rw [Int.mul_emod, Int.emod_emod, ← Int.mul_emod, Int.natCast_mul,
        Int.mul_assoc]
      rfl
    _ = config.numLayers.toInt32.toInt * config.memory.layerSizeMb.toNat %
          2 ^ 44 * 2 ^ 20 := by
      omega

theorem Config.HasDefaultShape.of_sizing
    {config other : Config} (shape : config.HasDefaultShape)
    (same : other.sizing = config.sizing) : other.HasDefaultShape := by
  simp only [sizing, Prod.mk.injEq] at same
  obtain ⟨sameLayers, sameLayerSize, sameSlots, sameBuffer⟩ := same
  simpa only [HasDefaultShape, sameLayers, sameLayerSize, sameSlots,
    sameBuffer] using shape

theorem Config.HasDefaultShape.getRequestSize
    {config : Config} (shape : config.HasDefaultShape) :
    config.memoryLayout.getRequestSize =
      ({} : RequestRouterSlotConfig).requestSizeBytes := by
  apply UInt64.toNat_inj.mp
  have size := config.getRequestSize_eq
  have default : ({} : RequestRouterSlotConfig).requestSizeBytes.toNat =
      4096 * 2 ^ 20 := by
    decide
  rw [shape.2.1] at size
  omega

/-- In the default shape every slot handed out means the same on both sides. -/
theorem Config.HasDefaultShape.agrees
    {config : Config} (shape : config.HasDefaultShape)
    {result : RoutingResult}
    (handsOut : OrchestratorEngine.requestRouter.HandsOut result) :
    SlotAddressAgrees config result := by
  obtain ⟨inRange, offset⟩ := OrchestratorEngine.handsOut_slot handsOut
  have slots : (8 : Int32).toInt ≤ config.memory.maxConcurrentRequests.toInt :=
    Int32.le_iff_toInt_le.mp shape.1
  have nonneg : 0 ≤ result.slotId.toInt := Int32.le_iff_toInt_le.mp inRange.1
  have below : result.slotId.toInt < (8 : Int32).toInt :=
    Int32.lt_iff_toInt_lt.mp inRange.2
  have eight : (8 : Int32).toInt = 8 := rfl
  have value : result.slotBaseOffset.toNat =
      result.slotId.toInt.toNat * (4096 * 2 ^ 20) := by
    have inDefault :
        result.slotId ∈
          SlotRange ({} : RequestRouterSlotConfig).maxSlotsPerNode := inRange
    rw [offset]
    exact
      RequestRouterSlotConfig.slotBaseOffset_toNat inDefault (by decide)
  refine ⟨⟨inRange.1, ?_⟩, ?_, ?_⟩
  · rw [Int32.lt_iff_toInt_lt]
    exact lt_of_lt_of_le below slots
  · rw [offset, MemoryLayout.getSlotBaseOffset, shape.getRequestSize]
    rfl
  · have size : config.memoryLayout.getRequestSize.toNat = 4096 * 2 ^ 20 := by
      rw [shape.getRequestSize]
      decide
    have buffer :
        config.memoryLayout.bufferSizeBytes.toNat =
          config.memory.kvBufferMb.toNat % 2 ^ 44 * 2 ^ 20 :=
      megabytes_toNat config.memory.kvBufferMb
    have enough := shape.2.2
    omega

/-- Slots one and seven already force the default shape. -/
theorem Config.HasDefaultShape.of_agrees
    {config : Config} {second last : RoutingResult}
    (secondSlot : second.slotId = 1) (lastSlot : last.slotId = 7)
    (secondOffset : second.slotBaseOffset = 4096 * 1024 * 1024)
    (lastOffset : last.slotBaseOffset = 7 * (4096 * 1024 * 1024))
    (secondAgrees : SlotAddressAgrees config second)
    (lastAgrees : SlotAddressAgrees config last) :
    config.HasDefaultShape := by
  have size := config.getRequestSize_eq
  have buffer :
      config.memoryLayout.bufferSizeBytes.toNat =
        config.memory.kvBufferMb.toNat % 2 ^ 44 * 2 ^ 20 :=
    megabytes_toNat config.memory.kvBufferMb
  have stride : config.memoryLayout.getRequestSize.toNat = 4096 * 2 ^ 20 := by
    have sameOffset := secondAgrees.sameOffset
    have one : (1 : Int32).toInt64.toUInt64 = 1 := rfl
    rw [secondSlot, secondOffset, MemoryLayout.getSlotBaseOffset, one,
      UInt64.one_mul] at sameOffset
    rw [← sameOffset]
    rfl
  have slots := Int32.lt_iff_toInt_lt.mp lastAgrees.inRange.2
  have inBuffer := lastAgrees.inBuffer
  have lastValue : last.slotBaseOffset.toNat = 7 * (4096 * 2 ^ 20) := by
    rw [lastOffset]
    rfl
  have seven : (7 : Int32).toInt = 7 := rfl
  have eight : (8 : Int32).toInt = 8 := rfl
  rw [lastSlot, seven] at slots
  refine ⟨?_, ?_, ?_⟩
  · rw [Int32.le_iff_toInt_le, eight]
    exact slots
  · omega
  · omega

theorem slot_addresses_agree_iff (cluster : ClusterConfig) :
    (∀ node ∈ cluster.decodeNodes, ∀ result,
        OrchestratorEngine.requestRouter.HandsOut result →
          result.decodeNode.nodeId = node.nodeId →
            SlotAddressAgrees node.toConfig result) ↔
      cluster.decodeNode.HasDefaultShape := by
  constructor
  · intro agrees
    have agreesAt (slotId : Int32) (inRange : slotId ∈ slotIds 8) :
        ∃ result, result.slotId = slotId ∧
          result.slotBaseOffset =
            ({} : RequestRouterSlotConfig).slotBaseOffset slotId ∧
          SlotAddressAgrees cluster.decodeNode.toConfig result := by
      obtain ⟨result, handsOut, sameNode, same⟩ :=
        OrchestratorEngine.exists_handsOut cluster.decodeNode.nodeId slotId
          inRange
      refine ⟨result, same, ?_, ?_⟩
      · rw [← same]
        exact (OrchestratorEngine.handsOut_slot handsOut).2
      · exact
          agrees cluster.decodeNode List.mem_cons_self result handsOut sameNode
    obtain ⟨second, secondSlot, secondOffset, secondAgrees⟩ :=
      agreesAt 1 (by decide)
    obtain ⟨last, lastSlot, lastOffset, lastAgrees⟩ := agreesAt 7 (by decide)
    exact
      Config.HasDefaultShape.of_agrees secondSlot lastSlot secondOffset
        lastOffset secondAgrees lastAgrees
  · intro shape node member result handsOut _
    have nodeShape : node.HasDefaultShape := by
      rcases List.mem_cons.mp member with rfl | further
      · exact shape
      · exact
          shape.of_sizing
            (cluster.shared node (List.mem_append_right _ further))
    exact nodeShape.agrees handsOut

/-- Twelve layers of 128 MB, the size a configuration file without `num_layers`
gives. -/
def ClusterConfig.twelveLayers : ClusterConfig where
  prefillNodes :=
    [.fromFile
      { nodeId := [1]
        role := .ofText "prefill"
        numLayers := 12
        memory := {} }]
  decodeNode :=
    .fromFile
      { nodeId := [2]
        role := .ofText "decode"
        numLayers := 12
        memory := {} }
  furtherDecodeNodes := []
  shared := by
    intro node member
    rw [List.mem_singleton.mp member]
    decide
  started := by
    intro node member
    rcases List.mem_cons.mp member with rfl | decodes
    · decide
    · rw [List.mem_singleton.mp decodes]
      decide

/-- With twelve layers the router's slot one starts 2560 MB too late. -/
theorem twelveLayers_slot_addresses_differ :
    ¬ ∀ node ∈ ClusterConfig.twelveLayers.decodeNodes, ∀ result,
        OrchestratorEngine.requestRouter.HandsOut result →
          result.decodeNode.nodeId = node.nodeId →
            SlotAddressAgrees node.toConfig result := by
  intro agrees
  obtain ⟨result, handsOut, sameNode, same⟩ :=
    OrchestratorEngine.exists_handsOut [2] 1 (by decide)
  have agreed :=
    agrees ClusterConfig.twelveLayers.decodeNode List.mem_cons_self result
      handsOut sameNode
  have sameOffset := agreed.sameOffset
  rw [(OrchestratorEngine.handsOut_slot handsOut).2, same] at sameOffset
  exact absurd sameOffset (by decide)

end RdmaKvCache
