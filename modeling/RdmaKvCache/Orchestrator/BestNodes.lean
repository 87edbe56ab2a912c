import Mathlib.Data.Int.ModEq
import RdmaKvCache.Orchestrator.NodeChoices

/-!
# The nodes a request is routed to

A `select_nodes_and_allocate_slot` call that runs alone, with the policy that goes
by the loads, succeeds exactly if there is a healthy prefill node and a healthy
decode node with a free slot.  The nodes it chooses have least load, the slot is
the front of the decode node's queue, and nothing else changes.
-/

namespace RdmaKvCache

namespace RequestRouterSlotConfig

variable (slotConfig : RequestRouterSlotConfig)

/-- The size of a request in bytes, as a number. -/
def requestBytes : Int :=
  slotConfig.numLayers.toInt * slotConfig.layerSizeMb.toNat * 1024 * 1024

end RequestRouterSlotConfig

namespace RequestRouter

/-! ## What a call is to do -/

/-- A decode node nobody has taken a slot of has all of them free. -/
def HasFreeSlot (router : RequestRouter) (nodeId : ByteString) : Prop :=
  match router.decodeNodeSlots.lookup nodeId with
  | none => 0 < router.slotConfig.maxSlotsPerNode
  | some allocator => allocator.freeSlots ≠ []

/-- The request has the slot from the front of the node's queue and is mapped to
the node; no other allocator and no other part of the router has changed. -/
structure TakesFront
    (router final : RequestRouter) (requestId nodeId : ByteString)
    (slotId : Int32) : Prop where
  taken :
    ∃ rest,
      (router.allocatorOf nodeId).freeSlots = slotId :: rest ∧
        final.allocatorOf nodeId =
          { router.allocatorOf nodeId with
            freeSlots := rest
            requestToSlot :=
              (router.allocatorOf nodeId).requestToSlot.insert requestId slotId
            slotToRequest :=
              (router.allocatorOf nodeId).slotToRequest.insert slotId
                requestId }
  others :
    ∀ other, other ≠ nodeId →
      final.allocatorOf other = router.allocatorOf other
  rest :
    final =
      { router with
        decodeNodeSlots := final.decodeNodeSlots
        requestToDecodeNode :=
          router.requestToDecodeNode.insert requestId nodeId }

/-- The nodes are healthy, the decode node has a free slot, and no other choice
has a smaller load. -/
structure BestNodes
    (router : RequestRouter) (registry : NodeRegistry)
    (routing : RoutingResult) : Prop where
  prefillHealthy : routing.prefillNode ∈ registry.getHealthyNodes .prefill
  prefillLeast :
    ∀ node ∈ registry.getHealthyNodes .prefill,
      router.getNodeLoad routing.prefillNode.nodeId ≤
        router.getNodeLoad node.nodeId
  decodeHealthy : routing.decodeNode ∈ registry.getHealthyNodes .decode
  decodeFree : router.HasFreeSlot routing.decodeNode.nodeId
  decodeLeast :
    ∀ node ∈ registry.getHealthyNodes .decode,
      router.HasFreeSlot node.nodeId →
        router.getNodeLoad routing.decodeNode.nodeId ≤
          router.getNodeLoad node.nodeId

/-- No allocator has changed, and neither has any other part of the router. -/
structure TakesNothing (router final : RequestRouter) : Prop where
  allocators : ∀ nodeId, final.allocatorOf nodeId = router.allocatorOf nodeId
  rest : final = { router with decodeNodeSlots := final.decodeNodeSlots }

/-! ## Free slots -/

theorem slotIds_ne_nil (maxSlots : Int32) :
    slotIds maxSlots ≠ [] ↔ 0 < maxSlots := by
  rw [slotIds, ne_eq, List.map_eq_nil_iff, List.range_eq_nil,
    Int32.lt_iff_toInt_lt, Int32.toInt_zero]
  omega

theorem hasFreeSlot_iff (router : RequestRouter) (nodeId : ByteString) :
    router.HasFreeSlot nodeId ↔
      (router.allocatorOf nodeId).hasFreeSlot = true := by
  have nonempty (allocator : NodeSlotAllocator) :
      allocator.hasFreeSlot = true ↔ allocator.freeSlots ≠ [] := by
    rw [NodeSlotAllocator.hasFreeSlot, Bool.not_eq_true',
      List.isEmpty_eq_false_iff]
  rw [nonempty, HasFreeSlot, allocatorOf]
  cases router.decodeNodeSlots.lookup nodeId with
  | none =>
      exact (slotIds_ne_nil router.slotConfig.maxSlotsPerNode).symm
  | some allocator =>
      exact Iff.rfl

/-! ## Offsets -/

theorem toNat_mul_modEq
    {first second : UInt64} {x y : Int}
    (isFirst : Int.ModEq (2 ^ 64) first.toNat x)
    (isSecond : Int.ModEq (2 ^ 64) second.toNat y) :
    Int.ModEq (2 ^ 64) (first * second).toNat (x * y) := by
  rw [UInt64.toNat_mul, Int.natCast_emod, Int.natCast_mul]
  exact (Int.mod_modEq _ _).trans (isFirst.mul isSecond)

theorem slotBaseOffset_emod
    (slotConfig : RequestRouterSlotConfig) (slotId : Int32) :
    ((slotConfig.slotBaseOffset slotId).toNat : Int) =
      slotId.toInt * slotConfig.requestBytes % 2 ^ 64 := by
  have number (signed : Int32) :
      Int.ModEq (2 ^ 64) signed.toInt64.toUInt64.toNat signed.toInt := by
    rw [toUInt64_toNat_eq_emod]
    exact Int.mod_modEq _ _
  have kilo : Int.ModEq (2 ^ 64) (1024 : UInt64).toNat 1024 :=
    Int.ModEq.refl _
  have layers :=
    toNat_mul_modEq (number slotConfig.numLayers)
      (Int.ModEq.refl slotConfig.layerSizeMb.toNat)
  have size := toNat_mul_modEq (toNat_mul_modEq layers kilo) kilo
  have offset :
      ((slotConfig.slotBaseOffset slotId).toNat : Int) % 2 ^ 64 =
        slotId.toInt * slotConfig.requestBytes % 2 ^ 64 :=
    toNat_mul_modEq (number slotId) size
  have below := (slotConfig.slotBaseOffset slotId).toNat_lt
  rw [← offset]
  omega

/-! ## What the call does -/

namespace TakesNothing

variable {router middle final : RequestRouter}

theorem refl (router : RequestRouter) : router.TakesNothing router where
  allocators _ := rfl
  rest := rfl

theorem trans
    (first : router.TakesNothing middle) (second : middle.TakesNothing final) :
    router.TakesNothing final where
  allocators nodeId :=
    (second.allocators nodeId).trans (first.allocators nodeId)
  rest := by
    rw [second.rest, first.rest]

theorem initializeNodeSlots (router : RequestRouter) (nodeId : ByteString) :
    router.TakesNothing (router.initializeNodeSlots nodeId) where
  allocators := allocatorOf_initializeNodeSlots router nodeId
  rest := by
    rw [RequestRouter.initializeNodeSlots]
    split <;>
      rfl

theorem nodesWithSlots (router : RequestRouter) (nodes : List NodeInfo) :
    router.TakesNothing (router.nodesWithSlots nodes).2 := by
  induction nodes generalizing router with
  | nil =>
      exact refl router
  | cons node rest inductionHypothesis =>
      have both :=
        (initializeNodeSlots router node.nodeId).trans
          (inductionHypothesis (router.initializeNodeSlots node.nodeId))
      rw [RequestRouter.nodesWithSlots]
      dsimp only
      split <;>
        exact both

end TakesNothing

theorem TakesFront.of_takesNothing
    {router middle final : RequestRouter} {requestId nodeId : ByteString}
    {slotId : Int32} (same : router.TakesNothing middle)
    (takes : middle.TakesFront final requestId nodeId slotId) :
    router.TakesFront final requestId nodeId slotId where
  taken := by
    rw [← same.allocators nodeId]
    exact takes.taken
  others other different :=
    (takes.others other different).trans (same.allocators other)
  rest := by
    rw [takes.rest, same.rest]

theorem TakesFront.of_allocated
    {router allocated : RequestRouter} {requestId nodeId : ByteString}
    {slotId : Int32}
    (isAllocated :
      router.allocateSlotForNode nodeId requestId = (some slotId, allocated)) :
    router.TakesFront (allocated.trackDecodeNode requestId nodeId) requestId
      nodeId slotId := by
  obtain ⟨allocator, taken, isNext⟩ := allocateSlotForNode_some isAllocated
  have same := TakesNothing.initializeNodeSlots router nodeId
  have after (tested : ByteString) :
      (allocated.trackDecodeNode requestId nodeId).allocatorOf tested =
        if tested = nodeId then allocator else router.allocatorOf tested := by
    rw [← same.allocators tested, ← allocatorOf_setAllocator, ← isNext]
    rfl
  constructor
  · rw [NodeSlotAllocator.allocate] at taken
    split at taken
    · cases taken
    · rename_i front rest queue
      cases taken
      refine ⟨rest, queue, ?_⟩
      rw [after, if_pos rfl]
  · intro other different
    rw [after, if_neg different]
  · rw [isNext, same.rest]
    rfl

/-- The parts of a call that succeeds. -/
theorem selectNodesAndAllocateSlot_eq_some
    {router final : RequestRouter} {prefillNodes decodeNodes : List NodeInfo}
    {prefillDraw decodeDraw : Nat} {requestId : ByteString}
    {routing : RoutingResult}
    (selected :
      router.selectNodesAndAllocateSlot prefillNodes decodeNodes prefillDraw
          decodeDraw requestId =
        (some routing, final)) :
    ∃ afterPrefill afterDecode allocated,
      router.selectPrefillNode prefillNodes prefillDraw =
          (some routing.prefillNode, afterPrefill) ∧
        (afterPrefill.nodesWithSlots decodeNodes).2.selectDecodeNode
            (afterPrefill.nodesWithSlots decodeNodes).1 decodeDraw =
          (some routing.decodeNode, afterDecode) ∧
        afterDecode.allocateSlotForNode routing.decodeNode.nodeId requestId =
          (some routing.slotId, allocated) ∧
        routing.slotBaseOffset =
          router.slotConfig.slotBaseOffset routing.slotId ∧
        final =
          allocated.trackDecodeNode requestId routing.decodeNode.nodeId := by
  rw [selectNodesAndAllocateSlot] at selected
  split at selected
  · cases selected
  · split at selected
    · cases selected
    · rename_i prefillNode afterPrefill prefillChosen
      split at selected
      · cases selected
      · dsimp only at selected
        split at selected
        · cases selected
        · split at selected
          · cases selected
          · rename_i decodeNode afterDecode decodeChosen
            split at selected
            · cases selected
            · rename_i slotId allocated isAllocated
              cases selected
              exact
                ⟨afterPrefill, afterDecode, allocated, prefillChosen,
                  decodeChosen, isAllocated, rfl, rfl⟩

section LeastLoaded

variable {router final : RequestRouter} {prefillNodes decodeNodes : List NodeInfo}
variable {prefillDraw decodeDraw : Nat} {requestId : ByteString}

theorem selectPrefillNode_leastLoaded
    (policy : router.policy = .leastLoaded) (nodes : List NodeInfo)
    (draw : Nat) :
    router.selectPrefillNode nodes draw =
      (router.selectLeastLoaded nodes, router) := by
  rw [selectPrefillNode, policy]

theorem selectDecodeNode_leastLoaded
    (policy : router.policy = .leastLoaded) (nodes : List NodeInfo)
    (draw : Nat) :
    router.selectDecodeNode nodes draw =
      (router.selectLeastLoaded nodes, router) := by
  rw [selectDecodeNode, policy]

/-- A call that fails takes nothing. -/
theorem takesNothing_of_none
    (policy : router.policy = .leastLoaded)
    (refused :
      router.selectNodesAndAllocateSlot prefillNodes decodeNodes prefillDraw
          decodeDraw requestId =
        (none, final)) :
    router.TakesNothing final := by
  have listing := TakesNothing.nodesWithSlots router decodeNodes
  have samePolicy :=
    (router.policy_nodesWithSlots decodeNodes).trans policy
  rw [selectNodesAndAllocateSlot, selectPrefillNode_leastLoaded policy]
    at refused
  generalize router.selectLeastLoaded prefillNodes = prefillNode at refused
  split at refused
  · cases refused
    exact .refl router
  · cases prefillNode with
    | none =>
        cases refused
        exact .refl router
    | some prefillNode =>
        dsimp only at refused
        rw [selectDecodeNode_leastLoaded samePolicy] at refused
        generalize
          RequestRouter.selectLeastLoaded _ _ = decodeNode at refused
        split at refused
        · cases refused
          exact .refl router
        · split at refused
          · cases refused
            exact listing
          · cases decodeNode with
            | none =>
                cases refused
                exact listing
            | some decodeNode =>
                dsimp only at refused
                split at refused
                · rename_i allocated exhausted
                  cases refused
                  obtain ⟨_, isNext⟩ := allocateSlotForNode_none exhausted
                  rw [isNext]
                  exact listing.trans (.initializeNodeSlots _ _)
                · cases refused

/-- A call that succeeds has chosen best nodes and takes one slot. -/
theorem takesFront_of_some
    (policy : router.policy = .leastLoaded) {routing : RoutingResult}
    (selected :
      router.selectNodesAndAllocateSlot prefillNodes decodeNodes prefillDraw
          decodeDraw requestId =
        (some routing, final)) :
    router.selectLeastLoaded prefillNodes = some routing.prefillNode ∧
      router.selectLeastLoaded
          (decodeNodes.filter fun node =>
            (router.allocatorOf node.nodeId).hasFreeSlot) =
        some routing.decodeNode ∧
      routing.slotBaseOffset =
        router.slotConfig.slotBaseOffset routing.slotId ∧
      router.TakesFront final requestId routing.decodeNode.nodeId
        routing.slotId := by
  obtain
    ⟨afterPrefill, afterDecode, allocated, prefillChosen, decodeChosen,
      isAllocated, offset, isFinal⟩ :=
    selectNodesAndAllocateSlot_eq_some selected
  have listing := TakesNothing.nodesWithSlots router decodeNodes
  have samePolicy :=
    (router.policy_nodesWithSlots decodeNodes).trans policy
  rw [selectPrefillNode_leastLoaded policy] at prefillChosen
  obtain ⟨isPrefill, isRouter⟩ := Prod.mk.inj prefillChosen
  rw [← isRouter, selectDecodeNode_leastLoaded samePolicy] at decodeChosen
  obtain ⟨isDecode, isListed⟩ := Prod.mk.inj decodeChosen
  have sameLoads (nodes : List NodeInfo) :
      (router.nodesWithSlots decodeNodes).2.selectLeastLoaded nodes =
        router.selectLeastLoaded nodes := by
    rw [listing.rest]
    rfl
  rw [sameLoads, nodesWithSlots_fst] at isDecode
  rw [← isListed] at isAllocated
  rw [isFinal]
  exact
    ⟨isPrefill, isDecode, offset,
      (TakesFront.of_allocated isAllocated).of_takesNothing listing⟩

/-- Some node can be chosen of any that are there if no load is the largest. -/
theorem canChoose_iff
    (belowMax : ∀ nodeId, router.getNodeLoad nodeId < Int32.maxValue)
    (nodes : List NodeInfo) :
    router.CanChoose nodes ↔ nodes ≠ [] := by
  constructor
  · intro can
    exact can.nonempty
  · intro nonempty
    refine ⟨nonempty, ?_⟩
    intro _
    obtain ⟨node, listed⟩ := List.exists_mem_of_ne_nil nodes nonempty
    exact ⟨node, listed, belowMax node.nodeId⟩

end LeastLoaded

/-- A call running alone succeeds exactly if a healthy prefill node and a healthy
decode node with a free slot are there.  It then chooses nodes of least load and
takes the front slot of the decode node; otherwise it takes nothing. -/
theorem best_nodes_selected
    {router : RequestRouter} {registry : NodeRegistry}
    {prefillNodes decodeNodes : List NodeInfo}
    (policy : router.policy = .leastLoaded)
    (belowMax : ∀ nodeId, router.getNodeLoad nodeId < Int32.maxValue)
    (prefillListed :
      prefillNodes.Perm (registry.getHealthyNodes .prefill))
    (decodeListed : decodeNodes.Perm (registry.getHealthyNodes .decode))
    (prefillDraw decodeDraw : Nat) (requestId : ByteString) :
    ((router.selectNodesAndAllocateSlot prefillNodes decodeNodes prefillDraw
            decodeDraw requestId).1.isSome = true ↔
        registry.getHealthyNodes .prefill ≠ [] ∧
          ∃ node ∈ registry.getHealthyNodes .decode,
            router.HasFreeSlot node.nodeId) ∧
      (∀ routing final,
        router.selectNodesAndAllocateSlot prefillNodes decodeNodes prefillDraw
              decodeDraw requestId =
            (some routing, final) →
          router.BestNodes registry routing ∧
            (routing.slotBaseOffset.toNat : Int) =
              routing.slotId.toInt * router.slotConfig.requestBytes % 2 ^ 64 ∧
            router.TakesFront final requestId routing.decodeNode.nodeId
              routing.slotId) ∧
      ∀ final,
        router.selectNodesAndAllocateSlot prefillNodes decodeNodes prefillDraw
              decodeDraw requestId =
            (none, final) →
          router.TakesNothing final := by
  refine ⟨?_, ?_, fun final refused => takesNothing_of_none policy refused⟩
  · have someFree :
        (decodeNodes.filter fun node =>
            (router.allocatorOf node.nodeId).hasFreeSlot) ≠ [] ↔
          ∃ node ∈ registry.getHealthyNodes .decode,
            router.HasFreeSlot node.nodeId := by
      rw [ne_eq, List.filter_eq_nil_iff]
      push Not
      simp only [decodeListed.mem_iff, hasFreeSlot_iff]
    have somePrefill :
        prefillNodes ≠ [] ↔ registry.getHealthyNodes .prefill ≠ [] := by
      rw [ne_eq, ne_eq, ← List.length_eq_zero_iff, ← List.length_eq_zero_iff,
        prefillListed.length_eq]
    rw [selectNodesAndAllocateSlot_isSome, CanServe, canChoose_iff belowMax,
      canChoose_iff belowMax, someFree, somePrefill]
  · intro routing final selected
    obtain ⟨isPrefill, isDecode, offset, takes⟩ :=
      takesFront_of_some policy selected
    obtain ⟨prefillMember, prefillLeast⟩ := least_of_selectLeastLoaded isPrefill
    obtain ⟨decodeMember, decodeLeast⟩ := least_of_selectLeastLoaded isDecode
    obtain ⟨decodeIsListed, decodeFree⟩ := List.mem_filter.mp decodeMember
    refine ⟨?_, ?_, takes⟩
    · constructor
      · exact prefillListed.mem_iff.mp prefillMember
      · intro node healthy
        exact prefillLeast node (prefillListed.mem_iff.mpr healthy)
      · exact decodeListed.mem_iff.mp decodeIsListed
      · exact (router.hasFreeSlot_iff _).mpr decodeFree
      · intro node healthy free
        refine decodeLeast node (List.mem_filter.mpr ⟨?_, ?_⟩)
        · exact decodeListed.mem_iff.mpr healthy
        · exact (router.hasFreeSlot_iff _).mp free
    · rw [offset]
      exact slotBaseOffset_emod router.slotConfig routing.slotId

def sampleRegistry : NodeRegistry :=
  ((({} : NodeRegistry).addNode (NodeInfo.healthy [1] .prefill)).addNode
    (NodeInfo.healthy [2] .decode)).addNode (NodeInfo.healthy [3] .decode)

/-- A call for a request, given the nodes in the order of the registry. -/
def sampleCall (router : RequestRouter) (requestId : ByteString) :
    Option RoutingResult × RequestRouter :=
  router.selectNodesAndAllocateSlot (sampleRegistry.getHealthyNodes .prefill)
    (sampleRegistry.getHealthyNodes .decode) 0 0 requestId

/-- The only slot of the second node is taken, and the third node has a load. -/
def sampleLoaded : RequestRouter :=
  (sampleCall
    (({ slotConfig := { maxSlotsPerNode := 1 } } :
      RequestRouter).incrementNodeLoad [3]) [10]).2

theorem best_nodes_selected_sampleLoaded :
    ∃ routing final,
      sampleCall sampleLoaded [11] = (some routing, final) ∧
        routing.decodeNode.nodeId = [3] ∧
        sampleLoaded.BestNodes sampleRegistry routing ∧
        sampleLoaded.TakesFront final [11] [3] routing.slotId := by
  have outcome :
      (sampleCall sampleLoaded [11]).1.map
          (fun routing => routing.decodeNode.nodeId) =
        some [3] := by
    decide +kernel
  obtain ⟨routing, isRouting, isThird⟩ := Option.map_eq_some_iff.mp outcome
  have selected :
      sampleCall sampleLoaded [11] =
        (some routing, (sampleCall sampleLoaded [11]).2) :=
    Prod.ext isRouting rfl
  have loads :
      sampleLoaded.nodeLoads = (∅ : UnorderedMap ByteString Int32).insert [3] 1 :=
    rfl
  have belowMax (nodeId : ByteString) :
      sampleLoaded.getNodeLoad nodeId < Int32.maxValue := by
    rw [getNodeLoad, loads]
    by_cases isLoaded : nodeId = [3]
    · rw [isLoaded, AList.lookup_insert]
      decide
    · rw [AList.lookup_insert_ne isLoaded, AList.lookup_empty]
      decide
  obtain ⟨best, _, takes⟩ :=
    (best_nodes_selected rfl belowMax (List.Perm.refl _) (List.Perm.refl _) 0 0
      [11]).2.1 routing _ selected
  rw [isThird] at takes
  exact ⟨routing, _, selected, isThird, best, takes⟩

end RequestRouter

end RdmaKvCache
