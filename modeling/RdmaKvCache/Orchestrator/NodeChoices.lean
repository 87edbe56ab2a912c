import RdmaKvCache.Library.LeastScans
import RdmaKvCache.Orchestrator.SlotHolders

/-!
# When a node can be chosen

The router chooses none of some listed nodes if there are none, or if it goes by
the loads and all of them are as high as an `int` can be.
-/

namespace RdmaKvCache

namespace RequestRouter

/-- Some node can be chosen. -/
structure CanChoose (router : RequestRouter) (nodes : List NodeInfo) : Prop where
  nonempty : nodes ≠ []
  loads :
    router.policy = .leastLoaded →
      ∃ node ∈ nodes, router.getNodeLoad node.nodeId < Int32.maxValue

instance (router : RequestRouter) (nodes : List NodeInfo) :
    Decidable (router.CanChoose nodes) :=
  decidable_of_iff
    (nodes ≠ [] ∧
      (router.policy = .leastLoaded →
        ∃ node ∈ nodes, router.getNodeLoad node.nodeId < Int32.maxValue))
    ⟨fun both => ⟨both.1, both.2⟩, fun can => ⟨can.nonempty, can.loads⟩⟩

section Choosing

variable {router next : RequestRouter} {nodes : List NodeInfo} {draw : Nat}

theorem CanChoose.congr
    (policy : next.policy = router.policy)
    (loads : next.nodeLoads = router.nodeLoads) :
    next.CanChoose nodes ↔ router.CanChoose nodes := by
  have sameLoads (nodeId : ByteString) :
      next.getNodeLoad nodeId = router.getNodeLoad nodeId := by
    rw [getNodeLoad, loads, getNodeLoad]
  constructor <;>
    intro can <;>
    refine ⟨can.nonempty, ?_⟩ <;>
    have some := can.loads <;>
    simp only [policy, sameLoads] at some ⊢ <;>
    exact some

/-- The step of the loop that looks for the smallest load. -/
def lessLoaded (router : RequestRouter) (best : Option NodeInfo × Int32)
    (node : NodeInfo) : Option NodeInfo × Int32 :=
  let load := router.getNodeLoad node.nodeId
  if load < best.2 then (some node, load) else best

theorem lessLoaded_eq (router : RequestRouter) :
    router.lessLoaded =
      LeastScans.keepLess fun node => router.getNodeLoad node.nodeId :=
  rfl

theorem selectLeastLoaded_eq (router : RequestRouter) (nodes : List NodeInfo) :
    router.selectLeastLoaded nodes =
      (LeastScans.scan (fun node => router.getNodeLoad node.nodeId) nodes
        (none, Int32.maxValue)).1 := by
  rw [LeastScans.scan, ← lessLoaded_eq]
  rfl

theorem selectLeastLoaded_eq_none :
    router.selectLeastLoaded nodes = none ↔
      ¬ ∃ node ∈ nodes, router.getNodeLoad node.nodeId < Int32.maxValue := by
  rw [selectLeastLoaded_eq]
  exact LeastScans.scan_eq_none_iff

/-- An index wraps around unless there is nothing to choose from. -/
theorem length_le_mod_iff (index : Nat) :
    nodes.length ≤ index % nodes.length ↔ nodes = [] := by
  constructor
  · intro outside
    by_contra nonempty
    have positive := List.length_pos_iff.mpr nonempty
    have inside := Nat.mod_lt index positive
    omega
  · intro empty
    rw [empty]
    exact Nat.zero_le _

variable (router nodes draw) in
theorem selectPrefillNode_eq_none :
    (router.selectPrefillNode nodes draw).1 = none ↔
      ¬ router.CanChoose nodes := by
  have asParts :
      router.CanChoose nodes ↔
        nodes ≠ [] ∧
          (router.policy = .leastLoaded →
            ∃ node ∈ nodes,
              router.getNodeLoad node.nodeId < Int32.maxValue) :=
    ⟨fun can => ⟨can.nonempty, can.loads⟩, fun both => ⟨both.1, both.2⟩⟩
  rw [asParts]
  rw [selectPrefillNode]
  cases isPolicy : router.policy with
  | roundRobin =>
      simp [selectRoundRobin, length_le_mod_iff]
  | random =>
      simp [selectRandom, length_le_mod_iff]
  | leastLoaded =>
      dsimp only
      rw [selectLeastLoaded_eq_none]
      simp only [forall_const, ne_eq]
      constructor
      · intro none both
        exact none both.2
      · intro notBoth someNode
        apply notBoth
        refine ⟨?_, someNode⟩
        intro empty
        obtain ⟨node, listed, _⟩ := someNode
        rw [empty] at listed
        cases listed

variable (router nodes draw) in
/-- Decode nodes are chosen in the same way. -/
theorem selectDecodeNode_eq_none :
    (router.selectDecodeNode nodes draw).1 = none ↔
      ¬ router.CanChoose nodes := by
  rw [← selectPrefillNode_eq_none router nodes draw]
  rw [selectDecodeNode, selectPrefillNode]
  cases router.policy with
  | roundRobin =>
      simp [selectRoundRobin, length_le_mod_iff]
  | random | leastLoaded =>
      rfl

theorem least_of_selectLeastLoaded
    {chosen : NodeInfo}
    (found : router.selectLeastLoaded nodes = some chosen) :
    chosen ∈ nodes ∧
      ∀ node ∈ nodes,
        router.getNodeLoad chosen.nodeId ≤ router.getNodeLoad node.nodeId := by
  rw [selectLeastLoaded_eq] at found
  exact LeastScans.least_of_scan found

theorem mem_of_selectDecodeNode
    {chosen : NodeInfo}
    (found : (router.selectDecodeNode nodes draw).1 = some chosen) :
    chosen ∈ nodes := by
  rw [selectDecodeNode] at found
  cases isPolicy : router.policy with
  | roundRobin =>
      rw [isPolicy] at found
      exact List.mem_of_getElem? found
  | random =>
      rw [isPolicy] at found
      exact List.mem_of_getElem? found
  | leastLoaded =>
      rw [isPolicy] at found
      exact (least_of_selectLeastLoaded found).1

end Choosing

/-! ## When a request is served -/

/-- A prefill node can be chosen, and a decode node that has a free slot. -/
def CanServe
    (router : RequestRouter) (prefillNodes decodeNodes : List NodeInfo) :
    Prop :=
  router.CanChoose prefillNodes ∧
    router.CanChoose
      (decodeNodes.filter fun node =>
        (router.allocatorOf node.nodeId).hasFreeSlot)

instance (router : RequestRouter) (prefillNodes decodeNodes : List NodeInfo) :
    Decidable (router.CanServe prefillNodes decodeNodes) :=
  inferInstanceAs (Decidable (_ ∧ _))

theorem nodesWithSlots_fst (router : RequestRouter) (nodes : List NodeInfo) :
    (router.nodesWithSlots nodes).1 =
      nodes.filter fun node =>
        (router.allocatorOf node.nodeId).hasFreeSlot := by
  induction nodes generalizing router with
  | nil =>
      rfl
  | cons node rest inductionHypothesis =>
      simp only [nodesWithSlots, List.filter_cons,
        allocatorOf_initializeNodeSlots]
      split <;>
        simp [inductionHypothesis]

theorem policy_initializeNodeSlots
    (router : RequestRouter) (nodeId : ByteString) :
    (router.initializeNodeSlots nodeId).policy = router.policy := by
  rw [initializeNodeSlots]
  split <;> rfl

theorem policy_nodesWithSlots (router : RequestRouter) (nodes : List NodeInfo) :
    (router.nodesWithSlots nodes).2.policy = router.policy := by
  induction nodes generalizing router with
  | nil =>
      rfl
  | cons node rest inductionHypothesis =>
      have initialized := router.policy_initializeNodeSlots node.nodeId
      have listed := inductionHypothesis (router.initializeNodeSlots node.nodeId)
      simp only [nodesWithSlots]
      split <;>
        exact listed.trans initialized

theorem policy_selectPrefillNode
    (router : RequestRouter) (nodes : List NodeInfo) (draw : Nat) :
    (router.selectPrefillNode nodes draw).2.policy = router.policy := by
  rw [selectPrefillNode]
  split <;> rfl

/-- The part of a call after the prefill node has been chosen. -/
theorem allocateChosen_isSome
    {router afterPrefill : RequestRouter} (decodeNodes : List NodeInfo)
    (decodeDraw : Nat) (requestId : ByteString)
    (policy : afterPrefill.policy = router.policy)
    (same : router.SameAssignments afterPrefill) :
    ((afterPrefill.nodesWithSlots decodeNodes).1.isEmpty = false ∧
        ∃ decodeNode,
          ((afterPrefill.nodesWithSlots decodeNodes).2.selectDecodeNode
              (afterPrefill.nodesWithSlots decodeNodes).1 decodeDraw).1 =
            some decodeNode ∧
              (((afterPrefill.nodesWithSlots decodeNodes).2.selectDecodeNode
                  (afterPrefill.nodesWithSlots decodeNodes).1
                  decodeDraw).2.allocateSlotForNode decodeNode.nodeId
                requestId).1.isSome = true) ↔
      router.CanChoose
        (decodeNodes.filter fun node =>
          (router.allocatorOf node.nodeId).hasFreeSlot) := by
  have listed :
      (afterPrefill.nodesWithSlots decodeNodes).1 =
        decodeNodes.filter fun node =>
          (router.allocatorOf node.nodeId).hasFreeSlot := by
    rw [nodesWithSlots_fst]
    simp only [same.allocators]
  have samePolicy :=
    (afterPrefill.policy_nodesWithSlots decodeNodes).trans policy
  have listing :=
    same.trans (SameAssignments.nodesWithSlots afterPrefill decodeNodes)
  have noDecode :=
    selectDecodeNode_eq_none (afterPrefill.nodesWithSlots decodeNodes).2
      (afterPrefill.nodesWithSlots decodeNodes).1 decodeDraw
  rw [CanChoose.congr samePolicy listing.loads, listed] at noDecode
  rw [listed]
  constructor
  · intro served
    by_contra cannot
    obtain ⟨decodeNode, chosen, _⟩ := served.2
    rw [noDecode.mpr cannot] at chosen
    cases chosen
  · intro can
    refine ⟨List.isEmpty_eq_false_iff.mpr can.nonempty, ?_⟩
    cases chosen :
        ((afterPrefill.nodesWithSlots decodeNodes).2.selectDecodeNode
          (decodeNodes.filter fun node =>
            (router.allocatorOf node.nodeId).hasFreeSlot) decodeDraw).1 with
    | none =>
        exact absurd can (noDecode.mp chosen)
    | some decodeNode =>
        refine ⟨decodeNode, rfl, ?_⟩
        have isFree :
            (router.allocatorOf decodeNode.nodeId).hasFreeSlot = true :=
          (List.mem_filter.mp (mem_of_selectDecodeNode chosen)).2
        rcases allocated :
            RequestRouter.allocateSlotForNode _ decodeNode.nodeId
              requestId with ⟨slotId, final⟩
        cases slotId with
        | some slotId =>
            rfl
        | none =>
            have noneFree := (allocateSlotForNode_none allocated).1
            rw [allocatorOf_selectDecodeNode, listing.allocators] at noneFree
            rw [NodeSlotAllocator.hasFreeSlot] at isFree
            rw [noneFree] at isFree
            cases isFree

/-- A call running alone serves the request exactly if it can. -/
theorem selectNodesAndAllocateSlot_isSome
    (router : RequestRouter) (prefillNodes decodeNodes : List NodeInfo)
    (prefillDraw decodeDraw : Nat) (requestId : ByteString) :
    (router.selectNodesAndAllocateSlot prefillNodes decodeNodes prefillDraw
          decodeDraw requestId).1.isSome = true ↔
      router.CanServe prefillNodes decodeNodes := by
  have noPrefill := selectPrefillNode_eq_none router prefillNodes prefillDraw
  have policy := policy_selectPrefillNode router prefillNodes prefillDraw
  have same :=
    SameAssignments.selectPrefillNode router prefillNodes prefillDraw
  rw [selectNodesAndAllocateSlot, CanServe]
  rcases chosen : router.selectPrefillNode prefillNodes prefillDraw with
    ⟨prefillNode, afterPrefill⟩
  rw [chosen] at noPrefill policy same
  cases prefillNode with
  | none =>
      have cannot := noPrefill.mp rfl
      dsimp only
      split <;>
        simp [cannot]
  | some prefillNode =>
      have can : router.CanChoose prefillNodes := by
        by_contra cannot
        cases noPrefill.mpr cannot
      dsimp only at policy same ⊢
      rw [List.isEmpty_eq_false_iff.mpr can.nonempty]
      have allocating :=
        allocateChosen_isSome decodeNodes decodeDraw requestId policy same
      simp only [can, true_and, Bool.false_eq_true, if_false]
      rw [← allocating]
      cases decodeNodes with
      | nil =>
          simp [nodesWithSlots]
      | cons node rest =>
          rw [List.isEmpty_cons]
          simp only [Bool.false_eq_true, if_false]
          cases isEmpty :
              (afterPrefill.nodesWithSlots (node :: rest)).1.isEmpty with
          | true =>
              simp
          | false =>
              simp only [Bool.false_eq_true, if_false, true_and]
              rcases (afterPrefill.nodesWithSlots
                  (node :: rest)).2.selectDecodeNode
                    (afterPrefill.nodesWithSlots (node :: rest)).1
                      decodeDraw with
                ⟨decodeNode, afterDecode⟩
              cases decodeNode with
              | none =>
                  simp
              | some decodeNode =>
                  simp only [Option.some.injEq, exists_eq_left']
                  rcases afterDecode.allocateSlotForNode decodeNode.nodeId
                      requestId with
                    ⟨slotId, allocated⟩
                  cases slotId <;> rfl

end RequestRouter

end RdmaKvCache
