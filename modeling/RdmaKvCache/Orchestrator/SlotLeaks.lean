import RdmaKvCache.Library.LabelledRuns
import RdmaKvCache.Orchestrator.NodeChoices
import RdmaKvCache.Orchestrator.RouterPools
import RdmaKvCache.Orchestrator.SlotHolders

/-!
# Slots that leak

Calls of `select_nodes_and_allocate_slot` and `free_slot` one after the other, with
whatever request ids the clients choose.  A slot is given back through two maps,
from the request to its decode node and on that node from the request to its slot,
and an allocation for a request that has a slot already writes over both.
-/

namespace RdmaKvCache

/-- The healthy nodes a call lists and the random numbers it draws are its own;
between two calls loads may change. -/
inductive RouterCall where
  | select
      (prefillNodes decodeNodes : List NodeInfo) (prefillDraw decodeDraw : Nat)
      (requestId : ByteString)
  | freeSlot (requestId : ByteString)
  | changeLoads (nodeLoads : UnorderedMap ByteString Int32)

/-- The requests of the successful allocations that no later `free_slot` call has
been matched with yet. -/
structure MatchedRouter where
  router : RequestRouter
  unmatched : List ByteString := []

namespace MatchedRouter

def step (matched : MatchedRouter) : RouterCall → Option MatchedRouter
  | .select prefillNodes decodeNodes prefillDraw decodeDraw requestId =>
      let (routing, router) :=
        matched.router.selectNodesAndAllocateSlot prefillNodes decodeNodes
          prefillDraw decodeDraw requestId
      some
        { router := router
          unmatched :=
            if routing.isSome then requestId :: matched.unmatched
            else matched.unmatched }
  | .freeSlot requestId =>
      some
        { router := matched.router.freeSlot requestId
          unmatched := matched.unmatched.erase requestId }
  | .changeLoads nodeLoads =>
      some { matched with router := { matched.router with nodeLoads := nodeLoads } }

def start (policy : RoutingPolicy) (slotConfig : RequestRouterSlotConfig) :
    MatchedRouter where
  router := { policy := policy, slotConfig := slotConfig }

/-- All slots of all decode nodes are free, and no request is mapped to a node. -/
structure AllFree (matched : MatchedRouter) : Prop where
  available :
    ∀ nodeId,
      matched.router.getAvailableSlots nodeId =
        matched.router.slotConfig.maxSlotsPerNode
  unmapped : ∀ requestId, matched.router.decodeNodeOf requestId = none

/-- No request is served under an id for which a slot is held. -/
def FreshIdsServed (matched : MatchedRouter) : RouterCall → Prop
  | .select prefillNodes decodeNodes _ _ requestId =>
      matched.router.CanServe prefillNodes decodeNodes →
        matched.router.decodeNodeOf requestId = none
  | _ => True

instance (matched : MatchedRouter) :
    ∀ call, Decidable (matched.FreshIdsServed call)
  | .select _ _ _ _ _ => inferInstanceAs (Decidable (_ → _ = none))
  | .freeSlot _ => .isTrue trivial
  | .changeLoads _ => .isTrue trivial

/-! ## Nothing has leaked -/

/-- Every slot is free or held by a request that is mapped to its node, and every
mapped request is still to be matched. -/
structure Clean
    (slotConfig : RequestRouterSlotConfig) (matched : MatchedRouter)
    (pools : ByteString → SlotPool slotConfig.maxSlotsPerNode) : Prop where
  represents : matched.router.Represents pools
  complete : ∀ nodeId, (pools nodeId).Complete
  mapped :
    ∀ requestId nodeId,
      matched.router.decodeNodeOf requestId = some nodeId ↔
        (pools nodeId).held requestId ≠ none
  distinct : matched.unmatched.Nodup
  unmatched :
    ∀ requestId,
      requestId ∈ matched.unmatched ↔
        matched.router.decodeNodeOf requestId ≠ none

/-- The slot is not free, and no request that holds it is mapped to its node. -/
structure Leaked
    (slotConfig : RequestRouterSlotConfig) (matched : MatchedRouter)
    (pools : ByteString → SlotPool slotConfig.maxSlotsPerNode)
    (nodeId : ByteString) (slotId : Int32) : Prop where
  represents : matched.router.Represents pools
  inRange : slotId ∈ SlotRange slotConfig.maxSlotsPerNode
  notFree : slotId ∉ (pools nodeId).free
  unmapped :
    ∀ requestId,
      (pools nodeId).held requestId = some slotId →
        matched.router.decodeNodeOf requestId ≠ some nodeId

def IsClean (slotConfig : RequestRouterSlotConfig) (matched : MatchedRouter) :
    Prop :=
  ∃ pools, Clean slotConfig matched pools

def HasLeak (slotConfig : RequestRouterSlotConfig) (matched : MatchedRouter) :
    Prop :=
  ∃ pools nodeId slotId, Leaked slotConfig matched pools nodeId slotId

section Calls

variable {slotConfig : RequestRouterSlotConfig} {matched next : MatchedRouter}
  {pools : ByteString → SlotPool slotConfig.maxSlotsPerNode}

theorem isClean_start
    (policy : RoutingPolicy) (slotConfig : RequestRouterSlotConfig) :
    (start policy slotConfig).IsClean slotConfig := by
  refine ⟨fun _ => fullPool slotConfig.maxSlotsPerNode, ?_⟩
  refine
    ⟨RequestRouter.Represents.of_fresh rfl, ?_, ?_, List.nodup_nil, ?_⟩
  · intro nodeId slotId inRange
    exact Or.inl (mem_slotIds inRange)
  · intro requestId nodeId
    apply iff_of_false
    · intro mapped
      cases mapped
    · intro held
      exact held rfl
  · intro requestId
    apply iff_of_false List.not_mem_nil
    intro mapped
    exact mapped rfl

/-- A call that serves nobody changes neither the pools nor the mapping. -/
theorem select_cases
    {prefillNodes decodeNodes : List NodeInfo} {prefillDraw decodeDraw : Nat}
    {requestId : ByteString}
    (represents : matched.router.Represents pools)
    (stepped :
      matched.step
          (.select prefillNodes decodeNodes prefillDraw decodeDraw requestId) =
        some next) :
    (¬ matched.router.CanServe prefillNodes decodeNodes ∧
        next.router.Represents pools ∧
        (∀ tested,
          next.router.decodeNodeOf tested =
            matched.router.decodeNodeOf tested) ∧
        next.unmatched = matched.unmatched) ∨
      matched.router.CanServe prefillNodes decodeNodes ∧
        ∃ nodeId slotId rest,
          ∃ front : (pools nodeId).free = slotId :: rest,
            next.router.Represents
                (Function.update pools nodeId
                  ((pools nodeId).lend requestId slotId rest front)) ∧
              (∀ tested,
                next.router.decodeNodeOf tested =
                  if tested = requestId then some nodeId
                  else matched.router.decodeNodeOf tested) ∧
              next.unmatched = requestId :: matched.unmatched := by
  have served :=
    matched.router.selectNodesAndAllocateSlot_isSome prefillNodes decodeNodes
      prefillDraw decodeDraw requestId
  have holders :=
    matched.router.selectNodesAndAllocateSlot_cases prefillNodes decodeNodes
      prefillDraw decodeDraw requestId
  have lending :=
    represents.selectNodesAndAllocateSlot prefillNodes decodeNodes prefillDraw
      decodeDraw requestId
  simp only [step] at stepped
  rcases outcome :
      matched.router.selectNodesAndAllocateSlot prefillNodes decodeNodes
        prefillDraw decodeDraw requestId with
    ⟨routing, router⟩
  rw [outcome] at stepped served holders lending
  cases stepped
  cases routing with
  | none =>
      apply Or.inl
      refine ⟨fun can => (by cases served.mpr can), ?_, ?_, rfl⟩
      · rcases lending with ⟨_, same, represented⟩ | ⟨_, _, _, _, other, _⟩
        · cases same
          exact represented
        · cases other
      · rcases holders with ⟨_, same, assignments⟩ | ⟨_, _, other, _⟩
        · cases same
          exact assignments.sameHolders.decodeNodeOf_eq
        · cases other
  | some routing =>
      apply Or.inr
      refine ⟨served.mp rfl, routing.decodeNode.nodeId, routing.slotId, ?_⟩
      rcases lending with ⟨_, other, _⟩ | ⟨_, _, rest, front, same, represented⟩
      · cases other
      · cases same
        refine ⟨rest, front, represented, ?_, rfl⟩
        rcases holders with ⟨_, other, _⟩ | ⟨_, _, sameRouting, takes⟩
        · cases other
        · cases sameRouting
          exact takes.decodeNodeOf_eq

/-- A `free_slot` call gives the slot of a mapped request back. -/
theorem freeSlot_cases
    {requestId : ByteString}
    (represents : matched.router.Represents pools)
    (stepped : matched.step (.freeSlot requestId) = some next) :
    next.unmatched = matched.unmatched.erase requestId ∧
      (∀ tested,
        next.router.decodeNodeOf tested =
          if tested = requestId then none
          else matched.router.decodeNodeOf tested) ∧
      ((∃ nodeId slotId,
          ∃ owned : (pools nodeId).held requestId = some slotId,
            matched.router.decodeNodeOf requestId = some nodeId ∧
              next.router.Represents
                (Function.update pools nodeId
                  ((pools nodeId).giveBack requestId slotId owned))) ∨
        (∀ nodeId,
            matched.router.decodeNodeOf requestId = some nodeId →
              (pools nodeId).held requestId = none) ∧
          next.router.Represents pools) := by
  cases stepped
  refine
    ⟨rfl, matched.router.decodeNodeOf_freeSlot requestId, ?_⟩
  rcases represents.freeSlot requestId with given | kept
  · exact Or.inl given
  · refine Or.inr ⟨?_, kept⟩
    intro nodeId mapped
    have emptied :=
      matched.router.slotOf_freeSlot requestId nodeId requestId
    rw [if_pos ⟨rfl, mapped⟩] at emptied
    rw [← (kept.allocators nodeId).held]
    exact emptied

/-- Slots that no request takes twice stay accounted for. -/
theorem Clean.select
    {prefillNodes decodeNodes : List NodeInfo} {prefillDraw decodeDraw : Nat}
    {requestId : ByteString}
    (clean : Clean slotConfig matched pools)
    (stepped :
      matched.step
          (.select prefillNodes decodeNodes prefillDraw decodeDraw requestId) =
        some next)
    (fresh :
      matched.router.CanServe prefillNodes decodeNodes →
        matched.router.decodeNodeOf requestId = none) :
    next.IsClean slotConfig := by
  rcases select_cases clean.represents stepped with
    ⟨_, represents, sameNodes, sameUnmatched⟩ |
      ⟨can, nodeId, slotId, rest, front, represents, nodes, unmatched⟩
  · refine ⟨pools, represents, clean.complete, ?_, ?_, ?_⟩
    · intro tested testedNode
      rw [sameNodes]
      exact clean.mapped tested testedNode
    · rw [sameUnmatched]
      exact clean.distinct
    · intro tested
      rw [sameUnmatched, sameNodes]
      exact clean.unmatched tested
  · have unmapped := fresh can
    have holdsNothing (testedNode : ByteString) :
        (pools testedNode).held requestId = none := by
      by_contra held
      have mapped := (clean.mapped requestId testedNode).mpr held
      rw [unmapped] at mapped
      cases mapped
    refine ⟨_, represents, ?_, ?_, ?_, ?_⟩
    · exact
        SlotPools.Pool.complete_update_lend clean.complete front
          (holdsNothing nodeId)
    · intro tested testedNode
      rw [nodes, SlotPools.Pool.held_update_lend]
      by_cases same : tested = requestId
      · rw [if_pos same, same, Option.some.injEq]
        by_cases sameNode : testedNode = nodeId
        · simp [sameNode]
        · simp [sameNode, Ne.symm sameNode, holdsNothing testedNode]
      · rw [if_neg same, if_neg (fun both => same both.1)]
        exact clean.mapped tested testedNode
    · rw [unmatched, List.nodup_cons]
      refine ⟨?_, clean.distinct⟩
      intro listed
      exact (clean.unmatched requestId).mp listed unmapped
    · intro tested
      rw [unmatched, nodes, List.mem_cons]
      by_cases same : tested = requestId
      · simp [same]
      · rw [if_neg same, clean.unmatched tested]
        simp [same]

theorem Clean.freeSlot
    {requestId : ByteString} (clean : Clean slotConfig matched pools)
    (stepped : matched.step (.freeSlot requestId) = some next) :
    next.IsClean slotConfig := by
  obtain ⟨unmatched, nodes, pooled⟩ := freeSlot_cases clean.represents stepped
  have distinct : next.unmatched.Nodup := by
    rw [unmatched]
    exact clean.distinct.erase requestId
  have stillUnmatched (tested : ByteString) :
      tested ∈ next.unmatched ↔ next.router.decodeNodeOf tested ≠ none := by
    rw [unmatched, nodes, clean.distinct.mem_erase_iff]
    by_cases same : tested = requestId
    · simp [same]
    · rw [if_neg same, clean.unmatched tested]
      simp [same]
  rcases pooled with ⟨nodeId, slotId, owned, mapped, represents⟩ | ⟨idle, represents⟩
  · refine ⟨_, represents, ?_, ?_, distinct, stillUnmatched⟩
    · exact SlotPools.Pool.complete_update_giveBack clean.complete owned
    · intro tested testedNode
      rw [nodes, SlotPools.Pool.held_update_giveBack]
      by_cases same : tested = requestId
      · rw [if_pos same, same]
        apply iff_of_false
        · intro isNode
          cases isNode
        · split
          · exact fun held => held rfl
          · rename_i elsewhere
            intro held
            have also := (clean.mapped requestId testedNode).mpr held
            rw [mapped] at also
            exact elsewhere ⟨rfl, (Option.some.inj also).symm⟩
      · rw [if_neg same, if_neg (fun both => same both.1)]
        exact clean.mapped tested testedNode
  · refine ⟨pools, represents, clean.complete, ?_, distinct, stillUnmatched⟩
    intro tested testedNode
    rw [nodes]
    by_cases same : tested = requestId
    · rw [if_pos same, same]
      apply iff_of_false
      · intro isNode
        cases isNode
      · intro held
        have mapped := (clean.mapped requestId testedNode).mpr held
        exact held (idle testedNode mapped)
    · rw [if_neg same]
      exact clean.mapped tested testedNode

theorem IsClean.step
    {call : RouterCall} (stepped : matched.step call = some next)
    (fresh : matched.FreshIdsServed call)
    (isClean : matched.IsClean slotConfig) :
    next.IsClean slotConfig := by
  obtain ⟨pools, clean⟩ := isClean
  cases call with
  | select prefillNodes decodeNodes prefillDraw decodeDraw requestId =>
      exact clean.select stepped fresh
  | freeSlot requestId =>
      exact clean.freeSlot stepped
  | changeLoads nodeLoads =>
      cases stepped
      exact
        ⟨pools,
          clean.represents.of_same_allocators rfl (fun _ => rfl),
          clean.complete, clean.mapped, clean.distinct, clean.unmatched⟩

/-! ## A slot that leaks -/

/-- A request that is served again gives away the slot it has. -/
theorem leaked_of_served_again
    {requestId mappedNode nodeId : ByteString} {lost slotId : Int32}
    {rest : List Int32}
    (held : (pools mappedNode).held requestId = some lost)
    (front : (pools nodeId).free = slotId :: rest)
    (represents :
      next.router.Represents
        (Function.update pools nodeId
          ((pools nodeId).lend requestId slotId rest front)))
    (nodes :
      ∀ tested,
        next.router.decodeNodeOf tested =
          if tested = requestId then some nodeId
          else matched.router.decodeNodeOf tested) :
    Leaked slotConfig next
      (Function.update pools nodeId
        ((pools nodeId).lend requestId slotId rest front))
      mappedNode lost where
  represents := represents
  inRange := (pools mappedNode).held_subset held
  notFree := by
    apply SlotPools.Pool.not_free_update_lend front
    exact (pools mappedNode).held_not_free held
  unmapped := by
    intro tested stillHeld
    have notFree := (pools mappedNode).held_not_free held
    rw [SlotPools.Pool.held_update_lend] at stillHeld
    rw [nodes]
    split at stillHeld
    · rename_i borrowed
      rw [borrowed.2, front, Option.some.inj stillHeld] at notFree
      exact absurd List.mem_cons_self notFree
    · rename_i notBorrowed
      have same := (pools mappedNode).held_injective stillHeld held
      rw [if_pos same]
      intro isNode
      exact notBorrowed ⟨same, (Option.some.inj isNode).symm⟩

theorem IsClean.leaks
    {call : RouterCall} (stepped : matched.step call = some next)
    (stale : ¬ matched.FreshIdsServed call)
    (isClean : matched.IsClean slotConfig) :
    next.HasLeak slotConfig := by
  obtain ⟨pools, clean⟩ := isClean
  cases call with
  | freeSlot requestId | changeLoads nodeLoads =>
      exact absurd trivial stale
  | select prefillNodes decodeNodes prefillDraw decodeDraw requestId =>
      have servedAgain := Classical.not_imp.mp stale
      obtain ⟨can, mapped⟩ := servedAgain
      obtain ⟨mappedNode, isMapped⟩ := Option.ne_none_iff_exists'.mp mapped
      obtain ⟨lost, held⟩ :=
        Option.ne_none_iff_exists'.mp
          ((clean.mapped requestId mappedNode).mp isMapped)
      rcases select_cases clean.represents stepped with
        ⟨cannot, _⟩ |
          ⟨_, nodeId, slotId, rest, front, represents, nodes, _⟩
      · exact absurd can cannot
      · exact
          ⟨_, mappedNode, lost,
            leaked_of_served_again held front represents nodes⟩

theorem Leaked.select
    {prefillNodes decodeNodes : List NodeInfo} {prefillDraw decodeDraw : Nat}
    {requestId leakNode : ByteString} {lost : Int32}
    (leaked : Leaked slotConfig matched pools leakNode lost)
    (stepped :
      matched.step
          (.select prefillNodes decodeNodes prefillDraw decodeDraw requestId) =
        some next) :
    next.HasLeak slotConfig := by
  rcases select_cases leaked.represents stepped with
    ⟨_, represents, sameNodes, _⟩ |
      ⟨_, nodeId, slotId, rest, front, represents, nodes, _⟩
  · refine
      ⟨pools, leakNode, lost, represents, leaked.inRange, leaked.notFree, ?_⟩
    intro tested held
    rw [sameNodes]
    exact leaked.unmapped tested held
  · refine ⟨_, leakNode, lost, represents, leaked.inRange, ?_, ?_⟩
    · exact SlotPools.Pool.not_free_update_lend front leaked.notFree
    · intro tested held
      have notFree := leaked.notFree
      rw [SlotPools.Pool.held_update_lend] at held
      rw [nodes]
      split at held
      · rename_i borrowed
        rw [borrowed.2, front, Option.some.inj held] at notFree
        exact absurd List.mem_cons_self notFree
      · rename_i notBorrowed
        split
        · rename_i same
          intro isNode
          exact notBorrowed ⟨same, (Option.some.inj isNode).symm⟩
        · exact leaked.unmapped tested held

theorem Leaked.freeSlot
    {requestId leakNode : ByteString} {lost : Int32}
    (leaked : Leaked slotConfig matched pools leakNode lost)
    (stepped : matched.step (.freeSlot requestId) = some next) :
    next.HasLeak slotConfig := by
  obtain ⟨_, nodes, pooled⟩ := freeSlot_cases leaked.represents stepped
  have unmapped (tested : ByteString)
      (held : (pools leakNode).held tested = some lost) :
      next.router.decodeNodeOf tested ≠ some leakNode := by
    rw [nodes]
    split
    · intro isNode
      cases isNode
    · exact leaked.unmapped tested held
  rcases pooled with
    ⟨nodeId, slotId, owned, mapped, represents⟩ | ⟨_, represents⟩
  · refine ⟨_, leakNode, lost, represents, leaked.inRange, ?_, ?_⟩
    · apply SlotPools.Pool.not_free_update_giveBack owned leaked.notFree
      intro sameNode isLost
      rw [← sameNode, ← isLost] at owned
      rw [← sameNode] at mapped
      exact leaked.unmapped requestId owned mapped
    · intro tested held
      rw [SlotPools.Pool.held_update_giveBack] at held
      split at held
      · cases held
      · exact unmapped tested held
  · exact
      ⟨pools, leakNode, lost, represents, leaked.inRange, leaked.notFree,
        unmapped⟩

/-- A slot that has leaked is never given back. -/
theorem HasLeak.step
    {call : RouterCall} (stepped : matched.step call = some next)
    (hasLeak : matched.HasLeak slotConfig) :
    next.HasLeak slotConfig := by
  obtain ⟨pools, leakNode, lost, leaked⟩ := hasLeak
  cases call with
  | changeLoads nodeLoads =>
      cases stepped
      exact
        ⟨pools, leakNode, lost,
          leaked.represents.of_same_allocators rfl (fun _ => rfl),
          leaked.inRange, leaked.notFree, leaked.unmapped⟩
  | select prefillNodes decodeNodes prefillDraw decodeDraw requestId =>
      exact leaked.select stepped
  | freeSlot requestId =>
      exact leaked.freeSlot stepped

/-! ## What is available in the end -/

theorem length_slotIds (maxSlots : Int32) :
    (slotIds maxSlots).length = maxSlots.toInt.toNat := by
  rw [slotIds, List.length_map, List.length_range]

theorem length_free_le
    {maxSlots : Int32} (pool : SlotPool maxSlots) :
    pool.free.length ≤ maxSlots.toInt.toNat := by
  have among : pool.free ⊆ slotIds maxSlots := by
    intro slotId isFree
    exact mem_slotIds (pool.free_subset isFree)
  rw [← length_slotIds]
  exact (List.subperm_of_subset pool.free_nodup among).length_le

theorem getAvailableSlots_eq_iff
    {router : RequestRouter} (nonneg : 0 ≤ slotConfig.maxSlotsPerNode)
    (represents : router.Represents pools) (nodeId : ByteString) :
    router.getAvailableSlots nodeId = slotConfig.maxSlotsPerNode ↔
      (pools nodeId).free.length = slotConfig.maxSlotsPerNode.toInt.toNat := by
  have isNonneg : 0 ≤ slotConfig.maxSlotsPerNode.toInt :=
    Int32.le_iff_toInt_le.mp nonneg
  have isFree := (represents.allocators nodeId).free
  rw [RequestRouter.getAvailableSlots]
  rw [RequestRouter.allocatorOf] at isFree
  cases allocated : router.decodeNodeSlots.lookup nodeId with
  | none =>
      rw [allocated, represents.slotConfig_eq] at isFree
      dsimp only
      apply iff_of_true
      · rw [represents.slotConfig_eq]
      · rw [← isFree]
        exact length_slotIds _
  | some allocator =>
      rw [allocated, Option.getD_some] at isFree
      have bound := length_free_le (pools nodeId)
      have upper : slotConfig.maxSlotsPerNode.toInt < 2 ^ 31 :=
        Int32.toInt_lt slotConfig.maxSlotsPerNode
      have value :
          (Int32.ofNat (pools nodeId).free.length).toInt =
            (pools nodeId).free.length :=
        Int32.toInt_ofNat_of_lt (by omega)
      dsimp only
      rw [NodeSlotAllocator.availableSlots, isFree, ← Int32.toInt_inj, value]
      omega

/-- Once every allocation has been matched all slots are free. -/
theorem IsClean.allFree
    (nonneg : 0 ≤ slotConfig.maxSlotsPerNode)
    (isClean : matched.IsClean slotConfig) (noneLeft : matched.unmatched = []) :
    matched.AllFree := by
  obtain ⟨pools, clean⟩ := isClean
  have unmapped (requestId : ByteString) :
      matched.router.decodeNodeOf requestId = none := by
    by_contra mapped
    have listed := (clean.unmatched requestId).mpr mapped
    rw [noneLeft] at listed
    cases listed
  refine ⟨?_, unmapped⟩
  intro nodeId
  rw [clean.represents.slotConfig_eq]
  apply (getAvailableSlots_eq_iff nonneg clean.represents nodeId).mpr
  apply Nat.le_antisymm (length_free_le (pools nodeId))
  rw [← length_slotIds]
  have among : slotIds slotConfig.maxSlotsPerNode ⊆ (pools nodeId).free := by
    intro slotId isSlot
    rcases clean.complete nodeId slotId (slotIds_subset isSlot) with
      isFree | ⟨requestId, held⟩
    · exact isFree
    · have isHeld : (pools nodeId).held requestId ≠ none := by
        rw [held]
        exact Option.some_ne_none slotId
      have mapped := (clean.mapped requestId nodeId).mpr isHeld
      rw [unmapped] at mapped
      cases mapped
  exact (List.subperm_of_subset (slotIds_nodup _) among).length_le

/-- A node that has lost a slot has fewer. -/
theorem HasLeak.not_allFree
    (nonneg : 0 ≤ slotConfig.maxSlotsPerNode)
    (hasLeak : matched.HasLeak slotConfig) :
    ¬ matched.AllFree := by
  obtain ⟨pools, nodeId, lost, leaked⟩ := hasLeak
  intro allFree
  have available := allFree.available nodeId
  rw [leaked.represents.slotConfig_eq] at available
  have whole :=
    (getAvailableSlots_eq_iff nonneg leaked.represents nodeId).mp available
  have distinct : (lost :: (pools nodeId).free).Nodup :=
    List.nodup_cons.mpr ⟨leaked.notFree, (pools nodeId).free_nodup⟩
  have among :
      lost :: (pools nodeId).free ⊆ slotIds slotConfig.maxSlotsPerNode := by
    intro slotId listed
    rcases List.mem_cons.mp listed with isLost | isFree
    · rw [isLost]
      exact mem_slotIds leaked.inRange
    · exact mem_slotIds ((pools nodeId).free_subset isFree)
  have fewer := (List.subperm_of_subset distinct among).length_le
  rw [length_slotIds, List.length_cons] at fewer
  omega

/-- When every allocation has been matched by a later `free_slot` call, all slots
are free exactly if no request has been served under an id for which a slot was
held. -/
theorem no_slot_leaks_iff
    {policy : RoutingPolicy} {calls : List RouterCall} {final : MatchedRouter}
    (nonneg : 0 ≤ slotConfig.maxSlotsPerNode)
    (run :
      LabelledRuns.execute step (start policy slotConfig) calls = some final)
    (matched : final.unmatched = []) :
    final.AllFree ↔
      LabelledRuns.Meets step FreshIdsServed (start policy slotConfig)
        calls := by
  have outcome :=
    LabelledRuns.meets_or_broken
      (fun _ _ _ stepped fresh clean => IsClean.step stepped fresh clean)
      (fun _ _ _ stepped stale clean => IsClean.leaks stepped stale clean)
      (fun _ _ _ stepped leak => HasLeak.step stepped leak)
      run (isClean_start policy slotConfig)
  rcases outcome with ⟨meets, clean⟩ | ⟨fails, leak⟩
  · exact iff_of_true (clean.allFree nonneg matched) meets
  · exact iff_of_false (leak.not_allFree nonneg) fails

end Calls

/-! ## A node with two slots -/

def sampleSelect (requestId : ByteString) : RouterCall :=
  .select [NodeInfo.healthy [1] .prefill] [NodeInfo.healthy [2] .decode] 0 0
    requestId

def sampleStart : MatchedRouter :=
  start .leastLoaded { maxSlotsPerNode := 2 }

/-- Two requests are served and freed. -/
def freshIds : List RouterCall :=
  [sampleSelect [10], sampleSelect [11], .freeSlot [10], .freeSlot [11]]

/-- A second request is served under the id of the first one, which is live, and
both are freed. -/
def repeatedId : List RouterCall :=
  [sampleSelect [10], sampleSelect [10], .freeSlot [10], .freeSlot [10]]

theorem no_slot_leaks_iff_freshIds :
    ∃ final,
      LabelledRuns.execute step sampleStart freshIds = some final ∧
        final.AllFree := by
  have outcome :
      (LabelledRuns.execute step sampleStart freshIds).map
          MatchedRouter.unmatched =
        some [] := by
    decide +kernel
  obtain ⟨final, run, matched⟩ := Option.map_eq_some_iff.mp outcome
  refine ⟨final, run, ?_⟩
  have started :
      LabelledRuns.execute step (start .leastLoaded { maxSlotsPerNode := 2 })
          freshIds =
        some final :=
    run
  apply (no_slot_leaks_iff (by decide) started matched).mpr
  change LabelledRuns.Meets step FreshIdsServed sampleStart freshIds
  decide +kernel

/-- One of the two slots is never free again. -/
theorem repeated_id_leaks :
    ∃ final,
      LabelledRuns.execute step sampleStart repeatedId = some final ∧
        final.unmatched = [] ∧
        final.router.getAvailableSlots [2] = 1 ∧ ¬ final.AllFree := by
  have outcome :
      (LabelledRuns.execute step sampleStart repeatedId).map
          (fun final =>
            (final.unmatched, final.router.getAvailableSlots [2],
              final.router.slotConfig.maxSlotsPerNode)) =
        some ([], 1, 2) := by
    decide +kernel
  obtain ⟨final, run, observed⟩ := Option.map_eq_some_iff.mp outcome
  simp only [Prod.mk.injEq] at observed
  obtain ⟨matched, available, maxSlots⟩ := observed
  refine ⟨final, run, matched, available, ?_⟩
  intro allFree
  have all := allFree.available [2]
  rw [available, maxSlots] at all
  cases all

end MatchedRouter

end RdmaKvCache
