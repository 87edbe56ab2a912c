import Mathlib.Data.List.Perm.Subperm
import RdmaKvCache.Common.Types

/-!
# The exchange tracker

`RdmaExchangeTracker` counts the nodes that have registered and those that are
ready.  For a node it has already, `register_node` calls `all_nodes_registered`
and `mark_node_ready` calls `all_nodes_ready` while holding the mutex that these
acquire, so the call does not return.  An operation is `none` in that case.
-/

namespace RdmaKvCache

structure RdmaExchangeTracker where
  expectedPrefillNodes : Int32
  expectedDecodeNodes : Int32
  registeredNodes : List ByteString := []
  registeredPrefill : List ByteString := []
  registeredDecode : List ByteString := []
  readyNodes : List ByteString := []
  deriving DecidableEq

namespace RdmaExchangeTracker

/-- A set's size compared with an `int`, which is converted to `size_t`. -/
def sizeEquals (nodes : List ByteString) (expected : Int32) : Bool :=
  decide (UInt64.ofNat nodes.length = expected.toInt64.toUInt64)

def allNodesRegistered (tracker : RdmaExchangeTracker) : Bool :=
  sizeEquals tracker.registeredPrefill tracker.expectedPrefillNodes &&
    sizeEquals tracker.registeredDecode tracker.expectedDecodeNodes

def registerNode
    (tracker : RdmaExchangeTracker) (nodeId : ByteString) (role : NodeRole) :
    Option (Bool × RdmaExchangeTracker) :=
  if nodeId ∈ tracker.registeredNodes then none else
    let registered :=
      { tracker with
        registeredNodes := tracker.registeredNodes ++ [nodeId]
        registeredPrefill :=
          if role = .prefill then tracker.registeredPrefill ++ [nodeId]
          else tracker.registeredPrefill
        registeredDecode :=
          if role = .decode then tracker.registeredDecode ++ [nodeId]
          else tracker.registeredDecode }
    some
      (sizeEquals registered.registeredPrefill tracker.expectedPrefillNodes &&
          sizeEquals registered.registeredDecode tracker.expectedDecodeNodes,
        registered)

def markNodeReady
    (tracker : RdmaExchangeTracker) (nodeId : ByteString) :
    Option (Bool × RdmaExchangeTracker) :=
  if nodeId ∉ tracker.registeredNodes then some (false, tracker) else
  if nodeId ∈ tracker.readyNodes then none else
    let ready :=
      { tracker with readyNodes := tracker.readyNodes ++ [nodeId] }
    some
      (decide (ready.readyNodes.length = ready.registeredNodes.length), ready)

/-! ## The sets of the tracker -/

/-- A set whose size equals an expected number has that many elements, whatever
the conversion does to a negative number. -/
theorem le_length_of_sizeEquals
    {nodes : List ByteString} {expected : Int32}
    (equals : sizeEquals nodes expected = true) :
    expected.toInt.toNat ≤ nodes.length := by
  have same : UInt64.ofNat nodes.length = expected.toInt64.toUInt64 :=
    of_decide_eq_true equals
  by_cases nonneg : 0 ≤ expected
  · have size := congrArg UInt64.toNat same
    rw [UInt64.toNat_ofNat', toUInt64_toNat nonneg] at size
    exact size ▸ Nat.mod_le _ _
  · have negative : expected.toInt < 0 := by
      have notLe := mt Int32.le_iff_toInt_le.mpr nonneg
      rw [Int32.toInt_zero] at notLe
      omega
    rw [Int.toNat_of_nonpos (Int.le_of_lt negative)]
    exact Nat.zero_le _

/-- Nodes become ready only after they have registered, and once. -/
structure WellFormed (tracker : RdmaExchangeTracker) : Prop where
  ready_nodup : tracker.readyNodes.Nodup
  ready_subset : tracker.readyNodes ⊆ tracker.registeredNodes
  prefill_nodup : tracker.registeredPrefill.Nodup
  prefill_subset : tracker.registeredPrefill ⊆ tracker.registeredNodes
  decode_nodup : tracker.registeredDecode.Nodup
  decode_subset : tracker.registeredDecode ⊆ tracker.registeredNodes

/-- When the sizes agree, every registered node is ready. -/
theorem WellFormed.registered_subset_ready
    {tracker : RdmaExchangeTracker} (wellFormed : tracker.WellFormed)
    (sameSize :
      tracker.readyNodes.length = tracker.registeredNodes.length) :
    tracker.registeredNodes ⊆ tracker.readyNodes := by
  have within : tracker.readyNodes.Subperm tracker.registeredNodes :=
    List.subperm_of_subset wellFormed.ready_nodup wellFormed.ready_subset
  exact (within.perm_of_length_le (Nat.le_of_eq sameSize.symm)).symm.subset

/-- The nodes registered in a role. -/
def registeredAs (tracker : RdmaExchangeTracker) :
    NodeRole → List ByteString
  | .prefill => tracker.registeredPrefill
  | .decode => tracker.registeredDecode
  | .orchestrator | .unlisted _ => []

/-- Adding a node to a set it is not in. -/
theorem nodup_of_registering
    {nodes all : List ByteString} {nodeId : ByteString} (added : Prop)
    [Decidable added] (nodup : nodes.Nodup) (subset : nodes ⊆ all)
    (unregistered : nodeId ∉ all) :
    (if added then nodes ++ [nodeId] else nodes).Nodup ∧
      (if added then nodes ++ [nodeId] else nodes) ⊆ all ++ [nodeId] := by
  have absent : nodeId ∉ nodes := fun member => unregistered (subset member)
  split
  · constructor
    · rw [← List.concat_eq_append]
      exact nodup.concat absent
    · intro node member
      rcases List.mem_append.mp member with earlier | last
      · exact List.mem_append_left _ (subset earlier)
      · exact List.mem_append_right _ last
  · exact
      ⟨nodup, List.Subset.trans subset (List.subset_append_left all [nodeId])⟩

theorem registerNode_eq_some
    {tracker next : RdmaExchangeTracker} {nodeId : ByteString}
    {role : NodeRole} {allRegistered : Bool}
    (registered :
      tracker.registerNode nodeId role = some (allRegistered, next)) :
    nodeId ∉ tracker.registeredNodes ∧
      next =
        { tracker with
          registeredNodes := tracker.registeredNodes ++ [nodeId]
          registeredPrefill :=
            if role = .prefill then tracker.registeredPrefill ++ [nodeId]
            else tracker.registeredPrefill
          registeredDecode :=
            if role = .decode then tracker.registeredDecode ++ [nodeId]
            else tracker.registeredDecode } := by
  rw [registerNode] at registered
  split at registered
  · cases registered
  · rename_i unregistered
    cases registered
    exact ⟨unregistered, rfl⟩

/-- Marking a node ready changes nothing or adds the node to the ready ones. -/
theorem markNodeReady_eq_some
    {tracker next : RdmaExchangeTracker} {nodeId : ByteString}
    {allReady : Bool}
    (marked : tracker.markNodeReady nodeId = some (allReady, next)) :
    (allReady = false ∧ next = tracker) ∨
      nodeId ∈ tracker.registeredNodes ∧ nodeId ∉ tracker.readyNodes ∧
        next =
          { tracker with readyNodes := tracker.readyNodes ++ [nodeId] } ∧
        allReady =
          decide
            (tracker.readyNodes.length + 1 =
              tracker.registeredNodes.length) := by
  rw [markNodeReady] at marked
  split at marked
  · cases marked
    exact Or.inl ⟨rfl, rfl⟩
  · rename_i registered
    split at marked
    · cases marked
    · rename_i notReady
      cases marked
      refine Or.inr ⟨not_not.mp registered, notReady, rfl, ?_⟩
      rw [List.length_append, List.length_singleton]

theorem WellFormed.registerNode
    {tracker next : RdmaExchangeTracker} {nodeId : ByteString}
    {role : NodeRole} {allRegistered : Bool}
    (wellFormed : tracker.WellFormed)
    (registered :
      tracker.registerNode nodeId role = some (allRegistered, next)) :
    next.WellFormed := by
  obtain ⟨unregistered, same⟩ := registerNode_eq_some registered
  have prefill :=
    nodup_of_registering (role = .prefill) wellFormed.prefill_nodup
      wellFormed.prefill_subset unregistered
  have decode :=
    nodup_of_registering (role = .decode) wellFormed.decode_nodup
      wellFormed.decode_subset unregistered
  rw [same]
  exact
    { ready_nodup := wellFormed.ready_nodup
      ready_subset :=
        List.Subset.trans wellFormed.ready_subset
          (List.subset_append_left _ _)
      prefill_nodup := prefill.1
      prefill_subset := prefill.2
      decode_nodup := decode.1
      decode_subset := decode.2 }

theorem WellFormed.markNodeReady
    {tracker next : RdmaExchangeTracker} {nodeId : ByteString}
    {allReady : Bool} (wellFormed : tracker.WellFormed)
    (marked : tracker.markNodeReady nodeId = some (allReady, next)) :
    next.WellFormed := by
  rcases markNodeReady_eq_some marked with
    ⟨_, same⟩ | ⟨registered, notReady, same, _⟩
  · rw [same]
    exact wellFormed
  · rw [same]
    refine { wellFormed with ready_nodup := ?_, ready_subset := ?_ }
    · rw [← List.concat_eq_append]
      exact wellFormed.ready_nodup.concat notReady
    · intro ready member
      rcases List.mem_append.mp member with earlier | last
      · exact wellFormed.ready_subset earlier
      · rw [List.mem_singleton.mp last]
        exact registered

theorem registeredAs_registerNode
    {tracker next : RdmaExchangeTracker} {nodeId : ByteString}
    {role : NodeRole} {allRegistered : Bool}
    (registered :
      tracker.registerNode nodeId role = some (allRegistered, next))
    (tested : NodeRole) :
    next.registeredAs tested = tracker.registeredAs tested ∨
      tested = role ∧
        next.registeredAs tested =
          tracker.registeredAs tested ++ [nodeId] := by
  obtain ⟨_, same⟩ := registerNode_eq_some registered
  rw [same]
  cases tested with
  | prefill =>
      by_cases isPrefill : role = .prefill
      · exact Or.inr ⟨isPrefill.symm, if_pos isPrefill⟩
      · exact Or.inl (if_neg isPrefill)
  | decode =>
      by_cases isDecode : role = .decode
      · exact Or.inr ⟨isDecode.symm, if_pos isDecode⟩
      · exact Or.inl (if_neg isDecode)
  | orchestrator | unlisted =>
      exact Or.inl rfl

theorem registeredAs_markNodeReady
    {tracker next : RdmaExchangeTracker} {nodeId : ByteString}
    {allReady : Bool}
    (marked : tracker.markNodeReady nodeId = some (allReady, next)) :
    next.registeredAs = tracker.registeredAs := by
  funext role
  rcases markNodeReady_eq_some marked with
    ⟨_, same⟩ | ⟨_, _, same, _⟩ <;>
    rw [same]
  cases role <;> rfl

theorem mem_registeredAs_registerNode
    {tracker next : RdmaExchangeTracker} {nodeId node : ByteString}
    {role tested : NodeRole} {allRegistered : Bool}
    (registered :
      tracker.registerNode nodeId role = some (allRegistered, next))
    (listed : node ∈ next.registeredAs tested) :
    node ∈ tracker.registeredAs tested ∨ tested = role ∧ node = nodeId := by
  rcases registeredAs_registerNode registered tested with
    kept | ⟨isRole, added⟩
  · rw [kept] at listed
    exact Or.inl listed
  · rw [added] at listed
    rcases List.mem_append.mp listed with earlier | last
    · exact Or.inl earlier
    · exact Or.inr ⟨isRole, List.mem_singleton.mp last⟩

theorem mem_readyNodes_markNodeReady
    {tracker next : RdmaExchangeTracker} {nodeId node : ByteString}
    {allReady : Bool}
    (marked : tracker.markNodeReady nodeId = some (allReady, next))
    (listed : node ∈ next.readyNodes) :
    node ∈ tracker.readyNodes ∨ node = nodeId := by
  rcases markNodeReady_eq_some marked with ⟨_, same⟩ | ⟨_, _, same, _⟩
  · rw [same] at listed
    exact Or.inl listed
  · rw [same] at listed
    rcases List.mem_append.mp listed with earlier | last
    · exact Or.inl earlier
    · exact Or.inr (List.mem_singleton.mp last)

/-- The expected numbers of nodes never change. -/
theorem expected_markNodeReady
    {tracker next : RdmaExchangeTracker} {nodeId : ByteString}
    {allReady : Bool}
    (marked : tracker.markNodeReady nodeId = some (allReady, next)) :
    next.expectedPrefillNodes = tracker.expectedPrefillNodes ∧
      next.expectedDecodeNodes = tracker.expectedDecodeNodes := by
  rcases markNodeReady_eq_some marked with ⟨_, same⟩ | ⟨_, _, same, _⟩ <;>
    rw [same] <;>
    exact ⟨rfl, rfl⟩

end RdmaExchangeTracker

end RdmaKvCache
