import RdmaKvCache.Orchestrator.RequestRouter
import Mathlib.Order.Interval.Set.Disjoint
import Mathlib.Order.CompletePartialOrder

/-!
# The router represents one pool of slots per decode node

The abstract state is a family of pools of exclusive slots, one for every node
name, each starting with the slot numbers below `max_slots_per_node`.  An
allocation lends the front slot of the node's pool and a `free_slot` gives one
slot back; no other critical section of the router changes the pools.
-/

namespace RdmaKvCache

/-- The slot numbers a decode node with `maxSlots` slots can have. -/
def SlotRange (maxSlots : Int32) : Set Int32 :=
  { slotId | 0 ≤ slotId ∧ slotId < maxSlots }

/-- The requests of one decode node and the slots they hold. -/
abbrev SlotPool (maxSlots : Int32) :=
  SlotPools.Pool ByteString Int32 (SlotRange maxSlots)

theorem toInt_ofNat_of_lt {maxSlots : Int32} {index : Nat}
    (bound : index < maxSlots.toInt.toNat) :
    (Int32.ofNat index).toInt = index := by
  have upper : maxSlots.toInt < 2 ^ 31 := Int32.toInt_lt maxSlots
  exact Int32.toInt_ofNat_of_lt (by omega)

theorem slotIds_nodup (maxSlots : Int32) : (slotIds maxSlots).Nodup := by
  refine List.Nodup.map_on ?_ List.nodup_range
  intro first firstMember second secondMember same
  have firstValue :=
    toInt_ofNat_of_lt (List.mem_range.mp firstMember)
  have secondValue :=
    toInt_ofNat_of_lt (List.mem_range.mp secondMember)
  rw [same, secondValue] at firstValue
  omega

theorem slotIds_subset {maxSlots slotId : Int32}
    (member : slotId ∈ slotIds maxSlots) :
    slotId ∈ SlotRange maxSlots := by
  obtain ⟨index, indexMember, rfl⟩ := List.mem_map.mp member
  have bound := List.mem_range.mp indexMember
  have value := toInt_ofNat_of_lt bound
  constructor
  · rw [Int32.le_iff_toInt_le, value]
    simp
  · rw [Int32.lt_iff_toInt_lt, value]
    omega

theorem mem_slotIds
    {maxSlots slotId : Int32} (inRange : slotId ∈ SlotRange maxSlots) :
    slotId ∈ slotIds maxSlots := by
  have nonneg : 0 ≤ slotId.toInt := Int32.le_iff_toInt_le.mp inRange.1
  have below : slotId.toInt < maxSlots.toInt :=
    Int32.lt_iff_toInt_lt.mp inRange.2
  have bound : slotId.toInt.toNat < maxSlots.toInt.toNat := by
    omega
  refine
    List.mem_map.mpr ⟨slotId.toInt.toNat, List.mem_range.mpr bound, ?_⟩
  apply Int32.toInt_inj.mp
  rw [toInt_ofNat_of_lt bound]
  omega

/-- The pool of a decode node before its first allocation. -/
def fullPool (maxSlots : Int32) : SlotPool maxSlots :=
  .unused (slotIds maxSlots) (slotIds_nodup maxSlots) slotIds_subset

/-- The allocator's queue and map are those of the pool. -/
structure NodeSlotAllocator.Represents
    (allocator : NodeSlotAllocator) {maxSlots : Int32}
    (pool : SlotPool maxSlots) : Prop where
  maxSlots_eq : allocator.maxSlots = maxSlots
  free : allocator.freeSlots = pool.free
  held :
    ∀ requestId,
      allocator.requestToSlot.lookup requestId = pool.held requestId

namespace NodeSlotAllocator.Represents

variable {maxSlots : Int32} {allocator : NodeSlotAllocator}
variable {pool : SlotPool maxSlots}

theorem new (nodeId : ByteString) (maxSlots : Int32) :
    (NodeSlotAllocator.new nodeId maxSlots).Represents
      (fullPool maxSlots) where
  maxSlots_eq := rfl
  free := rfl
  held := fun _ => rfl

theorem allocate
    (represents : allocator.Represents pool)
    {requestId : ByteString} {slotId : Int32} {next : NodeSlotAllocator}
    (allocated : allocator.allocate requestId = some (slotId, next)) :
    ∃ rest, ∃ front : pool.free = slotId :: rest,
      next.Represents (pool.lend requestId slotId rest front) := by
  rw [NodeSlotAllocator.allocate] at allocated
  split at allocated
  · cases allocated
  · rename_i taken rest queue
    cases allocated
    refine
      ⟨rest, represents.free.symm.trans queue, represents.maxSlots_eq, rfl, ?_⟩
    intro tested
    by_cases same : tested = requestId
    · subst tested
      simp [SlotPools.Pool.lend]
    · simp [SlotPools.Pool.lend, AList.lookup_insert_ne same,
        Function.update_of_ne same, represents.held]

theorem freeSlot
    (represents : allocator.Represents pool)
    {requestId : ByteString} {next : NodeSlotAllocator}
    (freed : allocator.free requestId = some next) :
    ∃ slotId, ∃ owned : pool.held requestId = some slotId,
      next.Represents (pool.giveBack requestId slotId owned) := by
  rw [NodeSlotAllocator.free] at freed
  obtain ⟨slotId, found, rfl⟩ := Option.map_eq_some_iff.mp freed
  refine
    ⟨slotId, (represents.held requestId).symm.trans found,
      represents.maxSlots_eq, ?_, ?_⟩
  · simp [SlotPools.Pool.giveBack, represents.free]
  · intro tested
    by_cases same : tested = requestId
    · subst tested
      simp [SlotPools.Pool.giveBack]
    · simp [SlotPools.Pool.giveBack, AList.lookup_erase_ne same,
        Function.update_of_ne same, represents.held]

end NodeSlotAllocator.Represents

namespace RequestRouter

/-- Every node's allocator represents that node's pool. -/
structure Represents
    (router : RequestRouter) {slotConfig : RequestRouterSlotConfig}
    (pools : ByteString → SlotPool slotConfig.maxSlotsPerNode) : Prop where
  slotConfig_eq : router.slotConfig = slotConfig
  allocators :
    ∀ nodeId, (router.allocatorOf nodeId).Represents (pools nodeId)

namespace Represents

variable {slotConfig : RequestRouterSlotConfig}
variable {router next : RequestRouter}
variable {pools : ByteString → SlotPool slotConfig.maxSlotsPerNode}

theorem of_fresh
    (noAllocator : router.decodeNodeSlots = ∅) :
    router.Represents
      (fun _ => fullPool router.slotConfig.maxSlotsPerNode) where
  slotConfig_eq := rfl
  allocators := by
    intro nodeId
    simpa [allocatorOf, noAllocator] using
      NodeSlotAllocator.Represents.new nodeId
        router.slotConfig.maxSlotsPerNode

/-- A section that changes no allocator keeps representing the same pools. -/
theorem of_same_allocators
    (represents : router.Represents pools)
    (sameConfig : next.slotConfig = router.slotConfig)
    (same :
      ∀ nodeId, next.allocatorOf nodeId = router.allocatorOf nodeId) :
    next.Represents pools where
  slotConfig_eq := sameConfig.trans represents.slotConfig_eq
  allocators := by
    intro nodeId
    rw [same nodeId]
    exact represents.allocators nodeId

theorem initializeNodeSlots
    (represents : router.Represents pools) (nodeId : ByteString) :
    (router.initializeNodeSlots nodeId).Represents pools :=
  represents.of_same_allocators
    (initializeNodeSlots_slotConfig router nodeId)
    (allocatorOf_initializeNodeSlots router nodeId)

theorem nodesWithSlots
    (represents : router.Represents pools) (nodes : List NodeInfo) :
    (router.nodesWithSlots nodes).2.Represents pools :=
  represents.of_same_allocators
    (nodesWithSlots_slotConfig router nodes)
    (allocatorOf_nodesWithSlots router nodes)

theorem selectPrefillNode
    (represents : router.Represents pools)
    (nodes : List NodeInfo) (draw : Nat) :
    (router.selectPrefillNode nodes draw).2.Represents pools :=
  represents.of_same_allocators
    (selectPrefillNode_slotConfig router nodes draw)
    (allocatorOf_selectPrefillNode router nodes draw)

theorem selectDecodeNode
    (represents : router.Represents pools)
    (nodes : List NodeInfo) (draw : Nat) :
    (router.selectDecodeNode nodes draw).2.Represents pools :=
  represents.of_same_allocators
    (selectDecodeNode_slotConfig router nodes draw)
    (allocatorOf_selectDecodeNode router nodes draw)

theorem setAllocator
    (represents : router.Represents pools)
    {nodeId : ByteString} {allocator : NodeSlotAllocator}
    {pool : SlotPool slotConfig.maxSlotsPerNode}
    (represented : allocator.Represents pool) :
    (router.setAllocator nodeId allocator).Represents
      (Function.update pools nodeId pool) where
  slotConfig_eq := represents.slotConfig_eq
  allocators := by
    intro tested
    rw [allocatorOf_setAllocator]
    by_cases same : tested = nodeId
    · subst tested
      simpa using represented
    · simpa [same] using represents.allocators tested

/-- A successful allocation lends the front slot of the node's pool. -/
theorem allocateSlotForNode
    (represents : router.Represents pools)
    {nodeId requestId : ByteString} {slotId : Int32}
    (allocated :
      router.allocateSlotForNode nodeId requestId = (some slotId, next)) :
    ∃ rest, ∃ front : (pools nodeId).free = slotId :: rest,
      next.Represents
        (Function.update pools nodeId
          ((pools nodeId).lend requestId slotId rest front)) := by
  obtain ⟨allocator, taken, rfl⟩ := allocateSlotForNode_some allocated
  obtain ⟨rest, front, represented⟩ :=
    (represents.allocators nodeId).allocate taken
  exact
    ⟨rest, front,
      (represents.initializeNodeSlots nodeId).setAllocator represented⟩

/-- A `free_slot` gives back the slot of the request in one pool, or changes no
pool. -/
theorem freeSlot
    (represents : router.Represents pools) (requestId : ByteString) :
    (∃ nodeId slotId,
        ∃ owned : (pools nodeId).held requestId = some slotId,
          router.requestToDecodeNode.lookup requestId = some nodeId ∧
          (router.freeSlot requestId).Represents
            (Function.update pools nodeId
              ((pools nodeId).giveBack requestId slotId owned))) ∨
      (router.freeSlot requestId).Represents pools := by
  rcases freeSlot_cases router requestId with
    ⟨nodeId, freed, mapped, given, equality⟩ | ⟨sameSlots, sameConfig⟩
  · obtain ⟨slotId, owned, represented⟩ :=
      (represents.allocators nodeId).freeSlot given
    refine Or.inl ⟨nodeId, slotId, owned, mapped, ?_⟩
    rw [equality]
    exact
      (represents.setAllocator represented).of_same_allocators rfl
        (fun _ => rfl)
  · refine Or.inr (represents.of_same_allocators sameConfig ?_)
    intro nodeId
    simp [allocatorOf, sameSlots, sameConfig]

/-- A call running alone lends the front slot of one node's pool, or changes no
pool. -/
theorem selectNodesAndAllocateSlot
    (represents : router.Represents pools)
    (prefillNodes decodeNodes : List NodeInfo) (prefillDraw decodeDraw : Nat)
    (requestId : ByteString) :
    (∃ next,
        router.selectNodesAndAllocateSlot prefillNodes decodeNodes prefillDraw
            decodeDraw requestId = (none, next) ∧
          next.Represents pools) ∨
      ∃ routing next rest,
        ∃ front :
          (pools routing.decodeNode.nodeId).free = routing.slotId :: rest,
          router.selectNodesAndAllocateSlot prefillNodes decodeNodes
              prefillDraw decodeDraw requestId = (some routing, next) ∧
            next.Represents
              (Function.update pools routing.decodeNode.nodeId
                ((pools routing.decodeNode.nodeId).lend requestId
                  routing.slotId rest front)) := by
  rcases selectNodesAndAllocateSlot_of_kept (Represents · pools)
      (fun _ nodes draw kept => kept.selectPrefillNode nodes draw)
      (fun _ nodes kept => kept.nodesWithSlots nodes)
      (fun _ nodes draw kept => kept.selectDecodeNode nodes draw)
      (fun _ nodeId kept => kept.initializeNodeSlots nodeId) represents
      prefillNodes decodeNodes prefillDraw decodeDraw requestId with
    refused | ⟨routing, middle, allocated, kept, allocates, selects⟩
  · exact Or.inl refused
  · obtain ⟨rest, front, represented⟩ := kept.allocateSlotForNode allocates
    exact
      Or.inr
        ⟨routing, _, rest, front, selects,
          represented.of_same_allocators rfl (fun _ => rfl)⟩

end Represents

end RequestRouter

/-! ## Byte ranges of the slots -/

namespace RequestRouterSlotConfig

/-- The bytes of the buffer that belong to a slot. -/
def slotBytes (slotConfig : RequestRouterSlotConfig) (slotId : Int32) :
    Set Nat :=
  Set.Ico (slotConfig.slotBaseOffset slotId).toNat
    ((slotConfig.slotBaseOffset slotId).toNat +
      slotConfig.requestSizeBytes.toNat)

variable {slotConfig : RequestRouterSlotConfig}

theorem slotBaseOffset_toNat
    {slotId : Int32} (inRange : slotId ∈ SlotRange slotConfig.maxSlotsPerNode)
    (fits :
      slotConfig.maxSlotsPerNode.toInt.toNat *
          slotConfig.requestSizeBytes.toNat < 2 ^ 64) :
    (slotConfig.slotBaseOffset slotId).toNat =
      slotId.toInt.toNat * slotConfig.requestSizeBytes.toNat := by
  have nonneg : 0 ≤ slotId.toInt := Int32.le_iff_toInt_le.mp inRange.1
  have below : slotId.toInt < slotConfig.maxSlotsPerNode.toInt :=
    Int32.lt_iff_toInt_lt.mp inRange.2
  have smaller :
      slotId.toInt.toNat ≤ slotConfig.maxSlotsPerNode.toInt.toNat := by
    omega
  rw [slotBaseOffset, UInt64.toNat_mul, toUInt64_toNat inRange.1]
  exact
    Nat.mod_eq_of_lt
      (lt_of_le_of_lt (Nat.mul_le_mul_right _ smaller) fits)

theorem slotBytes_disjoint
    {first second : Int32}
    (firstInRange : first ∈ SlotRange slotConfig.maxSlotsPerNode)
    (secondInRange : second ∈ SlotRange slotConfig.maxSlotsPerNode)
    (fits :
      slotConfig.maxSlotsPerNode.toInt.toNat *
          slotConfig.requestSizeBytes.toNat < 2 ^ 64)
    (different : first ≠ second) :
    Disjoint (slotConfig.slotBytes first) (slotConfig.slotBytes second) := by
  have ordered {lower upper : Int32}
      (lowerInRange : lower ∈ SlotRange slotConfig.maxSlotsPerNode)
      (upperInRange : upper ∈ SlotRange slotConfig.maxSlotsPerNode)
      (smaller : lower.toInt.toNat < upper.toInt.toNat) :
      Disjoint (slotConfig.slotBytes lower) (slotConfig.slotBytes upper) := by
    rw [slotBytes, slotBytes, Set.Ico_disjoint_Ico]
    rw [slotBaseOffset_toNat lowerInRange fits,
      slotBaseOffset_toNat upperInRange fits]
    have apart :=
      Nat.mul_le_mul_right slotConfig.requestSizeBytes.toNat smaller
    rw [Nat.succ_mul] at apart
    omega
  have firstNonneg : 0 ≤ first.toInt :=
    Int32.le_iff_toInt_le.mp firstInRange.1
  have secondNonneg : 0 ≤ second.toInt :=
    Int32.le_iff_toInt_le.mp secondInRange.1
  have differentValues : first.toInt ≠ second.toInt :=
    fun same => different (Int32.toInt_inj.mp same)
  rcases lt_or_gt_of_ne differentValues with less | greater
  · exact ordered firstInRange secondInRange (by omega)
  · exact (ordered secondInRange firstInRange (by omega)).symm

end RequestRouterSlotConfig

end RdmaKvCache
