import RdmaKvCache.Connector.RdmaConnector
import RdmaKvCache.Library.SortedMaps
import RdmaKvCache.Rdma.WriteBounds

/-!
# Writes from registered memory

`register_gpu_memory` keeps the regions by name.  A write takes the key of the
first region whose addresses include the one the write starts at; the ends are
calculated in 64 bits, and where the write ends does not matter.

What the driver says of a pointer and what `ibv_reg_mr` answers come from outside.
-/

namespace RdmaKvCache

open SortedMaps

/-- The regions, ordered by their names. -/
abbrev RegisteredRegions := SortedMap ByteString RegisteredRegion

/-- A call of `register_gpu_memory`. -/
structure RegisterCall where
  gpuPtr : UInt64
  size : UInt64
  name : ByteString := .ofText "unnamed"
  /-- What the driver says, if it is asked. -/
  isDeviceMemory : Bool := true
  /-- The local key, unless `ibv_reg_mr` fails. -/
  registered : Option UInt32

namespace RegisteredRegions

def registerGpuMemory (regions : RegisteredRegions) (call : RegisterCall) :
    Bool × RegisteredRegions :=
  if !call.isDeviceMemory then
    (false, regions)
  else if (regions.lookup call.name).isSome then
    (false, regions)
  else if call.size = 0 then
    (false, regions)
  else
    match call.registered with
    | none => (false, regions)
    | some lkey =>
        (true,
          regions.insert call.name
            { gpuPtr := call.gpuPtr
              size := call.size
              lkey := lkey })

def registerAll (regions : RegisteredRegions) :
    List RegisterCall → RegisteredRegions
  | [] => regions
  | call :: rest => registerAll (regions.registerGpuMemory call).2 rest

/-- The adapter gives no region the key of another one. -/
def KeysFresh (regions : RegisteredRegions) : List RegisterCall → Prop
  | [] => True
  | call :: rest =>
      (∀ lkey, call.registered = some lkey →
          ∀ region ∈ regions.values, region.lkey ≠ lkey) ∧
        KeysFresh (regions.registerGpuMemory call).2 rest

/-! ## Keys -/

def DistinctKeys (regions : RegisteredRegions) : Prop :=
  (regions.values.map RegisteredRegion.lkey).Nodup

theorem distinctKeys_registerGpuMemory
    {regions : RegisteredRegions} {call : RegisterCall}
    (distinct : regions.DistinctKeys)
    (fresh :
      ∀ lkey, call.registered = some lkey →
        ∀ region ∈ regions.values, region.lkey ≠ lkey) :
    (regions.registerGpuMemory call).2.DistinctKeys := by
  rw [registerGpuMemory]
  split
  · exact distinct
  · split
    · exact distinct
    · rename_i newName
      split
      · exact distinct
      · cases answer : call.registered with
        | none =>
            exact distinct
        | some lkey =>
            have absent : regions.lookup call.name = none := by
              simpa using newName
            have keys :=
              (SortedMap.values_insert_perm absent
                { gpuPtr := call.gpuPtr
                  size := call.size
                  lkey := lkey }).map RegisteredRegion.lkey
            refine keys.nodup_iff.mpr (List.nodup_cons.mpr ⟨?_, distinct⟩)
            intro used
            obtain ⟨region, listed, sameKey⟩ := List.mem_map.mp used
            exact fresh lkey answer region listed sameKey

theorem distinctKeys_registerAll
    {regions : RegisteredRegions} {calls : List RegisterCall}
    (distinct : regions.DistinctKeys) (fresh : regions.KeysFresh calls) :
    (regions.registerAll calls).DistinctKeys := by
  induction calls generalizing regions with
  | nil =>
      exact distinct
  | cons call rest inductionHypothesis =>
      exact
        inductionHypothesis
          (distinctKeys_registerGpuMemory distinct fresh.1) fresh.2

end RegisteredRegions

/-! ## The region of a write -/

namespace RegisteredRegion

/-- The whole range lies in the region. -/
def Holds (region : RegisteredRegion) (addr size : UInt64) : Prop :=
  region.gpuPtr.toNat ≤ addr.toNat ∧
    addr.toNat + size.toNat ≤ region.gpuPtr.toNat + region.size.toNat

/-- The address lies in the region, which ends below the end of the address space. -/
def FoundAt (region : RegisteredRegion) (addr : UInt64) : Prop :=
  region.gpuPtr.toNat ≤ addr.toNat ∧
    addr.toNat < region.gpuPtr.toNat + region.size.toNat ∧
    region.gpuPtr.toNat + region.size.toNat < 2 ^ 64

instance (region : RegisteredRegion) (addr size : UInt64) :
    Decidable (region.Holds addr size) :=
  inferInstanceAs (Decidable (_ ∧ _))

instance (region : RegisteredRegion) (addr : UInt64) :
    Decidable (region.FoundAt addr) :=
  inferInstanceAs (Decidable (_ ∧ _ ∧ _))

/-- A region whose end is cut off ends below its start. -/
theorem foundAt_iff (region : RegisteredRegion) (addr : UInt64) :
    region.FoundAt addr ↔
      region.gpuPtr ≤ addr ∧ addr < region.gpuPtr + region.size := by
  have startBound := region.gpuPtr.toNat_lt
  have sizeBound := region.size.toNat_lt
  rw [FoundAt, UInt64.le_iff_toNat_le, UInt64.lt_iff_toNat_lt,
    UInt64.toNat_add]
  by_cases fits : region.gpuPtr.toNat + region.size.toNat < 2 ^ 64
  · rw [Nat.mod_eq_of_lt fits]
    constructor
    · intro found
      exact ⟨found.1, found.2.1⟩
    · intro found
      exact ⟨found.1, found.2, fits⟩
  · have cutOff :
        (region.gpuPtr.toNat + region.size.toNat) % 2 ^ 64 <
          region.gpuPtr.toNat := by
      omega
    constructor
    · intro found
      exact absurd found.2.2 fits
    · intro found
      omega

end RegisteredRegion

namespace RDMABindings

variable {bindings : RDMABindings} {regions : RegisteredRegions}

/-- The key is that of the first region by name which is found at the address. -/
theorem getLkeyForPtr_eq_some
    (holds : bindings.registeredRegions = regions.values) {addr : UInt64}
    {lkey : UInt32} (found : bindings.getLkeyForPtr addr = some lkey) :
    ∃ entry ∈ regions.entries,
      entry.2.lkey = lkey ∧ entry.2.FoundAt addr ∧
        ∀ earlier ∈ regions.entries, earlier.1 < entry.1 →
          ¬ earlier.2.FoundAt addr := by
  rw [getLkeyForPtr, holds] at found
  obtain ⟨region, isFirst, isKey⟩ := Option.map_eq_some_iff.mp found
  obtain ⟨passes, name, listed, first⟩ :=
    SortedMap.find?_values_eq_some.mp isFirst
  refine ⟨(name, region), listed, isKey, ?_, ?_⟩
  · apply (region.foundAt_iff addr).mpr
    simpa using passes
  · intro earlier earlierListed before isFound
    have fails := first earlier earlierListed before
    have passesToo := (earlier.2.foundAt_iff addr).mp isFound
    simp only [passesToo, decide_true, Bool.and_self] at fails
    cases fails

/-- The first region by name which is found at the start holds the whole range. -/
def FirstHolds (regions : RegisteredRegions) (addr size : UInt64) : Prop :=
  ∃ entry ∈ regions.entries,
    entry.2.FoundAt addr ∧ entry.2.Holds addr size ∧
      ∀ earlier ∈ regions.entries, earlier.1 < entry.1 →
        ¬ earlier.2.FoundAt addr

/-- What is known of a write of some bytes for which true is returned. -/
theorem rdmaWrite_returned_true
    {accepts : UInt32 → SendWorkRequest → Bool} {peerId : ByteString}
    {localAddr remoteOffset size : UInt64} {immData : UInt32}
    (someBytes : 0 < size)
    (accepted :
      (bindings.rdmaWrite accepts peerId localAddr remoteOffset size
        immData).1.returned = some true) :
    ∃ qpNum request,
      (bindings.rdmaWrite accepts peerId localAddr remoteOffset size
          immData).1 = .posted qpNum request ∧
        bindings.getLkeyForPtr localAddr = some request.lkey := by
  rw [rdmaWrite] at accepted ⊢
  cases found : bindings.getLkeyForPtr localAddr with
  | none =>
      rw [found] at accepted
      cases accepted
  | some lkey =>
      rw [found] at accepted
      obtain ⟨_, qpNum, request, posted, _, _, _, sameKey, _⟩ :=
        RDMAEngine.postWriteExternal_returned_true someBytes accepted
      exact ⟨qpNum, request, posted, congrArg some sameKey.symm⟩

/-- A write of some bytes for which true is returned reads from the registered
region its key belongs to exactly if the first region by name which is found at
its start holds all of it. -/
theorem rdma_write_reads_registered_iff
    {calls : List RegisterCall} {accepts : UInt32 → SendWorkRequest → Bool}
    {peerId : ByteString} {localAddr remoteOffset size : UInt64}
    {immData : UInt32}
    (fresh : RegisteredRegions.KeysFresh .empty calls)
    (holds :
      bindings.registeredRegions =
        (RegisteredRegions.registerAll .empty calls).values)
    (someBytes : 0 < size)
    (accepted :
      (bindings.rdmaWrite accepts peerId localAddr remoteOffset size
        immData).1.returned = some true) :
    (∃ qpNum request,
        (bindings.rdmaWrite accepts peerId localAddr remoteOffset size
            immData).1 = .posted qpNum request ∧
          ∃ region ∈ bindings.registeredRegions,
            region.lkey = request.lkey ∧ region.Holds localAddr size) ↔
      FirstHolds (RegisteredRegions.registerAll .empty calls) localAddr
        size := by
  obtain ⟨qpNum, request, posted, isKey⟩ :=
    rdmaWrite_returned_true someBytes accepted
  obtain ⟨first, listed, firstKey, foundAt, before⟩ :=
    getLkeyForPtr_eq_some holds isKey
  have isValue : first.2 ∈ bindings.registeredRegions := by
    rw [holds]
    exact List.mem_map.mpr ⟨first, listed, rfl⟩
  constructor
  · intro reads
    obtain ⟨_, otherRequest, otherPosted, region, isRegion, sameKey, inRegion⟩ :=
      reads
    rw [posted] at otherPosted
    cases otherPosted
    have distinct :
        (bindings.registeredRegions.map RegisteredRegion.lkey).Nodup := by
      rw [holds]
      exact
        RegisteredRegions.distinctKeys_registerAll List.nodup_nil fresh
    have same : region = first.2 :=
      List.inj_on_of_nodup_map distinct isRegion isValue
        (sameKey.trans firstKey.symm)
    rw [same] at inRegion
    exact ⟨first, listed, foundAt, inRegion, before⟩
  · intro firstHolds
    obtain ⟨entry, isEntry, entryFound, entryHolds, entryBefore⟩ := firstHolds
    have same : entry.1 = first.1 := by
      rcases Std.lt_trichotomy entry.1 first.1 with less | same | greater
      · exact absurd entryFound (before entry isEntry less)
      · exact same
      · exact absurd foundAt (entryBefore first listed greater)
    have sameEntry : entry = first :=
      SortedMap.eq_of_same_key isEntry listed same
    rw [sameEntry] at entryHolds
    exact
      ⟨qpNum, request, posted, first.2, isValue, firstKey, entryHolds⟩

/-! ## A region of 4096 bytes -/

def sampleRegistrations : List RegisterCall :=
  [{ gpuPtr := 4096, size := 4096, registered := some 1 }]

def sampleReader : RDMABindings where
  rdmaEngine := RDMAEngine.sampleWriter RDMAEngine.sampleWriterQmaps
  registeredRegions :=
    (RegisteredRegions.registerAll .empty sampleRegistrations).values

theorem keysFresh_sampleRegistrations :
    RegisteredRegions.KeysFresh .empty sampleRegistrations :=
  ⟨fun _ _ _ listed => absurd listed List.not_mem_nil, trivial⟩

theorem rdma_write_reads_registered_sampleReader :
    ∃ qpNum request,
      (sampleReader.rdmaWrite (fun _ _ => true) [3] 4096 0 512 7).1 =
          .posted qpNum request ∧
        ∃ region ∈ sampleReader.registeredRegions,
          region.lkey = request.lkey ∧ region.Holds 4096 512 := by
  apply (rdma_write_reads_registered_iff keysFresh_sampleRegistrations rfl
    (by decide) rfl).mpr
  refine ⟨_, List.mem_singleton.mpr rfl, by decide, by decide, ?_⟩
  intro earlier listed before
  rw [List.mem_singleton.mp listed] at before
  exact absurd before Std.lt_irrefl

/-- A write of 8192 bytes from the start of the region is posted with its key. -/
theorem sampleReader_reads_past_region :
    RegisteredRegions.KeysFresh .empty sampleRegistrations ∧
      ∃ qpNum request,
        (sampleReader.rdmaWrite (fun _ _ => true) [3] 4096 0 8192 7).1 =
            .posted qpNum request ∧
          ¬ ∃ region ∈ sampleReader.registeredRegions,
            region.lkey = request.lkey ∧ region.Holds 4096 8192 := by
  refine ⟨keysFresh_sampleRegistrations, 18, _, rfl, ?_⟩
  intro reads
  obtain ⟨region, listed, _, inRegion⟩ := reads
  rw [List.mem_singleton.mp listed] at inRegion
  exact absurd inRegion (by decide)

end RDMABindings

end RdmaKvCache
