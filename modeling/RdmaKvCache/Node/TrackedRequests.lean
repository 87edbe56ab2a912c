import RdmaKvCache.Node.RequestTrackerLayer

/-!
# Tracked requests

What the tracker records of a request is what has happened to it: the layers it
takes for received have been accepted, their number is counted, and the sequence
number of the request stands for it.  `accepted requestId layer` says that the
layer has been accepted for the request; what has been accepted stays so.
-/

namespace RdmaKvCache

namespace RequestTrackerLayer

/-! ## Numbers of layers -/

theorem toInt_toInt32 (numLayers : UInt32) :
    numLayers.toInt32.toInt = (numLayers.toNat : Int).bmod (2 ^ 32) :=
  BitVec.toInt_eq_toNat_bmod numLayers.toBitVec

/-- The conversion to `int` makes no number of layers below `2 ^ 31` negative. -/
theorem toInt32_nonneg_iff {numLayers : UInt32} :
    0 ≤ numLayers.toInt32 ↔ numLayers.toNat < 2 ^ 31 := by
  have bound := numLayers.toNat_lt
  rw [Int32.le_iff_toInt_le, Int32.toInt_zero, toInt_toInt32, Int.bmod_def]
  split <;>
    omega

theorem toNat_toInt32
    {numLayers : UInt32} (nonneg : 0 ≤ numLayers.toInt32.toInt) :
    numLayers.toInt32.toInt.toNat = numLayers.toNat := by
  have bound := numLayers.toNat_lt
  rw [toInt_toInt32, Int.bmod_def] at nonneg ⊢
  split at nonneg <;>
    rename_i small <;>
    simp only [small, if_true, if_false] <;>
    omega

theorem toInt_layerId (layerId : UInt16) :
    (Int32.ofNat layerId.toNat).toInt = layerId.toNat := by
  have bound := layerId.toNat_lt
  exact Int32.toInt_ofNat_of_lt (by omega)

/-! ## The layers of a request -/

/-- The received layers have been accepted and are counted. -/
structure RequestInfo.Records
    (info : RequestInfo) (accepted : Nat → Prop) : Prop where
  received :
    ∀ index (bound : index < info.numLayers.toInt.toNat),
      info.layers[index].received = true → accepted index
  count :
    info.layersReceivedCount.toInt =
      info.layers.countP LayerMetadata.received

theorem newRequest_records
    (layout : MemoryLayout) (requestId prefillNodeId : ByteString)
    (assignedSlot numLayers : Int32) (accepted : Nat → Prop) :
    (newRequest layout requestId prefillNodeId assignedSlot
      numLayers).Records accepted := by
  have fresh :
      ∀ layer ∈
        (newRequest layout requestId prefillNodeId assignedSlot
          numLayers).layers,
        ¬layer.received = true := by
    intro layer member
    obtain ⟨index, bound, isLayer⟩ := Vector.mem_iff_getElem.mp member
    rw [← isLayer]
    simp [newRequest]
  constructor
  · intro index bound received
    exact absurd received (fresh _ (Vector.getElem_mem bound))
  · rw [Vector.countP_eq_zero.mpr fresh]
    rfl

namespace RequestInfo.Records

variable {info received : RequestInfo} {accepted later : Nat → Prop}
variable {layerId : Int32}

theorem mono
    (records : info.Records accepted)
    (stays : ∀ layer, accepted layer → later layer) :
    info.Records later where
  received := by
    intro index bound isReceived
    exact stays index (records.received index bound isReceived)
  count := records.count

theorem receive
    (records : info.Records accepted)
    (isAccepted : accepted layerId.toInt.toNat)
    (receives : info.receiveLayer layerId = some received) :
    received.Records accepted := by
  obtain ⟨_, bound, missing, isNext⟩ := receiveLayer_eq_some receives
  have counted :
      (info.layers.set layerId.toInt.toNat
        { info.layers[layerId.toInt.toNat] with received := true }
        bound).countP LayerMetadata.received =
        info.layers.countP LayerMetadata.received + 1 := by
    rw [Vector.countP_set bound, if_neg missing, if_pos rfl, Nat.sub_zero]
  subst isNext
  constructor
  · intro index indexBound isReceived
    by_cases same : index = layerId.toInt.toNat
    · rw [same]
      exact isAccepted
    · refine records.received index indexBound ?_
      rwa [Vector.getElem_set_ne bound indexBound (Ne.symm same)]
        at isReceived
  · show (info.layersReceivedCount + 1).toInt = _
    simp only [counted]
    have count := records.count
    have atMost :
        info.layers.countP LayerMetadata.received + 1 ≤
          info.numLayers.toInt.toNat := by
      rw [← counted]
      exact Vector.countP_le_size
    have range := info.numLayers.toInt_lt
    rw [Int32.toInt_add, Int.bmod_eq_of_le] <;>
      simp only [Int32.toInt_one] <;>
      omega

/-- A layer of the request is only refused when it has been accepted. -/
theorem accepted_of_refused
    (records : info.Records accepted)
    (inRange : 0 ≤ layerId ∧ layerId < info.numLayers)
    (refused : info.receiveLayer layerId = none) :
    accepted layerId.toInt.toNat := by
  obtain ⟨bound, isReceived⟩ := receiveLayer_eq_none inRange refused
  exact records.received _ bound isReceived

end RequestInfo.Records

/-! ## Slots in use -/

variable {tracker next : RequestTrackerLayer}

/-- The slot of a request the tracker knows. -/
def slotOf (tracker : RequestTrackerLayer) (requestId : ByteString) :
    Option Int32 :=
  (tracker.requests.lookup requestId).map RequestInfo.slotId

theorem slotOf_of_found
    {requestId : ByteString} {info : RequestInfo}
    (found : tracker.getRequest requestId = some info) :
    tracker.slotOf requestId = some info.slotId := by
  have known : tracker.requests.lookup requestId = some info := found
  rw [slotOf, known, Option.map_some]

/-- A slot is free if no request the tracker knows has it. -/
theorem slotHolder_eq_none {slot : Int32} :
    tracker.slotHolder slot = none ↔
      ∀ requestId, tracker.slotOf requestId ≠ some slot := by
  unfold slotHolder slotOf
  rw [Option.map_eq_none_iff, List.find?_eq_none]
  constructor
  · intro unused requestId holds
    obtain ⟨info, found, isSlot⟩ := Option.map_eq_some_iff.mp holds
    refine unused ⟨requestId, info⟩ (AList.mem_lookup_iff.mp found) ?_
    exact decide_eq_true isSlot
  · intro unused entry member isSlot
    refine unused entry.1 ?_
    rw [AList.mem_lookup_iff.mpr member, Option.map_some,
      of_decide_eq_true isSlot]

theorem slotOf_addRequest
    {requestId prefillNodeId : ByteString} {assignedSlot numLayers : Int32}
    {seqNum : UInt16}
    (added :
      tracker.addRequest requestId prefillNodeId assignedSlot numLayers =
        .ok (seqNum, next))
    (tested : ByteString) :
    next.slotOf tested =
      if tested = requestId then some assignedSlot
      else tracker.slotOf tested := by
  obtain ⟨_, _, _, _, rfl⟩ := addRequest_eq_ok added
  unfold slotOf
  by_cases same : tested = requestId
  · subst same
    simp [newRequest]
  · simp [same]

theorem slotOf_updateState
    (tracker : RequestTrackerLayer) (requestId : ByteString)
    (newState : State) (tested : ByteString) :
    (tracker.updateState requestId newState).2.slotOf tested =
      tracker.slotOf tested := by
  rw [updateState]
  split
  · rfl
  · rename_i info found
    unfold slotOf
    by_cases same : tested = requestId
    · subst same
      simp [found]
    · simp [same]

theorem slotOf_removeRequest
    (tracker : RequestTrackerLayer) (requestId tested : ByteString) :
    (tracker.removeRequest requestId).slotOf tested =
      if tested = requestId then none else tracker.slotOf tested := by
  rw [removeRequest]
  split
  · rename_i unknown
    by_cases same : tested = requestId
    · subst same
      simp [slotOf, unknown]
    · simp [same]
  · unfold slotOf
    by_cases same : tested = requestId
    · subst same
      simp
    · simp [same]

theorem slotOf_markLayerReceived
    (tracker : RequestTrackerLayer) (requestId : ByteString)
    (layerId : Int32) (tested : ByteString) :
    (tracker.markLayerReceived requestId layerId).2.slotOf tested =
      tracker.slotOf tested := by
  rw [markLayerReceived]
  split
  · rfl
  · rename_i info found
    split
    · rfl
    · rename_i received receives
      unfold slotOf
      by_cases same : tested = requestId
      · subst same
        simp [found, (receiveLayer_same receives).1]
      · simp [same]

/-! ## The whole tracker -/

/-- What the tracker records of one request is true. -/
structure RequestInfo.Tracked
    (info : RequestInfo) (tracker : RequestTrackerLayer) (numLayers : Int32)
    (requestId : ByteString) (accepted : Nat → Prop) : Prop where
  numLayers_eq : info.numLayers = numLayers
  numLayers_nonneg : 0 ≤ numLayers.toInt
  slotId_range : 0 ≤ info.slotId.toInt ∧ info.slotId.toInt < 65536
  seqNum_eq : info.seqNum = UInt16.ofInt info.slotId.toInt
  resolves : tracker.seqToRequest.lookup info.seqNum = some requestId
  records : info.Records accepted

/-- What the tracker records is true. -/
def Tracking
    (tracker : RequestTrackerLayer) (numLayers : Int32)
    (accepted : ByteString → Nat → Prop) : Prop :=
  ∀ requestId info, tracker.requests.lookup requestId = some info →
    info.Tracked tracker numLayers requestId (accepted requestId)

/-- Slots below `65536` have different sequence numbers. -/
theorem eq_of_seqNum_eq
    {first second : Int32}
    (firstRange : 0 ≤ first.toInt ∧ first.toInt < 65536)
    (secondRange : 0 ≤ second.toInt ∧ second.toInt < 65536)
    (same : UInt16.ofInt first.toInt = UInt16.ofInt second.toInt) :
    first = second := by
  have values := congrArg UInt16.toNat same
  simp only [UInt16.ofInt, UInt16.toNat_ofNat'] at values
  refine Int32.toInt_inj.mp ?_
  omega

namespace Tracking

variable {numLayers : Int32} {accepted later : ByteString → Nat → Prop}

theorem mono
    (tracking : tracker.Tracking numLayers accepted)
    (stays :
      ∀ requestId layer, accepted requestId layer → later requestId layer) :
    tracker.Tracking numLayers later := by
  intro requestId info found
  obtain ⟨layers, nonneg, range, seqNum, resolves, records⟩ :=
    tracking requestId info found
  exact ⟨layers, nonneg, range, seqNum, resolves, records.mono (stays requestId)⟩

theorem addRequest
    (tracking : tracker.Tracking numLayers accepted)
    {requestId prefillNodeId : ByteString} {assignedSlot : Int32}
    {seqNum : UInt16}
    (added :
      tracker.addRequest requestId prefillNodeId assignedSlot numLayers =
        .ok (seqNum, next))
    (range : 0 ≤ assignedSlot.toInt ∧ assignedSlot.toInt < 65536)
    (stays :
      ∀ tested, tested ≠ requestId →
        ∀ layer, accepted tested layer → later tested layer) :
    next.Tracking numLayers later := by
  obtain ⟨isSeq, _, free, nonneg, rfl⟩ := addRequest_eq_ok added
  intro tested info found
  by_cases same : tested = requestId
  · subst same
    rw [AList.lookup_insert] at found
    cases found
    refine
      ⟨rfl, Int32.le_iff_toInt_le.mp nonneg, range, rfl, ?_,
        newRequest_records _ _ _ _ _ _⟩
    rw [isSeq]
    exact AList.lookup_insert _
  · rw [AList.lookup_insert_ne same] at found
    obtain ⟨layers, _, testedRange, testedSeq, resolves, records⟩ :=
      tracking tested info found
    have otherSeq : info.seqNum ≠ seqNum := by
      intro sameSeq
      refine slotHolder_eq_none.mp free tested ?_
      rw [testedSeq, isSeq] at sameSeq
      rw [slotOf, found, Option.map_some,
        eq_of_seqNum_eq testedRange range sameSeq]
    refine
      ⟨layers, Int32.le_iff_toInt_le.mp nonneg, testedRange, testedSeq, ?_,
        records.mono (stays tested same)⟩
    rw [AList.lookup_insert_ne otherSeq]
    exact resolves

/-- The record of a request is replaced by one with the same slot. -/
theorem replace
    (tracking : tracker.Tracking numLayers accepted)
    {requestId : ByteString} {info replaced : RequestInfo}
    (known : tracker.requests.lookup requestId = some info)
    (requests : next.requests = tracker.requests.insert requestId replaced)
    (seqToRequest : next.seqToRequest = tracker.seqToRequest)
    (sameSlot : replaced.slotId = info.slotId)
    (sameSeq : replaced.seqNum = info.seqNum)
    (sameLayers : replaced.numLayers = info.numLayers)
    (records : replaced.Records (accepted requestId)) :
    next.Tracking numLayers accepted := by
  intro tested other found
  rw [requests] at found
  by_cases same : tested = requestId
  · subst same
    rw [AList.lookup_insert] at found
    cases found
    obtain ⟨layers, nonneg, range, seqNum, resolves, _⟩ :=
      tracking tested info known
    refine ⟨sameLayers.trans layers, nonneg, ?_, ?_, ?_, records⟩
    · rwa [sameSlot]
    · rwa [sameSlot, sameSeq]
    · rwa [seqToRequest, sameSeq]
  · rw [AList.lookup_insert_ne same] at found
    obtain ⟨layers, nonneg, range, seqNum, resolves, kept⟩ :=
      tracking tested other found
    rw [← seqToRequest] at resolves
    exact ⟨layers, nonneg, range, seqNum, resolves, kept⟩

theorem updateState
    (tracking : tracker.Tracking numLayers accepted)
    (requestId : ByteString) (newState : State) :
    (tracker.updateState requestId newState).2.Tracking numLayers
      accepted := by
  rw [RequestTrackerLayer.updateState]
  split
  · exact tracking
  · rename_i info known
    have records := (tracking requestId info known).records
    exact
      tracking.replace known rfl rfl rfl rfl rfl
        ⟨records.received, records.count⟩

theorem removeRequest
    (tracking : tracker.Tracking numLayers accepted)
    (requestId : ByteString) :
    (tracker.removeRequest requestId).Tracking numLayers accepted := by
  rw [RequestTrackerLayer.removeRequest]
  split
  · exact tracking
  · rename_i removed known
    intro tested info found
    by_cases same : tested = requestId
    · subst same
      rw [AList.lookup_erase] at found
      cases found
    · rw [AList.lookup_erase_ne same] at found
      obtain ⟨layers, nonneg, range, seqNum, resolves, records⟩ :=
        tracking tested info found
      refine ⟨layers, nonneg, range, seqNum, ?_, records⟩
      have otherSeq : info.seqNum ≠ removed.seqNum := by
        intro sameSeq
        have removedResolves := (tracking requestId removed known).resolves
        rw [← sameSeq, resolves] at removedResolves
        exact same (Option.some.inj removedResolves)
      rw [AList.lookup_erase_ne otherSeq]
      exact resolves

theorem markLayerReceived
    (tracking : tracker.Tracking numLayers accepted)
    {requestId : ByteString} {layerId : Int32}
    (isAccepted :
      ∀ info received,
        tracker.requests.lookup requestId = some info →
          info.receiveLayer layerId = some received →
            accepted requestId layerId.toInt.toNat) :
    (tracker.markLayerReceived requestId layerId).2.Tracking numLayers
      accepted := by
  rw [RequestTrackerLayer.markLayerReceived]
  split
  · exact tracking
  · rename_i info known
    split
    · exact tracking
    · rename_i received receives
      obtain ⟨sameSlot, sameSeq, sameLayers, _⟩ :=
        receiveLayer_same receives
      have records := (tracking requestId info known).records
      exact
        tracking.replace known rfl rfl sameSlot sameSeq sameLayers
          (records.receive (isAccepted info received known receives) receives)

end Tracking

end RequestTrackerLayer

end RdmaKvCache
