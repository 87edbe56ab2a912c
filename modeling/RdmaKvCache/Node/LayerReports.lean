import RdmaKvCache.Library.CoverTracking
import RdmaKvCache.Node.TrackerCalls

/-!
# When the last layer of a request is reported

The layers of a request are items to be collected: `mark_layer_received` collects
the layer it is called with if it is one of them and has not arrived before, and
reports the one that completes the collection.  Calls about other requests, and
new states of the request, do not matter.
-/

namespace RdmaKvCache

open CoverTracking

namespace RequestTrackerLayer

/-! ## Layers as items -/

/-- The layers `0, 1, ..., numLayers - 1`. -/
def layerIds (numLayers : Int32) : Finset Int32 :=
  (Finset.range numLayers.toInt.toNat).image Int32.ofNat

section LayerIds

variable {numLayers layerId : Int32} {index : Nat}

theorem toInt_ofNat_index (bound : index < numLayers.toInt.toNat) :
    (Int32.ofNat index).toInt = index := by
  have upper : numLayers.toInt < 2 ^ 31 := numLayers.toInt_lt
  exact Int32.toInt_ofNat_of_lt (by omega)

theorem ofNat_index_eq_iff
    (bound : index < numLayers.toInt.toNat) (nonneg : 0 ≤ layerId) :
    Int32.ofNat index = layerId ↔ index = layerId.toInt.toNat := by
  have value := toInt_ofNat_index bound
  have isNonneg : 0 ≤ layerId.toInt := Int32.le_iff_toInt_le.mp nonneg
  rw [← Int32.toInt_inj, value]
  omega

theorem mem_layerIds :
    layerId ∈ layerIds numLayers ↔ 0 ≤ layerId ∧ layerId < numLayers := by
  rw [layerIds, Finset.mem_image]
  constructor
  · rintro ⟨index, member, rfl⟩
    have bound : index < numLayers.toInt.toNat := Finset.mem_range.mp member
    have value := toInt_ofNat_index bound
    rw [Int32.le_iff_toInt_le, Int32.lt_iff_toInt_lt, value, Int32.toInt_zero]
    omega
  · intro inRange
    have bound := layerIndex_lt inRange
    refine ⟨layerId.toInt.toNat, Finset.mem_range.mpr bound, ?_⟩
    exact (ofNat_index_eq_iff bound inRange.1).mpr rfl

theorem ofNat_mem_layerIds (bound : index < numLayers.toInt.toNat) :
    Int32.ofNat index ∈ layerIds numLayers :=
  Finset.mem_image_of_mem _ (Finset.mem_range.mpr bound)

variable (numLayers) in
theorem card_layerIds : (layerIds numLayers).card = numLayers.toInt.toNat := by
  have distinct :
      Set.InjOn Int32.ofNat (Finset.range numLayers.toInt.toNat) := by
    intro first firstMember second secondMember same
    have firstValue :=
      toInt_ofNat_index (Finset.mem_range.mp firstMember)
    have secondValue :=
      toInt_ofNat_index (Finset.mem_range.mp secondMember)
    rw [same] at firstValue
    omega
  rw [layerIds, Finset.card_image_of_injOn distinct, Finset.card_range]

end LayerIds

/-! ## What a record says about the marked layers -/

/-- The record says which layers are among the marked ones, and how many. -/
structure RequestInfo.HasMarks
    (info : RequestInfo) (numLayers : Int32) (marks : List Int32) : Prop where
  numLayers_eq : info.numLayers = numLayers
  received :
    ∀ index (bound : index < info.numLayers.toInt.toNat),
      info.layers[index].received = true ↔ Int32.ofNat index ∈ marks
  count :
    info.layersReceivedCount.toInt =
      (collected (layerIds numLayers) marks).card

theorem newRequest_hasMarks
    (layout : MemoryLayout) (requestId prefillNodeId : ByteString)
    (assignedSlot numLayers : Int32) :
    (newRequest layout requestId prefillNodeId assignedSlot
      numLayers).HasMarks numLayers [] where
  numLayers_eq := rfl
  received := by
    intro index bound
    simp [newRequest]
  count := by
    rw [collected_nil, Finset.card_empty]
    rfl

namespace RequestInfo.HasMarks

variable {info received : RequestInfo} {numLayers layerId : Int32}
variable {marks : List Int32}

theorem setState
    (hasMarks : info.HasMarks numLayers marks) (newState : State) :
    ({ info with state := newState } : RequestInfo).HasMarks numLayers
      marks where
  numLayers_eq := hasMarks.numLayers_eq
  received := hasMarks.received
  count := hasMarks.count

/-- A layer that is recorded is one of the request's and a new one. -/
theorem isNew
    (hasMarks : info.HasMarks numLayers marks)
    (receives : info.receiveLayer layerId = some received) :
    layerId ∈ layerIds numLayers ∧ layerId ∉ marks := by
  obtain ⟨inRange, bound, missing, _⟩ := receiveLayer_eq_some receives
  have isLayer : Int32.ofNat layerId.toInt.toNat = layerId :=
    (ofNat_index_eq_iff bound inRange.1).mpr rfl
  have marked := hasMarks.received layerId.toInt.toNat bound
  rw [isLayer] at marked
  rw [← hasMarks.numLayers_eq, mem_layerIds]
  exact ⟨inRange, fun earlier => missing (marked.mpr earlier)⟩

/-- A layer that is not recorded is not one of the request's, or an old one. -/
theorem isOld
    (hasMarks : info.HasMarks numLayers marks)
    (refused : info.receiveLayer layerId = none) :
    layerId ∉ layerIds numLayers ∨ layerId ∈ marks := by
  by_cases inRange : 0 ≤ layerId ∧ layerId < info.numLayers
  · obtain ⟨bound, isReceived⟩ := receiveLayer_eq_none inRange refused
    have isLayer : Int32.ofNat layerId.toInt.toNat = layerId :=
      (ofNat_index_eq_iff bound inRange.1).mpr rfl
    have marked := hasMarks.received layerId.toInt.toNat bound
    rw [isLayer] at marked
    exact Or.inr (marked.mp isReceived)
  · rw [← hasMarks.numLayers_eq, mem_layerIds]
    exact Or.inl inRange

theorem receive
    (hasMarks : info.HasMarks numLayers marks)
    (receives : info.receiveLayer layerId = some received) :
    received.HasMarks numLayers (marks ++ [layerId]) := by
  obtain ⟨isWanted, notEarlier⟩ := hasMarks.isNew receives
  have oneMore := card_collected_append_of_new isWanted notEarlier
  have atMost :
      (collected (layerIds numLayers) (marks ++ [layerId])).card ≤
        numLayers.toInt.toNat := by
    rw [← card_layerIds]
    exact card_collected_le
  have upper := numLayers.toInt_lt
  have counted := hasMarks.count
  have sameLayers : received.numLayers = info.numLayers :=
    (receiveLayer_same receives).2.2.1
  have counts :
      received.layersReceivedCount = info.layersReceivedCount + 1 :=
    (receiveLayer_same receives).2.2.2
  obtain ⟨inRange, layerBound, _, isReceived⟩ := receiveLayer_eq_some receives
  subst isReceived
  refine ⟨sameLayers.trans hasMarks.numLayers_eq, ?_, ?_⟩
  · intro index bound
    have isLayer :
        Int32.ofNat index = layerId ↔ index = layerId.toInt.toNat :=
      ofNat_index_eq_iff bound inRange.1
    rw [List.mem_append, List.mem_singleton, isLayer]
    by_cases same : index = layerId.toInt.toNat
    · subst same
      simp
    · have earlier := hasMarks.received index bound
      simp only [same, or_false, ← earlier]
      rw [Vector.getElem_set_ne layerBound bound (Ne.symm same)]
  · rw [counts, Int32.toInt_add, Int.bmod_eq_of_le] <;>
      simp only [Int32.toInt_one] <;>
      omega

theorem refuse
    (hasMarks : info.HasMarks numLayers marks)
    (refused : info.receiveLayer layerId = none) :
    info.HasMarks numLayers (marks ++ [layerId]) where
  numLayers_eq := hasMarks.numLayers_eq
  received := by
    intro index bound
    rw [hasMarks.received index bound, List.mem_append, List.mem_singleton]
    constructor
    · exact Or.inl
    · rintro (earlier | isLayer)
      · exact earlier
      · have member := ofNat_mem_layerIds bound
        rw [hasMarks.numLayers_eq] at member
        rw [isLayer] at member ⊢
        exact
          (hasMarks.isOld refused).resolve_left
            (not_not_intro member)
  count := by
    rw [hasMarks.count, collected_append_of_old (hasMarks.isOld refused)]

/-- All layers are counted exactly if all are marked. -/
theorem full_iff (hasMarks : info.HasMarks numLayers marks) :
    info.layersReceivedCount = info.numLayers ↔
      (collected (layerIds numLayers) marks).card =
        numLayers.toInt.toNat ∧ 0 ≤ numLayers.toInt := by
  rw [← Int32.toInt_inj, hasMarks.count, hasMarks.numLayers_eq]
  omega

end RequestInfo.HasMarks

/-! ## Sequences of calls -/

/-- The layer the call marks for the request. -/
def TrackerCall.markOf (requestId : ByteString) : TrackerCall → Option Int32
  | .markLayerReceived marked layerId =>
      if marked = requestId then some layerId else none
  | _ => none

/-- The layers the calls mark for the request, in this order. -/
def marksOf (requestId : ByteString) (list : List TrackerCall) : List Int32 :=
  list.filterMap (TrackerCall.markOf requestId)

/-- The call neither adds nor removes the request. -/
def TrackerCall.Keeps (requestId : ByteString) : TrackerCall → Prop
  | .addRequest added _ _ _ => added ≠ requestId
  | .removeRequest removed => removed ≠ requestId
  | _ => True

/-- The tracker follows the request, of which these layers have been marked. -/
def Follows
    (tracker : RequestTrackerLayer) (requestId : ByteString)
    (numLayers : Int32) (marks : List Int32) : Prop :=
  ∃ info,
    tracker.requests.lookup requestId = some info ∧
      info.HasMarks numLayers marks

section Follows

variable {tracker : RequestTrackerLayer} {requestId : ByteString}
variable {numLayers : Int32} {marks : List Int32}

theorem Follows.call
    (follows : tracker.Follows requestId numLayers marks)
    {made : TrackerCall} (keeps : made.Keeps requestId) :
    (tracker.call made).Follows requestId numLayers
      (marks ++ (made.markOf requestId).toList) := by
  obtain ⟨info, found, hasMarks⟩ := follows
  have unmarked (other : requestId ≠ made.requestId)
      (silent : made.markOf requestId = none) :
      (tracker.call made).Follows requestId numLayers
        (marks ++ (made.markOf requestId).toList) := by
    rw [silent, Option.toList_none, List.append_nil]
    refine ⟨info, ?_, hasMarks⟩
    rw [(call_effect tracker made).lookup_of_ne other]
    exact found
  cases made with
  | addRequest added prefillNodeId assignedSlot layers =>
      exact unmarked (Ne.symm keeps) rfl
  | removeRequest removed =>
      exact unmarked (Ne.symm keeps) rfl
  | updateState updated newState =>
      by_cases same : updated = requestId
      · subst same
        have silent :
            (TrackerCall.updateState updated newState).markOf updated =
              none := rfl
        rw [silent, Option.toList_none, List.append_nil]
        simp only [RequestTrackerLayer.call, updateState, found]
        exact ⟨_, AList.lookup_insert _, hasMarks.setState newState⟩
      · exact unmarked (Ne.symm same) rfl
  | markLayerReceived marked layerId =>
      by_cases same : marked = requestId
      · subst same
        rw [TrackerCall.markOf, if_pos rfl, Option.toList_some]
        simp only [RequestTrackerLayer.call, markLayerReceived, found]
        cases receives : info.receiveLayer layerId with
        | none =>
            exact ⟨info, found, hasMarks.refuse receives⟩
        | some received =>
            exact
              ⟨received, AList.lookup_insert _, hasMarks.receive receives⟩
      · exact unmarked (Ne.symm same) (if_neg same)

theorem Follows.calls
    (follows : tracker.Follows requestId numLayers marks)
    {list : List TrackerCall} (keep : ∀ made ∈ list, made.Keeps requestId) :
    (tracker.calls list).Follows requestId numLayers
      (marks ++ marksOf requestId list) := by
  induction list generalizing tracker marks with
  | nil =>
      rw [marksOf, List.filterMap_nil, List.append_nil]
      exact follows
  | cons made rest inductionHypothesis =>
      have next := follows.call (keep made List.mem_cons_self)
      have final :=
        inductionHypothesis next
          (fun later member => keep later (List.mem_cons_of_mem made member))
      have split :
          (made.markOf requestId).toList ++ marksOf requestId rest =
            marksOf requestId (made :: rest) := by
        rw [marksOf, marksOf, List.filterMap_cons]
        cases made.markOf requestId <;>
          simp
      rw [List.append_assoc, split] at final
      exact final

/-- A call reports the last layer exactly if it completes the layers. -/
theorem Follows.reports_iff
    (follows : tracker.Follows requestId numLayers marks) (layerId : Int32) :
    (tracker.markLayerReceived requestId layerId).1 = true ↔
      ¬ Covered (layerIds numLayers) marks ∧
        Covered (layerIds numLayers) (marks ++ [layerId]) := by
  obtain ⟨info, found, hasMarks⟩ := follows
  rw [completes_iff, card_layerIds]
  simp only [markLayerReceived, found]
  cases receives : info.receiveLayer layerId with
  | none =>
      have old := hasMarks.isOld receives
      simp only [Bool.false_eq_true, false_iff]
      tauto
  | some received =>
      obtain ⟨isWanted, notEarlier⟩ := hasMarks.isNew receives
      have oneMore := card_collected_append_of_new isWanted notEarlier
      have range := mem_layerIds.mp isWanted
      have nonneg := Int32.le_iff_toInt_le.mp range.1
      have below := Int32.lt_iff_toInt_lt.mp range.2
      have full := (hasMarks.receive receives).full_iff
      rw [Int32.toInt_zero] at nonneg
      simp only [decide_eq_true_eq, full, oneMore, isWanted, notEarlier,
        not_false_eq_true, true_and]
      omega

theorem Follows.isLayerReady_iff
    (follows : tracker.Follows requestId numLayers marks) (layerId : Int32) :
    tracker.isLayerReady requestId layerId = true ↔
      layerId ∈ collected (layerIds numLayers) marks := by
  obtain ⟨info, found, hasMarks⟩ := follows
  rw [mem_collected, ← hasMarks.numLayers_eq, mem_layerIds]
  simp only [isLayerReady, found]
  by_cases inRange : 0 ≤ layerId ∧ layerId < info.numLayers
  · have bound := layerIndex_lt inRange
    have isLayer : Int32.ofNat layerId.toInt.toNat = layerId :=
      (ofNat_index_eq_iff bound inRange.1).mpr rfl
    have marked := hasMarks.received layerId.toInt.toNat bound
    rw [isLayer] at marked
    rw [dif_pos inRange, marked]
    exact (and_iff_right inRange).symm
  · rw [dif_neg inRange]
    simp [inRange]

end Follows

/-- After any calls that keep a freshly added request, the next call reports its
last layer exactly if it completes the layers; the record says which layers have
been marked and how many; and no call changes the records of other requests. -/
theorem last_layer_reported_once
    {tracker added : RequestTrackerLayer}
    {requestId prefillNodeId : ByteString} {assignedSlot numLayers : Int32}
    {seqNum : UInt16}
    (isAdded :
      tracker.addRequest requestId prefillNodeId assignedSlot numLayers =
        .ok (seqNum, added))
    {list : List TrackerCall} (keep : ∀ made ∈ list, made.Keeps requestId) :
    (∀ layerId,
        ((added.calls list).markLayerReceived requestId layerId).1 = true ↔
          ¬ Covered (layerIds numLayers) (marksOf requestId list) ∧
            Covered (layerIds numLayers)
              (marksOf requestId list ++ [layerId])) ∧
      (∃ info,
        (added.calls list).getRequest requestId = some info ∧
          info.layersReceivedCount.toInt =
            (collected (layerIds numLayers) (marksOf requestId list)).card) ∧
      (∀ layerId,
        (added.calls list).isLayerReady requestId layerId = true ↔
          layerId ∈ collected (layerIds numLayers)
            (marksOf requestId list)) ∧
      ∀ made other, other ≠ made.requestId →
        ((added.calls list).call made).getRequest other =
          (added.calls list).getRequest other := by
  have fresh : added.Follows requestId numLayers [] := by
    obtain ⟨_, _, _, _, isNext⟩ := addRequest_eq_ok isAdded
    have found :
        added.requests.lookup requestId =
          some
            (newRequest tracker.layout requestId prefillNodeId assignedSlot
              numLayers) := by
      rw [isNext]
      exact AList.lookup_insert _
    exact ⟨_, found, newRequest_hasMarks _ _ _ _ _⟩
  have follows := fresh.calls keep
  rw [List.nil_append] at follows
  refine ⟨follows.reports_iff, ?_, follows.isLayerReady_iff, ?_⟩
  · obtain ⟨info, found, hasMarks⟩ := follows
    exact ⟨info, found, hasMarks.count⟩
  · intro made other different
    exact (call_effect (added.calls list) made).lookup_of_ne different

/-- Layer one has arrived twice, then layer zero is the last of two. -/
theorem last_layer_reported_once_twoLayers :
    ∃ seqNum added,
      (new { numLayers := 2 }).addRequest [10] [2] 0 2 =
          .ok (seqNum, added) ∧
        ((added.calls
              [.markLayerReceived [10] 1, .markLayerReceived [10] 1,
                .markLayerReceived [10] 7]).markLayerReceived [10] 0).1 =
          true := by
  have accepted :
      ((new { numLayers := 2 }).addRequest [10] [2] 0 2).toOption.isSome =
        true := by
    decide +kernel
  obtain ⟨⟨seqNum, added⟩, isSome⟩ := Option.isSome_iff_exists.mp accepted
  have isAdded :
      (new { numLayers := 2 }).addRequest [10] [2] 0 2 =
        .ok (seqNum, added) := by
    cases result : (new { numLayers := 2 }).addRequest [10] [2] 0 2 with
    | error exception =>
        rw [result] at isSome
        cases isSome
    | ok pair =>
        rw [result] at isSome
        rw [Option.some.inj isSome]
  refine ⟨seqNum, added, isAdded, ?_⟩
  have keep :
      ∀ made ∈
        [TrackerCall.markLayerReceived [10] 1, .markLayerReceived [10] 1,
          .markLayerReceived [10] 7],
        made.Keeps [10] := by
    intro made member
    simp only [List.mem_cons, List.not_mem_nil, or_false] at member
    rcases member with rfl | rfl | rfl <;>
      trivial
  have reports := (last_layer_reported_once isAdded keep).1 0
  rw [reports]
  decide +kernel

end RequestTrackerLayer

end RdmaKvCache
