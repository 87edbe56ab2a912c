import RdmaKvCache.Library.BlockGrids
import RdmaKvCache.Node.TrackerCalls

/-!
# Where the layers of the tracked requests lie

The buffer of a decode node is a grid of blocks, one row for each slot and one
column for each layer.  The tracker records the block of each layer of a request
when it adds the request, and no two tracked requests have the same slot.
-/

namespace RdmaKvCache

open BlockGrids

namespace RequestTrackerLayer

/-! ## Offsets as numbers -/

/-- There are slots and layers, and all layers of all slots fit into the buffer
together. -/
structure MemoryLayout.Fits (layout : MemoryLayout) : Prop where
  slots : 0 < layout.maxConcurrentRequests
  layers : 0 < layout.numLayers
  size :
    layout.maxConcurrentRequests.toInt.toNat * layout.numLayers.toInt.toNat *
        layout.layerSizeBytes.toNat ≤
      layout.bufferSizeBytes.toNat

/-- The bytes of a layer. -/
def LayerMetadata.extent (layer : LayerMetadata) : Set Nat :=
  Set.Ico layer.offset.toNat (layer.offset.toNat + layer.size.toNat)

section Offsets

variable {layout : MemoryLayout} {slot : Int32} {index : Nat}

/-- A valid slot is a row of the grid. -/
theorem row_lt
    (nonneg : 0 ≤ slot) (below : slot < layout.maxConcurrentRequests) :
    slot.toInt.toNat < layout.maxConcurrentRequests.toInt.toNat := by
  have isNonneg : 0 ≤ slot.toInt := Int32.le_iff_toInt_le.mp nonneg
  have isBelow := Int32.lt_iff_toInt_lt.mp below
  omega

/-- The layers of all slots fit into the buffer, so those of one do. -/
theorem requestSize_lt (fits : layout.Fits) :
    layout.numLayers.toInt.toNat * layout.layerSizeBytes.toNat < 2 ^ 64 := by
  have bufferBound := layout.bufferSizeBytes.toNat_lt
  have someSlot : 1 ≤ layout.maxConcurrentRequests.toInt.toNat := by
    have positive := Int32.lt_iff_toInt_lt.mp fits.slots
    rw [Int32.toInt_zero] at positive
    omega
  have rows := fits.size
  rw [Nat.mul_assoc] at rows
  have oneOfThem :=
    Nat.mul_le_mul_right
      (layout.numLayers.toInt.toNat * layout.layerSizeBytes.toNat) someSlot
  omega

theorem getRequestSize_toNat (fits : layout.Fits) :
    layout.getRequestSize.toNat =
      layout.numLayers.toInt.toNat * layout.layerSizeBytes.toNat := by
  rw [MemoryLayout.getRequestSize, UInt64.toNat_mul,
    toUInt64_toNat (Int32.le_of_lt fits.layers),
    Nat.mod_eq_of_lt (requestSize_lt fits)]

/-- The offset of a layer is computed without wrapping around. -/
theorem getLayerOffset_toNat
    (fits : layout.Fits)
    (nonneg : 0 ≤ slot) (below : slot < layout.maxConcurrentRequests)
    (bound : index < layout.numLayers.toInt.toNat) :
    (layout.getLayerOffset slot (Int32.ofNat index)).toNat =
      slot.toInt.toNat *
          (layout.numLayers.toInt.toNat * layout.layerSizeBytes.toNat) +
        index * layout.layerSizeBytes.toNat := by
  have upper : layout.numLayers.toInt < 2 ^ 31 := layout.numLayers.toInt_lt
  have layerValue : (Int32.ofNat index).toInt = index :=
    Int32.toInt_ofNat_of_lt (by omega)
  have layerNonneg : 0 ≤ Int32.ofNat index := by
    rw [Int32.le_iff_toInt_le, layerValue, Int32.toInt_zero]
    omega
  have inside : _ ≤ layout.bufferSizeBytes.toNat :=
    (blockEnd_le layout.layerSizeBytes.toNat (row_lt nonneg below) bound).trans
      fits.size
  have bufferBound := layout.bufferSizeBytes.toNat_lt
  rw [MemoryLayout.getLayerOffset, MemoryLayout.getSlotBaseOffset,
    UInt64.toNat_add, UInt64.toNat_mul, UInt64.toNat_mul,
    getRequestSize_toNat fits, toUInt64_toNat nonneg,
    toUInt64_toNat layerNonneg, layerValue, Int.toNat_natCast,
    Nat.add_mod_mod, Nat.mod_add_mod]
  apply Nat.mod_eq_of_lt
  omega

end Offsets

/-! ## Recorded layers -/

/-- The record of a request has the blocks of its slot. -/
structure RequestInfo.Laid (layout : MemoryLayout) (info : RequestInfo) :
    Prop where
  numLayers_eq : info.numLayers = layout.numLayers
  nonneg : 0 ≤ info.slotId
  below : info.slotId < layout.maxConcurrentRequests
  offset_eq :
    ∀ index (bound : index < info.numLayers.toInt.toNat),
      info.layers[index].offset =
        layout.getLayerOffset info.slotId (Int32.ofNat index)
  size_eq :
    ∀ index (bound : index < info.numLayers.toInt.toNat),
      info.layers[index].size = layout.layerSizeBytes

theorem RequestInfo.Laid.receive
    {layout : MemoryLayout} {info received : RequestInfo} {layerId : Int32}
    (laid : info.Laid layout)
    (receives : info.receiveLayer layerId = some received) :
    received.Laid layout := by
  obtain ⟨_, layerBound, _, isReceived⟩ := receiveLayer_eq_some receives
  subst isReceived
  refine ⟨laid.numLayers_eq, laid.nonneg, laid.below, ?_, ?_⟩
  · intro index bound
    by_cases same : index = layerId.toInt.toNat
    · subst same
      rw [Vector.getElem_set_self bound]
      exact laid.offset_eq _ bound
    · rw [Vector.getElem_set_ne layerBound bound (Ne.symm same)]
      exact laid.offset_eq index bound
  · intro index bound
    by_cases same : index = layerId.toInt.toNat
    · subst same
      rw [Vector.getElem_set_self bound]
      exact laid.size_eq _ bound
    · rw [Vector.getElem_set_ne layerBound bound (Ne.symm same)]
      exact laid.size_eq index bound

/-- Requests are added with as many layers as the layout has. -/
def TrackerCall.HasLayers (numLayers : Int32) : TrackerCall → Prop
  | .addRequest _ _ _ added => added = numLayers
  | _ => True

/-- Every record has the blocks of its slot, and no two have the same slot. -/
structure LaidOut (layout : MemoryLayout) (tracker : RequestTrackerLayer) :
    Prop where
  layout_eq : tracker.layout = layout
  records : tracker.EachRecord fun _ info => info.Laid layout
  slots :
    ∀ first second slot,
      tracker.slotOf first = some slot →
        tracker.slotOf second = some slot → first = second

theorem LaidOut.call
    {layout : MemoryLayout} {tracker : RequestTrackerLayer}
    (laidOut : LaidOut layout tracker) {made : TrackerCall}
    (sameLayers : made.HasLayers layout.numLayers) :
    LaidOut layout (tracker.call made) where
  layout_eq := (call_layout tracker made).trans laidOut.layout_eq
  records := by
    apply EachRecord.call laidOut.records
    · intro requestId prefillNodeId assignedSlot numLayers isAdd nonneg below
      rw [isAdd] at sameLayers
      rw [laidOut.layout_eq] at below ⊢
      refine ⟨sameLayers, nonneg, below, ?_, ?_⟩ <;>
        intro index bound <;>
        simp [newRequest]
    · intro requestId info newState laid
      exact
        ⟨laid.numLayers_eq, laid.nonneg, laid.below, laid.offset_eq,
          laid.size_eq⟩
    · intro requestId info layerId received receives laid
      exact laid.receive receives
  slots := by
    intro first second slot firstHolds secondHolds
    rcases slotOf_call firstHolds with firstEarlier | ⟨free, _, isFirst⟩
    · rcases slotOf_call secondHolds with secondEarlier | ⟨free, _, _⟩
      · exact laidOut.slots first second slot firstEarlier secondEarlier
      · exact absurd firstEarlier (slotHolder_eq_none.mp free first)
    · rcases slotOf_call secondHolds with secondEarlier | ⟨_, _, isSecond⟩
      · exact absurd secondEarlier (slotHolder_eq_none.mp free second)
      · rw [isFirst, isSecond]

theorem LaidOut.calls
    {layout : MemoryLayout} {tracker : RequestTrackerLayer}
    (laidOut : LaidOut layout tracker) {list : List TrackerCall}
    (sameLayers : ∀ made ∈ list, made.HasLayers layout.numLayers) :
    LaidOut layout (tracker.calls list) := by
  induction list generalizing tracker with
  | nil =>
      exact laidOut
  | cons made rest inductionHypothesis =>
      have next := laidOut.call (sameLayers made List.mem_cons_self)
      exact
        inductionHypothesis next fun later member =>
          sameLayers later (List.mem_cons_of_mem made member)

theorem laidOut_new (layout : MemoryLayout) : LaidOut layout (new layout) where
  layout_eq := rfl
  records := by
    intro requestId info found
    cases found
  slots := by
    intro first second slot firstHolds
    cases firstHolds

/-! ## Extents -/

/-- What is recorded about one layer, as natural numbers. -/
structure LayerMetadata.WithinBuffer
    (layer : LayerMetadata) (layout : MemoryLayout) (slotId : Int32)
    (index : Nat) : Prop where
  offset_eq :
    layer.offset.toNat =
      slotId.toInt.toNat *
          (layout.numLayers.toInt.toNat * layout.layerSizeBytes.toNat) +
        index * layout.layerSizeBytes.toNat
  end_eq :
    (layer.offset + layer.size).toNat =
      layer.offset.toNat + layer.size.toNat
  inside : layer.extent ⊆ Set.Ico 0 layout.bufferSizeBytes.toNat
  valid : layout.validateOffset layer.offset layer.size = true

section Extents

variable {layout : MemoryLayout} {info : RequestInfo} {index : Nat}

theorem RequestInfo.Laid.extent_eq
    (fits : layout.Fits) (laid : info.Laid layout)
    (bound : index < info.numLayers.toInt.toNat) :
    info.layers[index].extent =
      block layout.numLayers.toInt.toNat layout.layerSizeBytes.toNat
        info.slotId.toInt.toNat index := by
  have layerBound : index < layout.numLayers.toInt.toNat := by
    rw [← laid.numLayers_eq]
    exact bound
  rw [LayerMetadata.extent, laid.offset_eq index bound,
    laid.size_eq index bound,
    getLayerOffset_toNat fits laid.nonneg laid.below layerBound, block]

theorem RequestInfo.Laid.withinBuffer
    (fits : layout.Fits) (laid : info.Laid layout)
    (bound : index < info.numLayers.toInt.toNat) :
    info.layers[index].WithinBuffer layout info.slotId index := by
  have layerBound : index < layout.numLayers.toInt.toNat := by
    rw [← laid.numLayers_eq]
    exact bound
  have offset :
      info.layers[index].offset.toNat =
        info.slotId.toInt.toNat *
            (layout.numLayers.toInt.toNat * layout.layerSizeBytes.toNat) +
          index * layout.layerSizeBytes.toNat := by
    rw [laid.offset_eq index bound]
    exact getLayerOffset_toNat fits laid.nonneg laid.below layerBound
  have below :
      info.layers[index].offset.toNat + info.layers[index].size.toNat ≤
        layout.bufferSizeBytes.toNat := by
    rw [offset, laid.size_eq index bound]
    exact
      (blockEnd_le _ (row_lt laid.nonneg laid.below) layerBound).trans fits.size
  have bufferBound := layout.bufferSizeBytes.toNat_lt
  have sum :
      (info.layers[index].offset + info.layers[index].size).toNat =
        info.layers[index].offset.toNat + info.layers[index].size.toNat := by
    rw [UInt64.toNat_add]
    apply Nat.mod_eq_of_lt
    omega
  refine ⟨offset, sum, ?_, ?_⟩
  · exact Set.Ico_subset_Ico (Nat.zero_le _) below
  · rw [MemoryLayout.validateOffset, decide_eq_true_eq, UInt64.le_iff_toNat_le,
      sum]
    exact below

end Extents

theorem getLayerOffset_of_found
    {tracker : RequestTrackerLayer} {requestId : ByteString}
    {info : RequestInfo} {index : Nat}
    (found : tracker.getRequest requestId = some info)
    (bound : index < info.numLayers.toInt.toNat) :
    tracker.getLayerOffset requestId (Int32.ofNat index) =
      .ok info.layers[index].offset := by
  have upper : info.numLayers.toInt < 2 ^ 31 := info.numLayers.toInt_lt
  have value : (Int32.ofNat index).toInt = index :=
    Int32.toInt_ofNat_of_lt (by omega)
  have inRange : 0 ≤ Int32.ofNat index ∧ Int32.ofNat index < info.numLayers := by
    rw [Int32.le_iff_toInt_le, Int32.lt_iff_toInt_lt, value, Int32.toInt_zero]
    omega
  have known : tracker.requests.lookup requestId = some info := found
  simp only [getLayerOffset, known, dif_pos inRange, value, Int.toNat_natCast]

/-- After any calls, the layers of the tracked requests lie within the buffer, in
places that do not overlap. -/
theorem tracked_extents_disjoint
    {layout : MemoryLayout} (fits : layout.Fits)
    {list : List TrackerCall}
    (sameLayers : ∀ made ∈ list, made.HasLayers layout.numLayers) :
    (∀ requestId info,
        ((new layout).calls list).getRequest requestId = some info →
          ∀ index (bound : index < info.numLayers.toInt.toNat),
            ((new layout).calls list).getLayerOffset requestId
                (Int32.ofNat index) = .ok info.layers[index].offset ∧
              info.layers[index].WithinBuffer layout info.slotId index) ∧
      ∀ first firstInfo second secondInfo,
        ((new layout).calls list).getRequest first = some firstInfo →
          ((new layout).calls list).getRequest second = some secondInfo →
            ∀ firstIndex
              (firstBound : firstIndex < firstInfo.numLayers.toInt.toNat)
              secondIndex
              (secondBound : secondIndex < secondInfo.numLayers.toInt.toNat),
              ¬ (first = second ∧ firstIndex = secondIndex) →
                Disjoint firstInfo.layers[firstIndex].extent
                  secondInfo.layers[secondIndex].extent := by
  have laidOut := (laidOut_new layout).calls sameLayers
  constructor
  · intro requestId info found index bound
    exact
      ⟨getLayerOffset_of_found found bound,
        (laidOut.records requestId info found).withinBuffer fits bound⟩
  · intro first firstInfo second secondInfo firstFound secondFound firstIndex
      firstBound secondIndex secondBound different
    have firstLaid := laidOut.records first firstInfo firstFound
    have secondLaid := laidOut.records second secondInfo secondFound
    rw [firstLaid.extent_eq fits firstBound,
      secondLaid.extent_eq fits secondBound]
    rw [firstLaid.numLayers_eq] at firstBound
    rw [secondLaid.numLayers_eq] at secondBound
    apply block_disjoint firstBound secondBound
    rintro ⟨sameRow, sameColumn⟩
    apply different
    have firstNonneg := Int32.le_iff_toInt_le.mp firstLaid.nonneg
    have secondNonneg := Int32.le_iff_toInt_le.mp secondLaid.nonneg
    rw [Int32.toInt_zero] at firstNonneg secondNonneg
    have sameSlot : firstInfo.slotId = secondInfo.slotId := by
      rw [← Int32.toInt_inj]
      omega
    have firstHolds := slotOf_of_found firstFound
    have secondHolds := slotOf_of_found secondFound
    rw [← sameSlot] at secondHolds
    exact ⟨laidOut.slots first second _ firstHolds secondHolds, sameColumn⟩

/-! ## Two requests in a buffer for two -/

def sampleLayout : MemoryLayout where
  bufferSizeBytes := 64
  maxConcurrentRequests := 2
  numLayers := 2
  layerSizeBytes := 16

/-- The first request moves to slot one and a second one takes slot zero. -/
def sampleCalls : List TrackerCall :=
  [.addRequest [10] [2] 0 2, .markLayerReceived [10] 1,
    .addRequest [10] [2] 1 2, .addRequest [11] [2] 0 2]

theorem tracked_extents_disjoint_sample :
    ((((new sampleLayout).calls sampleCalls).slotOf [10],
        ((new sampleLayout).calls sampleCalls).slotOf [11]) =
      (some 1, some 0)) ∧
      ∀ firstInfo secondInfo,
        ((new sampleLayout).calls sampleCalls).getRequest [10] =
            some firstInfo →
          ((new sampleLayout).calls sampleCalls).getRequest [11] =
              some secondInfo →
            ∀ index (firstBound : index < firstInfo.numLayers.toInt.toNat)
              (secondBound : index < secondInfo.numLayers.toInt.toNat),
              Disjoint firstInfo.layers[index].extent
                secondInfo.layers[index].extent := by
  have fits : sampleLayout.Fits := by
    refine ⟨?_, ?_, ?_⟩ <;>
      decide
  have sameLayers :
      ∀ made ∈ sampleCalls, made.HasLayers sampleLayout.numLayers := by
    intro made member
    simp only [sampleCalls, List.mem_cons, List.not_mem_nil, or_false]
      at member
    rcases member with rfl | rfl | rfl | rfl <;>
      trivial
  refine ⟨by decide +kernel, ?_⟩
  intro firstInfo secondInfo firstFound secondFound index firstBound
    secondBound
  have disjoint :=
    (tracked_extents_disjoint fits sameLayers).2 [10] firstInfo [11]
      secondInfo firstFound secondFound index firstBound index secondBound
  apply disjoint
  rintro ⟨sameRequest, _⟩
  cases sameRequest

end RequestTrackerLayer

end RdmaKvCache
