import RdmaKvCache.Connector.KvRegions

/-!
# What a load views of the staging buffer

A load asks for the offset of a layer like the save did, but uses it as an index
into a tensor of two-byte elements.  So it views the bytes at twice the offset,
which are the bytes saved exactly when the offset is zero or there are none.
-/

namespace RdmaKvCache

/-! ## What a load views -/

namespace RDMAConnector

/-- The size of a float16 element. -/
def StagingView.elementSize : Int := 2

/-- The bytes of the keys in a view of the staging buffer. -/
def StagingView.keyBytes (view : StagingView) : Set Int :=
  Set.Ico (StagingView.elementSize * view.start)
    (StagingView.elementSize * (view.start + view.numTokens * view.hiddenDim))

/-- The bytes of the values, which follow the keys. -/
def StagingView.valueBytes (view : StagingView) : Set Int :=
  Set.Ico
    (StagingView.elementSize * (view.start + view.numTokens * view.hiddenDim))
    (StagingView.elementSize *
      (view.start + 2 * (view.numTokens * view.hiddenDim)))

theorem loadKvFromStagingBuffer_ok
    {connector : RDMAConnector} {offset : Int} {numTokens hiddenDim : Nat}
    {view : StagingView}
    (viewed :
      connector.loadKvFromStagingBuffer offset numTokens hiddenDim =
        .ok view) :
    view.numTokens = numTokens ∧ view.hiddenDim = hiddenDim ∧
      (0 ≤ offset → 0 < numTokens * hiddenDim →
        (view.start : Int) = offset) := by
  rw [loadKvFromStagingBuffer] at viewed
  split at viewed
  · cases viewed
  · dsimp only at viewed
    split at viewed
    · rename_i length _ size
      cases viewed
      refine ⟨rfl, rfl, ?_⟩
      intro nonneg positive
      have product : 2 * numTokens * hiddenDim = 2 * (numTokens * hiddenDim) :=
        Nat.mul_assoc 2 numTokens hiddenDim
      rw [product] at size
      simp only [sliceBound] at size ⊢
      rw [if_neg (by omega)] at size ⊢
      rw [if_neg (by omega)] at size
      omega
    · cases viewed

theorem mem_collect
    {source target : Type}
    {load : source → Except ConnectorError (List target)}
    {sources : List source} {results : List target} {result : target}
    (completed : collect load sources = .ok results)
    (member : result ∈ results) :
    ∃ element ∈ sources, ∃ loaded,
      load element = .ok loaded ∧ result ∈ loaded := by
  induction sources generalizing results with
  | nil =>
      cases completed
      cases member
  | cons head rest inductionHypothesis =>
      rw [collect] at completed
      obtain ⟨first, headLoaded, remaining⟩ := bind_ok completed
      obtain ⟨others, restLoaded, returned⟩ := bind_ok remaining
      cases returned
      rcases List.mem_append.mp member with here | later
      · exact ⟨head, List.mem_cons_self, first, headLoaded, here⟩
      · obtain ⟨element, elementMember, loaded, elementLoaded, found⟩ :=
          inductionHypothesis restLoaded later
        exact
          ⟨element, List.mem_cons_of_mem head elementMember, loaded,
            elementLoaded, found⟩

theorem loadLayer_ok
    {connector : RDMAConnector} {environment : LoadEnvironment}
    {request : ConnectorRequest} {layer : ContextLayer}
    {loadedLayers : List LoadedLayer} {loaded : LoadedLayer}
    (completed :
      connector.loadLayer environment request layer = .ok loadedLayers)
    (member : loaded ∈ loadedLayers) :
    loaded.request = request ∧
      ∃ base hiddenDim,
        connector.offsetBase request.tokenIds = some base ∧
          connector.loadKvFromStagingBuffer
              (base + loaded.layerId * connector.layerSize)
              request.slotMapping.length hiddenDim =
            .ok loaded.view := by
  unfold loadLayer at completed
  split at completed
  · cases completed
    cases member
  · obtain ⟨rdmaOffset, calculated, afterOffset⟩ := bind_ok completed
    obtain ⟨layerId, extracted, afterLayer⟩ := bind_ok afterOffset
    obtain ⟨base, offsetLayer, matching, sameLayer, offset, _⟩ :=
      calculateRdmaOffset_ok calculated
    rw [extracted] at sameLayer
    cases sameLayer
    split at afterLayer
    · cases afterLayer
    · rename_i hiddenDim _
      obtain ⟨view, viewed, afterView⟩ := bind_ok afterLayer
      split at afterView
      · cases afterView
        rw [List.mem_singleton.mp member]
        rw [offset] at viewed
        exact ⟨rfl, base, hiddenDim, matching, viewed⟩
      · cases afterView

end RDMAConnector

/-- One layer of one request that a completed `start_load_kv` has viewed. -/
structure CompletedLoad where
  connector : RDMAConnector
  environment : RDMAConnector.LoadEnvironment
  layers : Option (List RDMAConnector.ContextLayer)
  loadedLayers : List RDMAConnector.LoadedLayer
  loaded : RDMAConnector.LoadedLayer
  completed : connector.startLoadKv environment layers = .ok loadedLayers
  member : loaded ∈ loadedLayers

namespace CompletedLoad

def matchedBase (load : CompletedLoad) : Int :=
  (load.connector.offsetBase load.loaded.request.tokenIds).getD 0

/-- The number of elements of the keys, and of the values. -/
def numElements (load : CompletedLoad) : Nat :=
  load.loaded.view.numTokens * load.loaded.view.hiddenDim

/-- The view starts at the element whose index is the byte offset. -/
theorem start_eq
    (load : CompletedLoad)
    (nonneg :
      0 ≤ load.matchedBase + load.loaded.layerId * load.connector.layerSize)
    (nonempty : 0 < load.numElements) :
    (load.loaded.view.start : Int) =
      load.matchedBase + load.loaded.layerId * load.connector.layerSize := by
  have completed := load.completed
  unfold RDMAConnector.startLoadKv at completed
  split at completed
  · split at completed
    · obtain ⟨request, _, requestLayers, requestLoaded, inRequest⟩ :=
        RDMAConnector.mem_collect completed load.member
      obtain ⟨layer, _, layerLoads, layerLoaded, inLayer⟩ :=
        RDMAConnector.mem_collect requestLoaded inRequest
      obtain ⟨sameRequest, base, hiddenDim, matching, viewed⟩ :=
        RDMAConnector.loadLayer_ok layerLoaded inLayer
      obtain ⟨tokens, hidden, start⟩ :=
        RDMAConnector.loadKvFromStagingBuffer_ok viewed
      have sameBase : load.matchedBase = base := by
        rw [matchedBase, sameRequest, matching]
        rfl
      rw [numElements, tokens, hidden] at nonempty
      rw [sameBase] at nonneg ⊢
      exact start nonneg nonempty
    · have nothing := load.member
      rw [← Except.ok.inj completed] at nothing
      cases nothing
  · have nothing := load.member
    rw [← Except.ok.inj completed] at nothing
    cases nothing

end CompletedLoad

/-! ## The bytes saved and the bytes viewed -/

/-- The save wrote the keys and then the values exactly where the view has
them. -/
def CompletedSave.Filled
    (save : CompletedSave) (view : RDMAConnector.StagingView) : Prop :=
  ∃ key value,
    save.saved.writes = [key, value] ∧
      key.bytes = view.keyBytes ∧ value.bytes = view.valueBytes

private theorem Ico_eq_Ico_iff {first second size : Int} (nonneg : 0 ≤ size) :
    Set.Ico first (first + size) = Set.Ico second (second + size) ↔
      size = 0 ∨ first = second := by
  constructor
  · intro same
    by_cases empty : size = 0
    · exact Or.inl empty
    · have firstMember : first ∈ Set.Ico second (second + size) := by
        rw [← same, Set.mem_Ico]
        omega
      have secondMember : second ∈ Set.Ico first (first + size) := by
        rw [same, Set.mem_Ico]
        omega
      rw [Set.mem_Ico] at firstMember secondMember
      exact Or.inr (by omega)
  · rintro (rfl | rfl)
    · simp
    · rfl

theorem CompletedSave.filled_iff
    (save : CompletedSave) (view : RDMAConnector.StagingView)
    (available : save.connector.rdmaAvailable = true)
    (sameSize : save.keyBytes = 2 * (view.numTokens * view.hiddenDim)) :
    save.Filled view ↔
      save.keyBytes = 0 ∨
        save.matchedBase + save.saved.layerId * save.connector.layerSize =
          2 * view.start := by
  have written := save.written.writes
  rw [if_pos available] at written
  obtain ⟨key, afterKey, split, keyPair, valueMapped⟩ :=
    List.map_eq_cons_iff.mp written
  obtain ⟨value, rfl, valuePair⟩ := List.map_eq_singleton_iff.mp valueMapped
  obtain ⟨keyOffset, keySize⟩ := Prod.mk.inj keyPair
  obtain ⟨valueOffset, valueSize⟩ := Prod.mk.inj valuePair
  change key.size = save.keyBytes at keySize
  change value.size = save.keyBytes at valueSize
  change
    value.offset =
      save.matchedBase + save.saved.layerId * save.connector.layerSize +
        save.keyBytes at valueOffset
  have filled :
      save.Filled view ↔
        key.bytes = view.keyBytes ∧ value.bytes = view.valueBytes := by
    simp [Filled, split]
  have viewKey :
      view.keyBytes =
        Set.Ico (2 * view.start : Int) (2 * view.start + save.keyBytes) := by
    rw [RDMAConnector.StagingView.keyBytes,
      RDMAConnector.StagingView.elementSize, sameSize]
    push_cast
    congr 1
    omega
  have viewValue :
      view.valueBytes =
        Set.Ico (2 * view.start + save.keyBytes : Int)
          (2 * view.start + save.keyBytes + save.keyBytes) := by
    rw [RDMAConnector.StagingView.valueBytes,
      RDMAConnector.StagingView.elementSize, sameSize]
    push_cast
    congr 1 <;> omega
  rw [filled, viewKey, viewValue, RDMAConnector.RemoteWrite.bytes,
    RDMAConnector.RemoteWrite.bytes, keySize, valueSize, keyOffset,
    valueOffset, Ico_eq_Ico_iff (by omega), Ico_eq_Ico_iff (by omega)]
  omega

/-- The bytes a load views are those the save for the same request and layer has
written exactly when the offset is zero or there are no bytes. -/
theorem load_views_saved_bytes_iff
    (save : CompletedSave) (load : CompletedLoad)
    (available : save.connector.rdmaAvailable = true)
    (sameBase : load.matchedBase = save.matchedBase)
    (sameLayer : load.loaded.layerId = save.saved.layerId)
    (sameLayerSize : load.connector.layerSize = save.connector.layerSize)
    (sameElements : save.keyBytes = 2 * load.numElements) :
    save.Filled load.loaded.view ↔
      save.matchedBase + save.saved.layerId * save.connector.layerSize = 0 ∨
        load.numElements = 0 := by
  have nonneg := save.written.nonneg available
  rw [save.filled_iff load.loaded.view available sameElements]
  by_cases empty : load.numElements = 0
  · simp [sameElements, empty]
  · have start :=
      load.start_eq (by rw [sameBase, sameLayer, sameLayerSize]; exact nonneg)
        (by omega)
    rw [sameBase, sameLayer, sameLayerSize] at start
    omega

/-! ## Slots zero and one -/

/-- The same request on the decode side. -/
def ConnectorRequest.toLoad (request : ConnectorRequest) : ConnectorRequest :=
  { request with isStore := false }

/-- The decode connector for the same two layers, with a buffer of 16 MB. -/
def RDMAConnector.twoLayerReceiver (request : ConnectorRequest) :
    RDMAConnector where
  role := .ofText "recv"
  peerId := [1]
  layerSize := 1048576
  numLayers := 2
  metadata := some [request.toLoad]
  stagingBuffer := some 8388608

/-- The load of layer 0 of the same request by that connector. -/
structure CompletedLoad.Sample
    (load : CompletedLoad) (slotId slotBaseOffset : Int) (numTokens : Nat) :
    Prop where
  connector :
    load.connector =
      .twoLayerReceiver (.stored slotId slotBaseOffset numTokens)
  loaded :
    load.loaded =
      { request :=
          (ConnectorRequest.stored slotId slotBaseOffset numTokens).toLoad
        layerName := "model.layers.0.attn".toList
        layerId := 0
        view :=
          { start := slotBaseOffset.toNat
            numTokens := numTokens
            hiddenDim := 4096 } }

theorem CompletedLoad.exists_sample
    {slotId slotBaseOffset : Int} {numTokens : Nat}
    (loads :
      (RDMAConnector.twoLayerReceiver
            (.stored slotId slotBaseOffset numTokens)).startLoadKv
          { digits := .ascii, injects := fun _ _ _ => true }
          (some
            [{ layerName := "model.layers.0.attn".toList
               kvCacheShape := some [2, 64, 16, 4096] }]) =
        .ok
          [{ request :=
               (ConnectorRequest.stored slotId slotBaseOffset numTokens).toLoad
             layerName := "model.layers.0.attn".toList
             layerId := 0
             view :=
               { start := slotBaseOffset.toNat
                 numTokens := numTokens
                 hiddenDim := 4096 } }]) :
    ∃ load : CompletedLoad, load.Sample slotId slotBaseOffset numTokens :=
  ⟨{ connector := _
     environment := _
     layers := _
     loadedLayers := _
     loaded := _
     completed := loads
     member := List.mem_cons_self },
    rfl, rfl⟩

theorem CompletedLoad.Sample.matchedBase_eq
    {load : CompletedLoad} {slotId slotBaseOffset : Int} {numTokens : Nat}
    (sample : load.Sample slotId slotBaseOffset numTokens) :
    load.matchedBase = slotBaseOffset := by
  simp [CompletedLoad.matchedBase, RDMAConnector.offsetBase,
    RDMAConnector.matchingRequest, sample.connector, sample.loaded,
    RDMAConnector.twoLayerReceiver, ConnectorRequest.stored,
    ConnectorRequest.toLoad]

theorem CompletedLoad.Sample.numElements_eq
    {load : CompletedLoad} {slotId slotBaseOffset : Int} {numTokens : Nat}
    (sample : load.Sample slotId slotBaseOffset numTokens) :
    load.numElements = numTokens * 4096 := by
  rw [CompletedLoad.numElements, sample.loaded]

theorem CompletedSave.Sample.rdmaAvailable
    {save : CompletedSave} {slotId slotBaseOffset : Int} {numTokens : Nat}
    (sample : save.Sample slotId slotBaseOffset numTokens) :
    save.connector.rdmaAvailable = true := by
  rw [sample.connector]
  rfl

/-- Slot one starts at 2 MB; the load views the bytes from 4 MB on. -/
theorem load_of_slot_one_misses_saved_bytes :
    ∃ (save : CompletedSave) (load : CompletedLoad),
      save.Sample 1 2097152 64 ∧ load.Sample 1 2097152 64 ∧
        ¬ save.Filled load.loaded.view := by
  obtain ⟨save, sample⟩ : ∃ save : CompletedSave, save.Sample 1 2097152 64 :=
    CompletedSave.exists_sample (by decide +kernel)
  obtain ⟨load, loadSample⟩ :
      ∃ load : CompletedLoad, load.Sample 1 2097152 64 :=
    CompletedLoad.exists_sample (by decide +kernel)
  have keys : save.keyBytes = 524288 := by
    rw [sample.keyBytes_eq]
    decide +kernel
  have available := sample.rdmaAvailable
  have sameElements : save.keyBytes = 2 * load.numElements := by
    rw [keys, loadSample.numElements_eq]
  refine ⟨save, load, sample, loadSample, ?_⟩
  rw [save.filled_iff load.loaded.view available sameElements, keys,
    sample.matchedBase_eq, sample.layerId, sample.connector,
    loadSample.loaded]
  decide

/-- The load of layer zero of slot zero, at offset zero. -/
theorem load_of_slot_zero_views_saved_bytes :
    ∃ (save : CompletedSave) (load : CompletedLoad),
      save.Sample 0 0 64 ∧ load.Sample 0 0 64 ∧
        save.Filled load.loaded.view := by
  obtain ⟨save, sample⟩ : ∃ save : CompletedSave, save.Sample 0 0 64 :=
    CompletedSave.exists_sample (by decide +kernel)
  obtain ⟨load, loadSample⟩ : ∃ load : CompletedLoad, load.Sample 0 0 64 :=
    CompletedLoad.exists_sample (by decide +kernel)
  have keys : save.keyBytes = 524288 := by
    rw [sample.keyBytes_eq]
    decide +kernel
  have available := sample.rdmaAvailable
  have sameLayerSize :
      load.connector.layerSize = save.connector.layerSize := by
    rw [loadSample.connector, sample.connector]
    rfl
  refine ⟨save, load, sample, loadSample, ?_⟩
  refine
    (load_views_saved_bytes_iff save load available
      (by rw [loadSample.matchedBase_eq, sample.matchedBase_eq])
      (by rw [loadSample.loaded, sample.layerId]) sameLayerSize
      (by rw [keys, loadSample.numElements_eq])).mpr ?_
  rw [sample.matchedBase_eq, sample.layerId]
  exact Or.inl (by simp)

end RdmaKvCache
