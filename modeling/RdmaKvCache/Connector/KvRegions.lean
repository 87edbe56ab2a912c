import Mathlib
import RdmaKvCache.Connector.RdmaConnector

/-!
# Where a save puts the keys and values of a layer

A save checks where the first byte of a layer goes and then writes the keys and
the values, whose sizes depend on the number of tokens, one after the other.
So the writes stay within the layer's share of the slot exactly when both fit
into it.
-/

namespace RdmaKvCache

namespace RDMAConnector

/-! ## What a completed save has done -/

theorem bind_ok
    {source target : Type} {first : Except ConnectorError source}
    {continuation : source → Except ConnectorError target} {result : target}
    (completed : first >>= continuation = .ok result) :
    ∃ value, first = .ok value ∧ continuation value = .ok result := by
  cases first with
  | error exception =>
      cases completed
  | ok value =>
      exact ⟨value, rfl, completed⟩

/-- The base offset of the first request with these tokens, which is the one the
offset is calculated from. -/
def offsetBase (connector : RDMAConnector) (tokenIds : List Int) :
    Option Int :=
  (connector.matchingRequest tokenIds).bind ConnectorRequest.slotBaseOffset

theorem checkedOffset_ok
    {connector : RDMAConnector} {slotId base layerId offset : Int}
    (checked : connector.checkedOffset slotId base layerId = .ok offset) :
    offset = base + layerId * connector.layerSize ∧
      layerId * connector.layerSize <
        connector.numLayers * connector.layerSize := by
  rw [checkedOffset] at checked
  dsimp only at checked
  split at checked
  · cases checked
  · split at checked
    · cases checked
    · cases checked
      refine ⟨rfl, ?_⟩
      omega

theorem calculateRdmaOffset_ok
    {connector : RDMAConnector} {digits : PythonDigits}
    {layerName : List Char} {tokenIds : List Int} {offset : Int}
    (calculated :
      connector.calculateRdmaOffset digits layerName tokenIds = .ok offset) :
    ∃ base layerId,
      connector.offsetBase tokenIds = some base ∧
        extractLayerId digits layerName = .ok layerId ∧
        offset = base + layerId * connector.layerSize ∧
        layerId * connector.layerSize <
          connector.numLayers * connector.layerSize := by
  rw [calculateRdmaOffset] at calculated
  split at calculated
  · cases calculated
  · split at calculated
    · rename_i matching
      split at calculated
      · cases calculated
      · rename_i layerId extracted
        refine ⟨_, layerId, ?_, extracted, checkedOffset_ok calculated⟩
        rw [offsetBase, matching]
        rfl
    · cases calculated

theorem rdmaWrite_ok
    {connector : RDMAConnector} {environment : SaveEnvironment}
    {bindings next : RDMABindings} {localPtr : UInt64} {remoteOffset : Int}
    {size : Nat} {requestSeq layerId : Int} {write : RemoteWrite}
    (written :
      connector.rdmaWrite environment bindings localPtr remoteOffset size
        requestSeq layerId = .ok (write, next)) :
    0 ≤ remoteOffset ∧ write.offset = remoteOffset ∧ write.size = size := by
  rw [rdmaWrite] at written
  dsimp only at written
  split at written
  · cases written
  · rename_i compatible
    split at written
    · cases written
      exact ⟨by omega, rfl, rfl⟩
    · cases written

/-- Two writes of equal size, the second right behind the first. -/
structure SavedLayer.WrittenAt
    (saved : SavedLayer) (connector : RDMAConnector) (kvLayer : Tensor)
    (base : Int) : Prop where
  layerInShare :
    saved.layerId * connector.layerSize <
      connector.numLayers * connector.layerSize
  nonneg :
    connector.rdmaAvailable = true →
      0 ≤ base + saved.layerId * connector.layerSize
  writes :
    saved.writes.map (fun write => (write.offset, write.size)) =
      if connector.rdmaAvailable then
        [(base + saved.layerId * connector.layerSize,
            keyBytes kvLayer saved.request.slotMapping),
          (base + saved.layerId * connector.layerSize +
              keyBytes kvLayer saved.request.slotMapping,
            keyBytes kvLayer saved.request.slotMapping)]
      else
        []

theorem saveRequest_ok
    {connector : RDMAConnector} {environment : SaveEnvironment}
    {layerName : List Char} {kvLayer : Tensor} {request : ConnectorRequest}
    {bindings next : RDMABindings} {saved : SavedLayer}
    (completed :
      connector.saveRequest environment layerName kvLayer request bindings =
        .ok (saved, next)) :
    saved.request = request ∧
      extractLayerId environment.digits layerName = .ok saved.layerId ∧
      ∃ base,
        connector.offsetBase request.tokenIds = some base ∧
          saved.WrittenAt connector kvLayer base := by
  rw [saveRequest] at completed
  obtain ⟨shape, extraction, afterShape⟩ := bind_ok completed
  obtain ⟨rdmaOffset, calculated, afterOffset⟩ := bind_ok afterShape
  obtain ⟨layerId, extracted, afterLayer⟩ := bind_ok afterOffset
  obtain ⟨base, offsetLayer, matching, sameLayer, offset, inShare⟩ :=
    calculateRdmaOffset_ok calculated
  rw [extracted] at sameLayer
  cases sameLayer
  have size :
      keyBytes kvLayer request.slotMapping =
        (keyShape shape).prod * kvLayer.elementSize := by
    rw [keyBytes, extraction]
  dsimp only at afterLayer
  split at afterLayer
  · rename_i available
    obtain ⟨⟨key, afterKey⟩, keyWritten, remaining⟩ := bind_ok afterLayer
    obtain ⟨⟨value, afterValue⟩, valueWritten, returned⟩ := bind_ok remaining
    cases returned
    obtain ⟨nonneg, keyOffset, keySize⟩ := rdmaWrite_ok keyWritten
    obtain ⟨_, valueOffset, valueSize⟩ := rdmaWrite_ok valueWritten
    rw [offset] at nonneg
    refine
      ⟨rfl, extracted, base, matching, inShare, fun _ => nonneg, ?_⟩
    simp [available, keyOffset, keySize, valueOffset, valueSize, offset, size]
  · rename_i unavailable
    cases afterLayer
    refine
      ⟨rfl, extracted, base, matching, inShare,
        fun available => absurd available unavailable, ?_⟩
    simp [unavailable]

/-- Every layer a save returns comes from one completed iteration, which begins with
what all iterations keep. -/
theorem iteration_of_mem_saveRequests
    {connector : RDMAConnector} {environment : SaveEnvironment}
    {layerName : List Char} {kvLayer : Tensor}
    {requests : List ConnectorRequest} {bindings final : RDMABindings}
    {saved : SavedLayer} {layers : List SavedLayer}
    (kept : RDMABindings → Prop)
    (keeps :
      ∀ {request before saved after}, kept before →
        connector.saveRequest environment layerName kvLayer request before =
            .ok (saved, after) →
          kept after)
    (holds : kept bindings)
    (completed :
      connector.saveRequests environment layerName kvLayer requests bindings =
        .ok (layers, final))
    (member : saved ∈ layers) :
    ∃ before after,
      kept before ∧
        connector.saveRequest environment layerName kvLayer saved.request
            before =
          .ok (saved, after) := by
  induction requests generalizing bindings layers with
  | nil =>
      cases completed
      cases member
  | cons request rest inductionHypothesis =>
      rw [saveRequests] at completed
      split at completed
      · obtain ⟨⟨first, next⟩, firstSaved, remaining⟩ := bind_ok completed
        obtain ⟨⟨others, last⟩, othersSaved, returned⟩ := bind_ok remaining
        cases returned
        rcases List.mem_cons.mp member with rfl | later
        · obtain ⟨sameRequest, _⟩ := saveRequest_ok firstSaved
          rw [← sameRequest] at firstSaved
          exact ⟨bindings, next, holds, firstSaved⟩
        · exact inductionHypothesis (keeps holds firstSaved) othersSaved later
      · exact inductionHypothesis holds completed member

theorem saveKvLayer_ok
    {connector : RDMAConnector} {environment : SaveEnvironment}
    {layerName : List Char} {kvLayer : Tensor} {bindings final : RDMABindings}
    {saved : SavedLayer} {layers : List SavedLayer}
    (completed :
      connector.saveKvLayer environment layerName kvLayer bindings =
        .ok (layers, final))
    (member : saved ∈ layers) :
    extractLayerId environment.digits layerName = .ok saved.layerId ∧
      ∃ base,
        connector.offsetBase saved.request.tokenIds = some base ∧
          saved.WrittenAt connector kvLayer base := by
  rw [saveKvLayer] at completed
  split at completed
  · split at completed
    · cases completed
      cases member
    · obtain ⟨before, after, _, iteration⟩ :=
        iteration_of_mem_saveRequests (fun _ => True) (fun _ _ => trivial)
          trivial completed member
      exact (saveRequest_ok iteration).2
  · cases completed
    cases member

end RDMAConnector

/-! ## The bytes written and the bytes of a layer -/

/-- A write places exactly `size` bytes. -/
def RDMAConnector.RemoteWrite.bytes (write : RDMAConnector.RemoteWrite) :
    Set Int :=
  Set.Ico write.offset (write.offset + write.size)

def RDMAConnector.SavedLayer.bytes (saved : RDMAConnector.SavedLayer) :
    Set Int :=
  { byte | ∃ write ∈ saved.writes, byte ∈ write.bytes }

/-- The share of a layer in the slot at `slotBaseOffset`. -/
def RDMAConnector.layerBytes
    (connector : RDMAConnector) (slotBaseOffset layerId : Int) : Set Int :=
  Set.Ico (slotBaseOffset + layerId * connector.layerSize)
    (slotBaseOffset + (layerId + 1) * connector.layerSize)

theorem RDMAConnector.SavedLayer.WrittenAt.mem_bytes
    {connector : RDMAConnector} {kvLayer : Tensor} {base : Int}
    {saved : RDMAConnector.SavedLayer}
    (written : saved.WrittenAt connector kvLayer base) {byte : Int} :
    byte ∈ saved.bytes ↔
      connector.rdmaAvailable = true ∧
        base + saved.layerId * connector.layerSize ≤ byte ∧
        byte <
          base + saved.layerId * connector.layerSize +
            2 * RDMAConnector.keyBytes kvLayer saved.request.slotMapping := by
  have shape :
      byte ∈ saved.bytes ↔
        ∃ range : Int × Nat,
          range ∈ saved.writes.map (fun write => (write.offset, write.size)) ∧
            range.1 ≤ byte ∧ byte < range.1 + range.2 := by
    simp [bytes, RDMAConnector.RemoteWrite.bytes]
  rw [shape, written.writes]
  by_cases available : connector.rdmaAvailable = true
  · simp only [available, if_true, List.mem_cons, List.not_mem_nil, or_false,
      exists_eq_or_imp, exists_eq_left, true_and]
    omega
  · simp [available]

/-- One layer of one request that a completed `save_kv_layer` has written, the
request carrying its slot. -/
structure CompletedSave where
  connector : RDMAConnector
  environment : RDMAConnector.SaveEnvironment
  layerName : List Char
  kvLayer : Tensor
  bindings : RDMABindings
  final : RDMABindings
  layers : List RDMAConnector.SavedLayer
  saved : RDMAConnector.SavedLayer
  completed :
    connector.saveKvLayer environment layerName kvLayer bindings =
      .ok (layers, final)
  member : saved ∈ layers
  slotBaseOffset : Int
  carried : saved.request.slotBaseOffset = some slotBaseOffset

namespace CompletedSave

/-- The base offset of the first request with the same tokens. -/
def matchedBase (save : CompletedSave) : Int :=
  (save.connector.offsetBase save.saved.request.tokenIds).getD 0

/-- The size of the keys, and of the values. -/
def keyBytes (save : CompletedSave) : Nat :=
  RDMAConnector.keyBytes save.kvLayer save.saved.request.slotMapping

def layerBytes (save : CompletedSave) : Set Int :=
  save.connector.layerBytes save.slotBaseOffset save.saved.layerId

/-- Nothing is written, or keys and values together fit into one layer and the
request found by its tokens has the right slot. -/
def Fits (save : CompletedSave) : Prop :=
  save.connector.rdmaAvailable = false ∨
    save.keyBytes = 0 ∨
      save.slotBaseOffset ≤ save.matchedBase ∧
        save.matchedBase + 2 * save.keyBytes ≤
          save.slotBaseOffset + save.connector.layerSize

/-- Two layers of one slot, or layers of slots that do not overlap. -/
def Separate (save other : CompletedSave) : Prop :=
  save.connector.layerSize = other.connector.layerSize ∧
    (save.slotBaseOffset = other.slotBaseOffset ∧
        save.saved.layerId ≠ other.saved.layerId ∨
      save.slotBaseOffset +
          save.connector.numLayers * save.connector.layerSize ≤
        other.slotBaseOffset ∨
      other.slotBaseOffset +
          other.connector.numLayers * other.connector.layerSize ≤
        save.slotBaseOffset)

theorem written (save : CompletedSave) :
    save.saved.WrittenAt save.connector save.kvLayer save.matchedBase := by
  obtain ⟨_, base, matching, written⟩ :=
    RDMAConnector.saveKvLayer_ok save.completed save.member
  rw [matchedBase, matching]
  exact written

theorem mem_bytes (save : CompletedSave) {byte : Int} :
    byte ∈ save.saved.bytes ↔
      save.connector.rdmaAvailable = true ∧
        save.matchedBase + save.saved.layerId * save.connector.layerSize ≤
          byte ∧
        byte <
          save.matchedBase + save.saved.layerId * save.connector.layerSize +
            2 * save.keyBytes :=
  save.written.mem_bytes

theorem within_layer_iff (save : CompletedSave) :
    save.saved.bytes ⊆ save.layerBytes ↔ save.Fits := by
  have next :
      (save.saved.layerId + 1 : Int) * save.connector.layerSize =
        save.saved.layerId * save.connector.layerSize +
          save.connector.layerSize := by
    rw [Int.add_mul, Int.one_mul]
  constructor
  · intro within
    by_cases available : save.connector.rdmaAvailable = true
    · refine Or.inr ?_
      by_cases empty : save.keyBytes = 0
      · exact Or.inl empty
      · have firstByte :=
          within
            (save.mem_bytes.mpr ⟨available, le_refl _, by omega⟩)
        have lastByte :
            save.matchedBase + save.saved.layerId * save.connector.layerSize +
                2 * save.keyBytes - 1 ∈ save.layerBytes :=
          within (save.mem_bytes.mpr ⟨available, by omega, by omega⟩)
        rw [layerBytes, RDMAConnector.layerBytes, Set.mem_Ico, next]
          at firstByte lastByte
        refine Or.inr ⟨?_, ?_⟩ <;> omega
    · exact Or.inl (by simpa using available)
  · intro fits byte member
    obtain ⟨available, lower, upper⟩ := save.mem_bytes.mp member
    rw [layerBytes, RDMAConnector.layerBytes, Set.mem_Ico, next]
    rcases fits with unavailable | empty | ⟨base, room⟩
    · simp [available] at unavailable
    · omega
    · constructor <;> omega

/-- A layer ends where the next begins, and the last one where the slot ends. -/
theorem layer_end
    (save : CompletedSave) {byte : Int} (member : byte ∈ save.layerBytes) :
    0 < save.connector.layerSize ∧
      ((save.saved.layerId + 1 : Int) * save.connector.layerSize ≤
        save.connector.numLayers * save.connector.layerSize) := by
  rw [layerBytes, RDMAConnector.layerBytes, Set.mem_Ico, Int.add_mul,
    Int.one_mul] at member
  have positive : 0 < save.connector.layerSize := by
    omega
  have below : (save.saved.layerId : Int) < save.connector.numLayers :=
    lt_of_mul_lt_mul_right save.written.layerInShare positive.le
  exact
    ⟨positive, Int.mul_le_mul_of_nonneg_right (by omega) positive.le⟩

theorem layerBytes_disjoint
    {save other : CompletedSave} (separate : save.Separate other) :
    Disjoint save.layerBytes other.layerBytes := by
  rw [Set.disjoint_left]
  intro byte member otherMember
  obtain ⟨positive, saveEnd⟩ := save.layer_end member
  obtain ⟨_, otherEnd⟩ := other.layer_end otherMember
  rw [layerBytes, RDMAConnector.layerBytes, Set.mem_Ico] at member otherMember
  obtain ⟨sameSize, ⟨sameBase, different⟩ | below | above⟩ := separate
  · rcases Nat.lt_or_gt_of_ne different with earlier | later
    · have apart :
          (save.saved.layerId + 1 : Int) * save.connector.layerSize ≤
            other.saved.layerId * save.connector.layerSize :=
        Int.mul_le_mul_of_nonneg_right (by omega) positive.le
      rw [sameSize] at apart member
      omega
    · have apart :
          (other.saved.layerId + 1 : Int) * save.connector.layerSize ≤
            save.saved.layerId * save.connector.layerSize :=
        Int.mul_le_mul_of_nonneg_right (by omega) positive.le
      rw [sameSize] at apart member
      omega
  · have start : 0 ≤ (other.saved.layerId : Int) * other.connector.layerSize :=
      Int.mul_nonneg (by omega) (by omega)
    omega
  · have start : 0 ≤ (save.saved.layerId : Int) * save.connector.layerSize :=
      Int.mul_nonneg (by omega) positive.le
    omega

end CompletedSave

/-- A completed save stays in its layer exactly when it fits, and saves that fit
do not overlap those of other layers or other slots. -/
theorem save_stays_in_layer_iff (save : CompletedSave) :
    (save.saved.bytes ⊆ save.layerBytes ↔ save.Fits) ∧
      ∀ other : CompletedSave,
        save.Fits → other.Fits → save.Separate other →
          Disjoint save.saved.bytes other.saved.bytes := by
  refine ⟨save.within_layer_iff, ?_⟩
  intro other fits otherFits separate
  exact
    (CompletedSave.layerBytes_disjoint separate).mono
      (save.within_layer_iff.mpr fits) (other.within_layer_iff.mpr otherFits)

/-! ## Prompts of 64 and 65 tokens -/

/-- A stored request for the first slot of the cache, repeated for each token. -/
def ConnectorRequest.stored
    (slotId slotBaseOffset : Int) (numTokens : Nat) : ConnectorRequest where
  tokenIds := [slotId]
  slotMapping := List.replicate numTokens 0
  isStore := true
  slotId := some slotId
  slotBaseOffset := some slotBaseOffset

/-- A prefill connector for two layers of one megabyte. -/
def RDMAConnector.twoLayerSender (request : ConnectorRequest) :
    RDMAConnector where
  role := .ofText "send"
  peerId := [2]
  layerSize := 1048576
  numLayers := 2
  metadata := some [request]

/-- Keys and values of 4096 float16 elements for each token. -/
def Tensor.pagedCache : Tensor where
  dataPtr := 4096
  shape := [2, 64, 16, 4096]
  elementSize := 2

def RDMAConnector.SaveEnvironment.accepting :
    RDMAConnector.SaveEnvironment where
  digits := .ascii
  accepts := fun _ _ _ => true
  address := fun _ => 4096
  requestHash := fun _ _ => 0

def RDMABindings.onePeer : RDMABindings where
  rdmaEngine := { RDMAEngine.onePeer with kvBufferMb := 16 }
  registeredRegions := [{ gpuPtr := 4096, size := 1073741824, lkey := 1 }]

/-- The save of layer 0 of a request by that connector. -/
structure CompletedSave.Sample
    (save : CompletedSave) (slotId slotBaseOffset : Int) (numTokens : Nat) :
    Prop where
  connector :
    save.connector =
      .twoLayerSender (.stored slotId slotBaseOffset numTokens)
  kvLayer : save.kvLayer = .pagedCache
  request : save.saved.request = .stored slotId slotBaseOffset numTokens
  layerId : save.saved.layerId = 0
  slotBaseOffset_eq : save.slotBaseOffset = slotBaseOffset

theorem CompletedSave.exists_sample
    {slotId slotBaseOffset : Int} {numTokens : Nat}
    (saves :
      ((RDMAConnector.twoLayerSender
            (.stored slotId slotBaseOffset numTokens)).saveKvLayer
          .accepting "model.layers.0.attn".toList .pagedCache .onePeer).map
          (fun returned =>
            returned.1.map fun saved => (saved.request, saved.layerId)) =
        .ok [(.stored slotId slotBaseOffset numTokens, 0)]) :
    ∃ save : CompletedSave, save.Sample slotId slotBaseOffset numTokens := by
  cases completed :
      (RDMAConnector.twoLayerSender
        (.stored slotId slotBaseOffset numTokens)).saveKvLayer
        .accepting "model.layers.0.attn".toList .pagedCache .onePeer with
  | error exception =>
      rw [completed] at saves
      cases saves
  | ok returned =>
      rw [completed] at saves
      obtain ⟨layers, final⟩ := returned
      have mapped :
          layers.map (fun saved => (saved.request, saved.layerId)) =
            [(.stored slotId slotBaseOffset numTokens, 0)] := by
        simpa [Except.map] using saves
      obtain ⟨saved, rfl, pair⟩ := List.map_eq_singleton_iff.mp mapped
      obtain ⟨request, layerId⟩ := Prod.mk.inj pair
      exact
        ⟨{ connector := _
           environment := _
           layerName := _
           kvLayer := _
           bindings := _
           final := final
           layers := [saved]
           saved := saved
           completed := completed
           member := List.mem_singleton_self saved
           slotBaseOffset := slotBaseOffset
           carried := by rw [request]; rfl },
          rfl, rfl, request, layerId, rfl⟩

theorem CompletedSave.Sample.keyBytes_eq
    {save : CompletedSave} {slotId slotBaseOffset : Int} {numTokens : Nat}
    (sample : save.Sample slotId slotBaseOffset numTokens) :
    save.keyBytes =
      RDMAConnector.keyBytes .pagedCache (List.replicate numTokens 0) := by
  rw [CompletedSave.keyBytes, sample.kvLayer, sample.request]
  rfl

theorem CompletedSave.Sample.matchedBase_eq
    {save : CompletedSave} {slotId slotBaseOffset : Int} {numTokens : Nat}
    (sample : save.Sample slotId slotBaseOffset numTokens) :
    save.matchedBase = slotBaseOffset := by
  simp [CompletedSave.matchedBase, RDMAConnector.offsetBase,
    RDMAConnector.matchingRequest, sample.connector, sample.request,
    RDMAConnector.twoLayerSender, ConnectorRequest.stored]

/-- The keys and values of 65 tokens take 8192 bytes each and run 16384 bytes
over the end of a layer of one megabyte. -/
theorem save_of_65_tokens_leaves_layer :
    ∃ save : CompletedSave,
      save.Sample 0 0 65 ∧ ¬ save.saved.bytes ⊆ save.layerBytes := by
  obtain ⟨save, sample⟩ : ∃ save : CompletedSave, save.Sample 0 0 65 :=
    CompletedSave.exists_sample (by decide +kernel)
  refine ⟨save, sample, ?_⟩
  have keys : save.keyBytes = 532480 := by
    rw [sample.keyBytes_eq]
    decide +kernel
  rw [save.within_layer_iff, CompletedSave.Fits, keys,
    sample.matchedBase_eq, sample.slotBaseOffset_eq, sample.connector]
  decide

/-- Saves of 64 tokens in two slots fill a layer each. -/
theorem saves_of_64_tokens_are_disjoint :
    ∃ save other : CompletedSave,
      save.Sample 0 0 64 ∧ other.Sample 1 2097152 64 ∧
        save.saved.bytes ⊆ save.layerBytes ∧
        Disjoint save.saved.bytes other.saved.bytes := by
  obtain ⟨save, sample⟩ : ∃ save : CompletedSave, save.Sample 0 0 64 :=
    CompletedSave.exists_sample (by decide +kernel)
  obtain ⟨other, otherSample⟩ :
      ∃ other : CompletedSave, other.Sample 1 2097152 64 :=
    CompletedSave.exists_sample (by decide +kernel)
  have keys :
      RDMAConnector.keyBytes .pagedCache (List.replicate 64 0) = 524288 := by
    decide +kernel
  have fits : save.Fits := by
    rw [CompletedSave.Fits, sample.keyBytes_eq, keys,
      sample.matchedBase_eq, sample.slotBaseOffset_eq, sample.connector]
    decide
  have otherFits : other.Fits := by
    rw [CompletedSave.Fits, otherSample.keyBytes_eq, keys,
      otherSample.matchedBase_eq, otherSample.slotBaseOffset_eq,
      otherSample.connector]
    decide
  have separate : save.Separate other := by
    rw [CompletedSave.Separate, sample.slotBaseOffset_eq,
      otherSample.slotBaseOffset_eq, sample.connector, otherSample.connector]
    exact ⟨rfl, Or.inr (Or.inl (by decide))⟩
  obtain ⟨within, disjoint⟩ := save_stays_in_layer_iff save
  exact
    ⟨save, other, sample, otherSample, within.mpr fits,
      disjoint other fits otherFits separate⟩

end RdmaKvCache
