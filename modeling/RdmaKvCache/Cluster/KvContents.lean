import RdmaKvCache.Connector.LoadedCaches
import RdmaKvCache.Connector.StagingContents

/-!
# The keys and values from cache to cache

A save extracts the rows of a request from the cache of a prefill node, its writes
place them in the staging buffer, and a load injects what it views there into the
cache of the decode node.  A load views the bytes at twice the offset of its layer,
so these are the rows it injects: those of whatever layer was saved there.
-/

namespace RdmaKvCache

open PlacedWrites RDMAConnector

/-! ## Rows in memory -/

/-- Row after row, element after element. -/
def rowBytes (rows : List (List Half)) : List UInt8 :=
  rows.flatten.flatMap Half.bytes

theorem length_flatMap_bytes (halves : List Half) :
    (halves.flatMap Half.bytes).length = 2 * halves.length := by
  induction halves with
  | nil =>
      rfl
  | cons half rest inductionHypothesis =>
      rw [List.flatMap_cons, List.length_append, inductionHypothesis,
        List.length_cons, Nat.mul_succ, Nat.add_comm]
      rfl

theorem length_rowBytes
    {rows : List (List Half)} {hiddenDim : Nat}
    (widths : ∀ row ∈ rows, row.length = hiddenDim) :
    (rowBytes rows).length = 2 * (rows.length * hiddenDim) := by
  rw [rowBytes, length_flatMap_bytes, length_flatten_of_widths widths]

/-- Elements that are stored one after the other. -/
theorem map_read_of_readRange
    {memory : Nat → UInt8} {address : Nat} {halves : List Half}
    (stored :
      readRange memory address (2 * halves.length) =
        halves.flatMap Half.bytes) :
    (List.range halves.length).map
        (fun index => Half.read memory (address + 2 * index)) =
      halves := by
  induction halves generalizing address with
  | nil =>
      rfl
  | cons half rest inductionHypothesis =>
      have total : 2 * (half :: rest).length = 2 + 2 * rest.length := by
        rw [List.length_cons, Nat.mul_succ, Nat.add_comm]
      rw [total, readRange_add, List.flatMap_cons] at stored
      have sameLength :
          (readRange memory address 2).length = half.bytes.length :=
        length_readRange memory address 2
      obtain ⟨isHalf, isRest⟩ := List.append_inj stored sameLength
      have first : Half.read memory address = half := by
        obtain ⟨low, rest⟩ := List.cons.inj isHalf
        obtain ⟨high, _⟩ := List.cons.inj rest
        exact Prod.ext low high
      have shift (index : Nat) :
          address + 2 * (index + 1) = address + 2 + 2 * index := by
        omega
      rw [List.length_cons, List.range_succ_eq_map, List.map_cons, List.map_map]
      simp only [Function.comp_def, Nat.succ_eq_add_one, shift]
      rw [inductionHypothesis isRest, Nat.mul_zero, Nat.add_zero, first]

theorem readRows_of_readRange
    {memory : Nat → UInt8} {address hiddenDim : Nat} {rows : List (List Half)}
    (widths : ∀ row ∈ rows, row.length = hiddenDim)
    (stored :
      readRange memory address (2 * (rows.length * hiddenDim)) =
        rowBytes rows) :
    readRows memory address rows.length hiddenDim = rows := by
  have total := length_flatten_of_widths widths
  rw [← total] at stored
  apply readRanges_of_readRange_flatten widths
  rw [← total, readRange]
  simp only [Nat.zero_add]
  exact map_read_of_readRange stored

/-! ## What a save takes out of its cache -/

namespace StagedSave

/-- The rows that the save has extracted from the cache of its layer, and that its
node has in its memory. -/
structure Extracts
    (save : StagedSave) (source : PagedLayer Half)
    (keys values : List (List Half)) : Prop where
  sameShape : save.kvLayer.shape = source.shape
  halfElements : save.kvLayer.elementSize = 2
  extracted :
    source.extractKv save.saved.request.slotMapping = .ok (keys, values)
  held :
    readRange save.memory save.keyPtr.toNat (save.keyBytes + save.keyBytes) =
      rowBytes keys ++ rowBytes values
  inMemory : save.keyPtr.toNat + save.keyBytes < 2 ^ 64

variable {save : StagedSave} {source : PagedLayer Half}
variable {keys values : List (List Half)}

theorem Extracts.widths (extracts : save.Extracts source keys values) :
    (∀ row ∈ keys, row.length = source.hiddenDim) ∧
      ∀ row ∈ values, row.length = source.hiddenDim := by
  obtain ⟨isKeys, isValues, _⟩ := PagedLayer.extractKv_ok extracts.extracted
  exact
    ⟨fun row member =>
        source.keysWidth row (RowTables.mem_of_gather isKeys member),
      fun row member =>
        source.valuesWidth row (RowTables.mem_of_gather isValues member)⟩

theorem Extracts.lengths (extracts : save.Extracts source keys values) :
    keys.length = save.saved.request.slotMapping.length ∧
      values.length = save.saved.request.slotMapping.length := by
  obtain ⟨isKeys, isValues, _⟩ := PagedLayer.extractKv_ok extracts.extracted
  constructor
  · exact (RowTables.length_gather isKeys).trans (List.length_map _)
  · exact (RowTables.length_gather isValues).trans (List.length_map _)

theorem Extracts.extractedShape (extracts : save.Extracts source keys values) :
    RDMAConnector.extractedShape save.kvLayer
        save.saved.request.slotMapping =
      .ok
        [2, save.saved.request.slotMapping.length, source.hiddenDim] :=
  (PagedLayer.extractKv_ok extracts.extracted).2.2 save.kvLayer
    extracts.sameShape

theorem Extracts.keyBytes_eq (extracts : save.Extracts source keys values) :
    save.keyBytes =
      2 * (save.saved.request.slotMapping.length * source.hiddenDim) := by
  rw [CompletedSave.keyBytes, RDMAConnector.keyBytes, extracts.extractedShape,
    extracts.halfElements]
  simp only [keyShape, List.prod_cons, List.prod_nil, Nat.mul_one]
  exact Nat.mul_comm _ _

/-- What is sent are the rows of the cache. -/
theorem Extracts.contents (extracts : save.Extracts source keys values) :
    save.keyContent = rowBytes keys ∧ save.valueContent = rowBytes values := by
  obtain ⟨keysWidth, _⟩ := extracts.widths
  have keysLength : (rowBytes keys).length = save.keyBytes := by
    rw [length_rowBytes keysWidth, extracts.lengths.1, extracts.keyBytes_eq]
  have sizeNat : (UInt64.ofNat save.keyBytes).toNat = save.keyBytes :=
    UInt64.toNat_ofNat_of_lt'
      ((Nat.le_add_left _ _).trans_lt extracts.inMemory)
  have isValuePtr :
      save.valuePtr.toNat = save.keyPtr.toNat + save.keyBytes := by
    have different :
        keyShape
            [2, save.saved.request.slotMapping.length, source.hiddenDim] ≠
          [2, save.saved.request.slotMapping.length, source.hiddenDim] := by
      simp [keyShape]
    rw [valuePtr, valueAddress, extracts.extractedShape]
    simp only
    rw [if_neg different, UInt64.toNat_add]
    change
      (save.keyPtr.toNat + (UInt64.ofNat save.keyBytes).toNat) % 2 ^ 64 = _
    rw [sizeNat]
    exact Nat.mod_eq_of_lt extracts.inMemory
  have held := extracts.held
  rw [readRange_add] at held
  obtain ⟨isKeys, isValues⟩ :=
    List.append_inj held ((length_readRange _ _ _).trans keysLength.symm)
  rw [keyContent, valueContent, isValuePtr]
  exact ⟨isKeys, isValues⟩

end StagedSave

/-! ## From cache to cache -/

theorem CompletedLoad.numTokens_eq
    (load : CompletedLoad) :
    ∀ loaded ∈ load.loadedLayers,
      loaded.view.numTokens = loaded.request.slotMapping.length := by
  intro loaded member
  have completed := load.completed
  unfold RDMAConnector.startLoadKv at completed
  split at completed
  · split at completed
    · obtain ⟨request, _, requestLayers, requestLoaded, inRequest⟩ :=
        RDMAConnector.mem_collect completed member
      obtain ⟨layer, _, layerLoads, layerLoaded, inLayer⟩ :=
        RDMAConnector.mem_collect requestLoaded inRequest
      obtain ⟨sameRequest, base, hiddenDim, _, viewed⟩ :=
        RDMAConnector.loadLayer_ok layerLoaded inLayer
      rw [sameRequest]
      exact (RDMAConnector.loadKvFromStagingBuffer_ok viewed).1
    · rw [← Except.ok.inj completed] at member
      cases member
  · rw [← Except.ok.inj completed] at member
    cases member

/-- One block of two slots, as the node of the first save has it. -/
def sampleSource : PagedLayer Half where
  numBlocks := 1
  blockSize := 2
  hiddenDim := 1
  keys := [[(9, 9)], [(0, 1)]]
  values := [[(8, 8)], [(2, 3)]]
  keysSize := rfl
  valuesSize := rfl
  keysWidth := by decide
  valuesWidth := by decide

theorem firstSave_extracts :
    StagedSave.firstSave.Extracts sampleSource [[(0, 1)]] [[(2, 3)]] where
  sameShape := rfl
  halfElements := rfl
  extracted := rfl
  held := by decide +kernel
  inMemory := by decide +kernel

/-- Two blocks of two slots. -/
def sampleDestination : PagedLayer Half where
  numBlocks := 2
  blockSize := 2
  hiddenDim := 1
  keys := List.replicate 4 [(7, 7)]
  values := List.replicate 4 [(7, 7)]
  keysSize := rfl
  valuesSize := rfl
  keysWidth := by decide
  valuesWidth := by decide

def sampleCaches : LayerCaches := fun layerName =>
  if layerName = "layers.0".toList then some sampleDestination else none

/-- The request has the last slot on the decode node. -/
def sampleLastSlot : ConnectorRequest where
  tokenIds := [7]
  slotMapping := [3]
  isStore := false
  slotId := some 0
  slotBaseOffset := some 0

def sampleLoaded : RDMAConnector.LoadedLayer where
  request := sampleLastSlot
  layerName := "layers.0".toList
  layerId := 0
  view := { start := 0, numTokens := 1, hiddenDim := 1 }

def sampleLoad : CompletedLoad where
  connector :=
    { role := .ofText "recv"
      peerId := [1]
      layerSize := 4
      numLayers := 2
      metadata := some [sampleLastSlot]
      stagingBuffer := some 4 }
  environment := { digits := .ascii, injects := fun _ _ _ => true }
  layers :=
    some
      [{ layerName := "layers.0".toList, kvCacheShape := some [2, 2, 2, 1] }]
  loadedLayers := [sampleLoaded]
  loaded := sampleLoaded
  completed := rfl
  member := List.mem_cons_self

/-- After the first layer has been delivered. -/
def sampleDecodeMemory : DecodeMemory where
  memory := deliverAll (fun _ => 0) StagedSave.firstSave.deliveries
  stagingAddr := (0x10000 : UInt64).toNat
  backend := .standard
  blockSize := 2

end RdmaKvCache
