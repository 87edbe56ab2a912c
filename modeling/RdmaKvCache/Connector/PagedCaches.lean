import Mathlib.Tactic.Ring
import Mathlib.Tactic.Zify
import RdmaKvCache.Connector.RdmaConnector
import RdmaKvCache.Library.RowTables

/-!
# The paged cache of a layer

vLLM keeps the keys and the values of a layer for every slot of its blocks.  A save
extracts the rows of the slots of a request, and a load injects rows into the
slots of a request.  Each node has blocks and slots of its own.

How a cache is laid out depends on the attention backend.  The keys and values
that are injected come as two planes of one row for each token, and are broadcast to
the shape they are assigned to.
-/

namespace RdmaKvCache

open RowTables RDMAConnector

inductive AttentionBackend where
  | mla
  | triton
  | standard
  deriving DecidableEq

/-- The slots of a block are next to each other. -/
structure PagedLayer (α : Type) where
  numBlocks : Nat
  blockSize : Nat
  hiddenDim : Nat
  keys : List (List α)
  values : List (List α)
  keysSize : keys.length = numBlocks * blockSize
  valuesSize : values.length = numBlocks * blockSize
  keysWidth : ∀ row ∈ keys, row.length = hiddenDim
  valuesWidth : ∀ row ∈ values, row.length = hiddenDim

/-- Two planes of rows of the same width. -/
structure KvRows (α : Type) (hiddenDim : Nat) where
  keys : List (List α)
  values : List (List α)
  keysWidth : ∀ row ∈ keys, row.length = hiddenDim
  valuesWidth : ∀ row ∈ values, row.length = hiddenDim

/-- An index below zero counts from the end. -/
def wrapIndex (length : Nat) (index : Int) : Nat :=
  if index < 0 then (index + length).toNat else index.toNat

theorem wrapIndex_lt
    {length : Nat} {index : Int} (valid : validIndex length index = true) :
    wrapIndex length index < length := by
  rw [validIndex, Bool.and_eq_true, decide_eq_true_eq, decide_eq_true_eq]
    at valid
  unfold wrapIndex
  split <;> omega

/-- One row is broadcast to any number of rows. -/
def expand {α : Type} (count : Nat) : List α → List α
  | [row] => List.replicate count row
  | rows => rows

theorem expand_of_length
    {α : Type} {count : Nat} {rows : List α} (sameLength : rows.length = count) :
    expand count rows = rows := by
  cases rows with
  | nil =>
      rfl
  | cons row rest =>
      cases rest with
      | nil =>
          rw [← sameLength]
          rfl
      | cons second others =>
          rfl

theorem mem_of_mem_expand
    {α : Type} {count : Nat} {rows : List α} {row : α}
    (member : row ∈ expand count rows) :
    row ∈ rows := by
  unfold expand at member
  split at member
  · rw [List.mem_replicate] at member
    rw [member.2]
    exact List.mem_singleton_self _
  · exact member

namespace PagedLayer

variable {α : Type}

def numSlots (layer : PagedLayer α) : Nat :=
  layer.numBlocks * layer.blockSize

def shape (layer : PagedLayer α) : List Nat :=
  [2, layer.numBlocks, layer.blockSize, layer.hiddenDim]

/-- `slot_mapping` as places in the flattened cache. -/
def places (layer : PagedLayer α) (slotMapping : List Int) : List Nat :=
  slotMapping.map (wrapIndex layer.numSlots)

def validSlots (layer : PagedLayer α) (slotMapping : List Int) : Bool :=
  slotMapping.all (validIndex layer.numSlots)

theorem places_lt
    {layer : PagedLayer α} {slotMapping : List Int}
    (valid : layer.validSlots slotMapping = true) :
    ∀ place ∈ layer.places slotMapping, place < layer.numSlots := by
  intro place member
  obtain ⟨slot, slotMember, rfl⟩ := List.mem_map.mp member
  exact wrapIndex_lt (List.all_eq_true.mp valid slot slotMember)

/-- A cache of four dimensions. -/
def extractKv (layer : PagedLayer α) (slotMapping : List Int) :
    Except ConnectorError (List (List α) × List (List α)) :=
  if layer.numSlots = 0 then
    .error (.invalidShape layer.shape)
  else if layer.validSlots slotMapping then
    match gather layer.keys (layer.places slotMapping),
      gather layer.values (layer.places slotMapping) with
    | some keys, some values => .ok (keys, values)
    | _, _ => .error .indexOutOfRange
  else
    .error .indexOutOfRange

/-- Rows of the right width are stored in both planes. -/
def store
    (layer : PagedLayer α) (places : List Nat)
    (rows : KvRows α layer.hiddenDim) : PagedLayer α where
  numBlocks := layer.numBlocks
  blockSize := layer.blockSize
  hiddenDim := layer.hiddenDim
  keys := scatter layer.keys (places.zip rows.keys)
  values := scatter layer.values (places.zip rows.values)
  keysSize := by
    rw [length_scatter, layer.keysSize]
  valuesSize := by
    rw [length_scatter, layer.valuesSize]
  keysWidth := by
    intro row member
    rcases mem_of_mem_scatter member with before | stored
    · exact layer.keysWidth row before
    · obtain ⟨entry, isEntry, rfl⟩ := List.mem_map.mp stored
      exact rows.keysWidth entry.2 (List.of_mem_zip isEntry).2
  valuesWidth := by
    intro row member
    rcases mem_of_mem_scatter member with before | stored
    · exact layer.valuesWidth row before
    · obtain ⟨entry, isEntry, rfl⟩ := List.mem_map.mp stored
      exact rows.valuesWidth entry.2 (List.of_mem_zip isEntry).2

end PagedLayer

namespace KvRows

variable {α : Type} {hiddenDim : Nat}

def expandRows (rows : KvRows α hiddenDim) (count : Nat) :
    KvRows α hiddenDim where
  keys := expand count rows.keys
  values := expand count rows.values
  keysWidth := fun row member => rows.keysWidth row (mem_of_mem_expand member)
  valuesWidth :=
    fun row member => rows.valuesWidth row (mem_of_mem_expand member)

/-- The planes as tokens and the tokens as planes, for two tokens. -/
def transpose (rows : KvRows α hiddenDim) : Option (KvRows α hiddenDim) :=
  match found : rows.keys, foundValues : rows.values with
  | [firstKey, secondKey], [firstValue, secondValue] =>
      some
        { keys := [firstKey, firstValue]
          values := [secondKey, secondValue]
          keysWidth := by
            have keysWidth := rows.keysWidth
            have valuesWidth := rows.valuesWidth
            rw [found] at keysWidth
            rw [foundValues] at valuesWidth
            simp_all
          valuesWidth := by
            have keysWidth := rows.keysWidth
            have valuesWidth := rows.valuesWidth
            rw [found] at keysWidth
            rw [foundValues] at valuesWidth
            simp_all }
  | _, _ => none

end KvRows

namespace PagedLayer

variable {α : Type}

/-- The blocks and offsets of a Triton cache, as places in the flattened cache. -/
def tritonPlaces
    (layer : PagedLayer α) (connectorBlockSize : Nat)
    (slotMapping : List Int) : Option (List Nat) :=
  let blockIdxs := slotMapping.map (Int.fdiv · connectorBlockSize)
  let offsets := slotMapping.map (Int.fmod · connectorBlockSize)
  if connectorBlockSize ≠ 0 ∧ blockIdxs.all (validIndex layer.numBlocks) ∧
      offsets.all (validIndex layer.blockSize) then
    some
      (List.zipWith
        (fun block offset =>
          wrapIndex layer.numBlocks block * layer.blockSize +
            wrapIndex layer.blockSize offset)
        blockIdxs offsets)
  else
    none

/-- The two planes have a dimension more than the flattened cache of MLA.  A
Triton cache has the tokens before the planes. -/
def injectKv
    (layer : PagedLayer α) (backend : AttentionBackend)
    (connectorBlockSize : Nat) (source : KvRows α layer.hiddenDim)
    (slotMapping : List Int) : Except ConnectorError (PagedLayer α) :=
  match backend with
  | .mla => .error .injectionFailed
  | .triton =>
      match layer.tritonPlaces connectorBlockSize slotMapping,
        (source.expandRows 2).transpose with
      | some places, some transposed =>
          if slotMapping.length = 2 then
            .ok (layer.store places transposed)
          else
            .error .injectionFailed
      | _, _ => .error .injectionFailed
  | .standard =>
      let rows := source.expandRows slotMapping.length
      if layer.numSlots = 0 then
        .error (.invalidShape layer.shape)
      else if !layer.validSlots slotMapping then
        .error .indexOutOfRange
      else if rows.keys.length = slotMapping.length ∧
          rows.values.length = slotMapping.length then
        .ok (layer.store (layer.places slotMapping) rows)
      else
        .error .injectionFailed

/-! ## What an injection restores -/

variable {layer : PagedLayer α} {slotMapping : List Int}

/-- The shape calculated for a save is that of the rows it extracts. -/
theorem extractKv_ok
    {keys values : List (List α)}
    (extracted : layer.extractKv slotMapping = .ok (keys, values)) :
    gather layer.keys (layer.places slotMapping) = some keys ∧
      gather layer.values (layer.places slotMapping) = some values ∧
      ∀ tensor : Tensor, tensor.shape = layer.shape →
        extractedShape tensor slotMapping =
          .ok [2, slotMapping.length, layer.hiddenDim] := by
  unfold extractKv at extracted
  split at extracted
  · cases extracted
  · rename_i hasSlots
    split at extracted
    · rename_i valid
      split at extracted
      · rename_i foundKeys foundValues isKeys isValues
        cases extracted
        refine ⟨isKeys, isValues, ?_⟩
        intro tensor sameShape
        have positive : 0 < 2 * (layer.numBlocks * layer.blockSize) := by
          have nonzero : layer.numBlocks * layer.blockSize ≠ 0 := hasSlots
          omega
        have divisible :
            2 * (layer.numBlocks * layer.blockSize) * layer.hiddenDim %
              (2 * (layer.numBlocks * layer.blockSize)) = 0 :=
          Nat.mul_mod_right _ _
        have validAll :
            slotMapping.all
              (validIndex (layer.numBlocks * layer.blockSize)) = true := valid
        simp only [extractedShape, sameShape, PagedLayer.shape, positive.ne',
          divisible, ne_eq, not_true_eq_false, or_false, if_false, validAll,
          if_true, Nat.mul_div_cancel_left _ positive]
      · cases extracted
    · cases extracted

theorem keys_length (layer : PagedLayer α) :
    layer.keys.length = layer.numSlots :=
  layer.keysSize

theorem values_length (layer : PagedLayer α) :
    layer.values.length = layer.numSlots :=
  layer.valuesSize

/-- Slots that no row is stored in keep their rows. -/
theorem store_elsewhere
    {places : List Nat} {rows : KvRows α layer.hiddenDim} {place : Nat}
    (elsewhere : place ∉ places) :
    (layer.store places rows).keys[place]? = layer.keys[place]? ∧
      (layer.store places rows).values[place]? = layer.values[place]? := by
  have notKey (stored : List (List α)) :
      place ∉ (places.zip stored).map Prod.fst := by
    intro member
    obtain ⟨entry, isEntry, rfl⟩ := List.mem_map.mp member
    exact elsewhere (List.of_mem_zip isEntry).1
  exact
    ⟨getElem?_scatter_of_not_mem (notKey _),
      getElem?_scatter_of_not_mem (notKey _)⟩

theorem gather_store
    {places : List Nat} (rows : KvRows α layer.hiddenDim)
    (distinct : places.Nodup)
    (within : ∀ place ∈ places, place < layer.numSlots)
    (keysNumber : rows.keys.length = places.length)
    (valuesNumber : rows.values.length = places.length) :
    gather (layer.store places rows).keys places = some rows.keys ∧
      gather (layer.store places rows).values places = some rows.values := by
  constructor
  · apply gather_scatter distinct ?_ keysNumber
    rw [layer.keys_length]
    exact within
  · apply gather_scatter distinct ?_ valuesNumber
    rw [layer.values_length]
    exact within

/-- Block and offset of a slot tell its place. -/
theorem wrapIndex_block
    {numBlocks blockSize : Nat} {slot : Int} (positive : 0 < blockSize)
    (valid : validIndex (numBlocks * blockSize) slot = true) :
    validIndex numBlocks (slot.fdiv blockSize) = true ∧
      validIndex blockSize (slot.fmod blockSize) = true ∧
      wrapIndex numBlocks (slot.fdiv blockSize) * blockSize +
          wrapIndex blockSize (slot.fmod blockSize) =
        wrapIndex (numBlocks * blockSize) slot := by
  have sizePositive : (0 : Int) < blockSize := by
    exact_mod_cast positive
  have decomposed := Int.mul_fdiv_add_fmod slot blockSize
  have offsetNonneg : 0 ≤ slot.fmod blockSize :=
    Int.fmod_nonneg_of_pos slot sizePositive
  have offsetLt : slot.fmod blockSize < blockSize :=
    Int.fmod_lt_of_pos slot sizePositive
  generalize slot.fdiv blockSize = block at *
  generalize slot.fmod blockSize = offset at *
  rw [validIndex, Bool.and_eq_true, decide_eq_true_eq, decide_eq_true_eq]
    at valid
  push_cast at valid
  have lower : -(numBlocks : Int) ≤ block := by
    by_contra below
    have step : block + 1 ≤ -(numBlocks : Int) := by
      omega
    have scaled := Int.mul_le_mul_of_nonneg_left step sizePositive.le
    rw [Int.mul_add, Int.mul_one, Int.mul_neg, Int.mul_comm _ (numBlocks : Int)]
      at scaled
    omega
  have upper : block < numBlocks := by
    by_contra above
    have step : (numBlocks : Int) ≤ block := by
      omega
    have scaled := Int.mul_le_mul_of_nonneg_left step sizePositive.le
    rw [Int.mul_comm _ (numBlocks : Int)] at scaled
    omega
  refine ⟨?_, ?_, ?_⟩
  · simp [validIndex, lower, upper]
  · simp only [validIndex, Bool.and_eq_true, decide_eq_true_eq]
    omega
  · have offsetIndex : wrapIndex blockSize offset = offset.toNat := by
      rw [wrapIndex, if_neg (by omega)]
    rw [offsetIndex]
    by_cases negative : block < 0
    · have scaled : (blockSize : Int) * block ≤ blockSize * (-1) :=
        Int.mul_le_mul_of_nonneg_left (by omega) sizePositive.le
      have slotNegative : slot < 0 := by
        omega
      rw [wrapIndex, wrapIndex, if_pos negative, if_pos slotNegative]
      zify
      rw [Int.toNat_of_nonneg (by omega), Int.toNat_of_nonneg offsetNonneg,
        Int.toNat_of_nonneg (by omega), ← decomposed]
      ring
    · have scaled : 0 ≤ (blockSize : Int) * block :=
        Int.mul_nonneg sizePositive.le (by omega)
      have slotNonneg : ¬ slot < 0 := by
        omega
      rw [wrapIndex, wrapIndex, if_neg negative, if_neg slotNonneg]
      zify
      rw [Int.toNat_of_nonneg (by omega), Int.toNat_of_nonneg offsetNonneg,
        Int.toNat_of_nonneg (by omega), ← decomposed]
      ring

theorem tritonPlaces_eq
    (valid : layer.validSlots slotMapping = true)
    (positive : 0 < layer.blockSize) :
    layer.tritonPlaces layer.blockSize slotMapping =
      some (layer.places slotMapping) := by
  have blocks (slot : Int) (member : slot ∈ slotMapping) :=
    wrapIndex_block positive (List.all_eq_true.mp valid slot member)
  have validBlocks :
      (slotMapping.map (Int.fdiv · layer.blockSize)).all
        (validIndex layer.numBlocks) = true := by
    rw [List.all_map, List.all_eq_true]
    exact fun slot member => (blocks slot member).1
  have validOffsets :
      (slotMapping.map (Int.fmod · layer.blockSize)).all
        (validIndex layer.blockSize) = true := by
    rw [List.all_map, List.all_eq_true]
    exact fun slot member => (blocks slot member).2.1
  simp only [tritonPlaces]
  rw [if_pos ⟨positive.ne', validBlocks, validOffsets⟩, List.zipWith_map,
    List.zipWith_self]
  exact
    congrArg some (List.map_congr_left fun slot member => (blocks slot member).2.2)

theorem injectKv_standard
    (connectorBlockSize : Nat) {source : KvRows α layer.hiddenDim}
    (hasSlots : layer.numSlots ≠ 0)
    (valid : layer.validSlots slotMapping = true)
    (keysNumber : source.keys.length = slotMapping.length)
    (valuesNumber : source.values.length = slotMapping.length) :
    layer.injectKv .standard connectorBlockSize source slotMapping =
      .ok (layer.store (layer.places slotMapping) source) := by
  have sameRows : source.expandRows slotMapping.length = source := by
    cases source
    simp only [KvRows.expandRows, expand_of_length keysNumber,
      expand_of_length valuesNumber]
  simp only [injectKv, sameRows]
  rw [if_neg hasSlots, valid, if_neg (by decide),
    if_pos ⟨keysNumber, valuesNumber⟩]

/-- Rows, one for each slot, and where they are found after an injection. -/
def Restores
    (injected : PagedLayer α) (places : List Nat) (keys values : List (List α)) :
    Prop :=
  gather injected.keys places = some keys ∧
    gather injected.values places = some values

theorem injectKv_triton
    {source : KvRows α layer.hiddenDim} (hasSlots : layer.numSlots ≠ 0)
    (valid : layer.validSlots slotMapping = true)
    (distinct : (layer.places slotMapping).Nodup)
    (keysNumber : source.keys.length = slotMapping.length)
    (valuesNumber : source.values.length = slotMapping.length) :
    (∃ injected,
        layer.injectKv .triton layer.blockSize source slotMapping =
            .ok injected ∧
          injected.Restores (layer.places slotMapping) source.keys
            source.values) ↔
      slotMapping.length = 2 ∧ source.keys[1]? = source.values[0]? := by
  have positive : 0 < layer.blockSize :=
    Nat.pos_of_ne_zero fun none => hasSlots (by rw [numSlots, none, Nat.mul_zero])
  rw [injectKv, tritonPlaces_eq valid positive]
  by_cases twoTokens : slotMapping.length = 2
  · rw [twoTokens] at keysNumber valuesNumber
    obtain ⟨firstKey, secondKey, isKeys⟩ := List.length_eq_two.mp keysNumber
    obtain ⟨firstValue, secondValue, isValues⟩ :=
      List.length_eq_two.mp valuesNumber
    have transposed :
        ∃ rows : KvRows α layer.hiddenDim,
          (source.expandRows 2).transpose = some rows ∧
            rows.keys = [firstKey, firstValue] ∧
            rows.values = [secondKey, secondValue] := by
      cases source
      cases isKeys
      cases isValues
      exact ⟨_, rfl, rfl, rfl⟩
    obtain ⟨rows, isTransposed, rowsKeys, rowsValues⟩ := transposed
    have placesNumber : (layer.places slotMapping).length = 2 := by
      rw [places, List.length_map, twoTokens]
    obtain ⟨storedKeys, storedValues⟩ :=
      gather_store rows distinct (places_lt valid)
        (by rw [rowsKeys, placesNumber]; rfl)
        (by rw [rowsValues, placesNumber]; rfl)
    simp only [isTransposed, twoTokens, if_true, Except.ok.injEq,
      exists_eq_left', Restores, storedKeys, storedValues, rowsKeys,
      rowsValues, isKeys, isValues, Option.some.injEq, List.cons.injEq,
      true_and, and_true, List.getElem?_cons_succ, List.getElem?_cons_zero]
    exact ⟨fun same => same.2, fun same => ⟨same.symm, same⟩⟩
  · simp only [twoTokens, if_false, false_and, iff_false, not_exists, not_and]
    intro injected completed
    split at completed <;> cases completed

/-- An injection of one row for each slot restores the rows with the standard
layout, never with that of MLA, and with that of Triton only if there are two tokens
and the key of the second is the value of the first.  With the standard layout all
other slots keep their rows. -/
theorem injection_restores_iff
    (layer : PagedLayer α) (backend : AttentionBackend)
    (source : KvRows α layer.hiddenDim) (slotMapping : List Int)
    (hasSlots : layer.numSlots ≠ 0)
    (valid : layer.validSlots slotMapping = true)
    (distinct : (layer.places slotMapping).Nodup)
    (keysNumber : source.keys.length = slotMapping.length)
    (valuesNumber : source.values.length = slotMapping.length) :
    ((∃ injected,
          layer.injectKv backend layer.blockSize source slotMapping =
              .ok injected ∧
            injected.Restores (layer.places slotMapping) source.keys
              source.values) ↔
        backend = .standard ∨
          backend = .triton ∧ slotMapping.length = 2 ∧
            source.keys[1]? = source.values[0]?) ∧
      ∀ injected,
        layer.injectKv .standard layer.blockSize source slotMapping =
            .ok injected →
          ∀ place, place ∉ layer.places slotMapping →
            injected.keys[place]? = layer.keys[place]? ∧
              injected.values[place]? = layer.values[place]? := by
  have placesNumber : (layer.places slotMapping).length = slotMapping.length :=
    List.length_map _
  have standard :=
    injectKv_standard layer.blockSize hasSlots valid keysNumber valuesNumber
  constructor
  · cases backend with
    | mla =>
        simp [injectKv]
    | triton =>
        rw [injectKv_triton hasSlots valid distinct keysNumber valuesNumber]
        simp
    | standard =>
        rw [standard]
        have restored :=
          gather_store source distinct (places_lt valid)
            (keysNumber.trans placesNumber.symm)
            (valuesNumber.trans placesNumber.symm)
        exact iff_of_true ⟨_, rfl, restored⟩ (Or.inl rfl)
  · intro injected completed place elsewhere
    rw [standard] at completed
    cases completed
    exact store_elsewhere elsewhere

/-- Two blocks of two slots. -/
def sampleLayer : PagedLayer Nat where
  numBlocks := 2
  blockSize := 2
  hiddenDim := 1
  keys := [[0], [1], [2], [3]]
  values := [[10], [11], [12], [13]]
  keysSize := rfl
  valuesSize := rfl
  keysWidth := by decide
  valuesWidth := by decide

def sampleRows : KvRows Nat sampleLayer.hiddenDim where
  keys := [[20], [21]]
  values := [[21], [31]]
  keysWidth := by decide
  valuesWidth := by decide

theorem injection_restores_iff_sampleLayer :
    (∃ injected,
        sampleLayer.injectKv .triton sampleLayer.blockSize sampleRows [3, -4] =
            .ok injected ∧
          injected.Restores [3, 0] sampleRows.keys sampleRows.values) ∧
      ¬ ∃ injected,
          sampleLayer.injectKv .mla sampleLayer.blockSize sampleRows [3, -4] =
              .ok injected ∧
            injected.Restores [3, 0] sampleRows.keys sampleRows.values := by
  have restores (backend : AttentionBackend) :=
    (injection_restores_iff sampleLayer backend sampleRows [3, -4] (by decide)
      (by decide) (by decide) rfl rfl).1
  refine ⟨(restores .triton).mpr (Or.inr ⟨rfl, rfl, rfl⟩), ?_⟩
  intro restored
  rcases (restores .mla).mp restored with standard | ⟨triton, _⟩
  · cases standard
  · cases triton

end PagedLayer

end RdmaKvCache
