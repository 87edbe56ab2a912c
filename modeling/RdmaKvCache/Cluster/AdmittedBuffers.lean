import RdmaKvCache.Cluster.SlotAddresses
import RdmaKvCache.Node.LayerExtents

/-!
# Buffers a node starts with

`Node::start` compares the size of the buffer with `required_mb`, the product of
the numbers of layers and slots and the size of a layer.  The product is a
`size_t` in megabytes, the layout of the buffer is in bytes, and the numbers of
slots and layers are `int`s there; nothing keeps any of this from wrapping around.

A buffer that passes holds all slots exactly if the configured values are in
range.
-/

namespace RdmaKvCache

open RequestTrackerLayer

/-! ## Reading the sizes -/

/-- The values of section `memory`; a key may be missing. -/
structure MemoryKeys where
  kvBufferMb : Option UInt64 := none
  layerSizeMb : Option UInt64 := none
  maxConcurrentRequests : Option Int32 := none

/-- The values of a configuration file that sizes are read from. -/
structure SizeKeys where
  numLayers : Option UInt32 := none
  memory : Option MemoryKeys := none

def MemoryConfig.ofKeys (keys : MemoryKeys) : MemoryConfig where
  kvBufferMb := keys.kvBufferMb.getD 1024
  layerSizeMb := keys.layerSizeMb.getD 128
  maxConcurrentRequests := keys.maxConcurrentRequests.getD 8

namespace LoadedConfig

/-- Without the section the sizes are those a `MemoryConfig` has by itself. -/
def ofKeys (nodeId role : ByteString) (keys : SizeKeys) : LoadedConfig :=
  .fromFile
    { nodeId := nodeId
      role := role
      numLayers := keys.numLayers.getD 12
      memory := (keys.memory.map MemoryConfig.ofKeys).getD {} }

end LoadedConfig

/-! ## What a buffer has to hold -/

/-- The offset of a layer and the sizes it is computed from, as numbers. -/
structure RequestTrackerLayer.MemoryLayout.PlacesLayer
    (layout : MemoryLayout) (numLayers layerBytes : Nat) (slot layerId : Int32) :
    Prop where
  requestSize : layout.getRequestSize.toNat = numLayers * layerBytes
  slotBaseOffset :
    (layout.getSlotBaseOffset slot).toNat =
      slot.toInt.toNat * (numLayers * layerBytes)
  layerOffset :
    (layout.getLayerOffset slot layerId).toNat =
      slot.toInt.toNat * (numLayers * layerBytes) +
        layerId.toInt.toNat * layerBytes

namespace Config

variable {config : Config}

/-- The megabytes that all slots take together. -/
def slotsMb (config : Config) : Nat :=
  config.numLayers.toNat * config.memory.layerSizeMb.toNat *
    config.memory.maxConcurrentRequests.toInt.toNat

/-- The slots are there, fit into the buffer and are where the layout says. -/
structure HoldsEverySlot (config : Config) : Prop where
  slotsMb_le : config.slotsMb ≤ config.memory.kvBufferMb.toNat
  slots : 0 ≤ config.memory.maxConcurrentRequests
  layers : 0 ≤ config.memoryLayout.numLayers
  bufferBytes :
    config.memoryLayout.bufferSizeBytes.toNat =
      config.memory.kvBufferMb.toNat * 2 ^ 20
  layerBytes :
    config.memoryLayout.layerSizeBytes.toNat =
      config.memory.layerSizeMb.toNat * 2 ^ 20
  offsets :
    ∀ slot layerId, 0 ≤ slot →
      slot < config.memoryLayout.maxConcurrentRequests →
        0 ≤ layerId → layerId < config.memoryLayout.numLayers →
          config.memoryLayout.PlacesLayer config.numLayers.toNat
            (config.memory.layerSizeMb.toNat * 2 ^ 20) slot layerId

/-- Sizes in bytes and the size of all slots are `size_t`s, the number of layers
is an `int`, and the number of slots is not negative. -/
structure SizesInRange (config : Config) : Prop where
  slotsMb_lt : config.slotsMb < 2 ^ 64
  slots : 0 ≤ config.memory.maxConcurrentRequests
  layers : config.numLayers.toNat < 2 ^ 31
  buffer : config.memory.kvBufferMb.toNat < 2 ^ 44
  layer : config.memory.layerSizeMb.toNat < 2 ^ 44

/-! ## The check -/

theorem requiredMb_le_of_bufferSuffices
    (passes : config.bufferSuffices = true) :
    config.memory.requiredMb.toNat ≤ config.memory.kvBufferMb.toNat := by
  rw [bufferSuffices, Bool.not_eq_true', decide_eq_false_iff_not,
    UInt64.not_lt, UInt64.le_iff_toNat_le] at passes
  exact passes

/-- The product is computed modulo `2 ^ 64`. -/
theorem computeRequiredMb_toNat
    (slots : 0 ≤ config.memory.maxConcurrentRequests) :
    config.computeRequiredMb.toNat = config.slotsMb % 2 ^ 64 := by
  rw [computeRequiredMb, UInt64.toNat_mul, UInt64.toNat_mul,
    UInt32.toNat_toUInt64, toUInt64_toNat slots, Nat.mod_mul_mod, slotsMb]

theorem megabytes_exact_iff (size : UInt64) :
    (size * 1024 * 1024).toNat = size.toNat * 2 ^ 20 ↔
      size.toNat < 2 ^ 44 := by
  rw [megabytes_toNat]
  omega

theorem SizesInRange.bufferBytes (inRange : config.SizesInRange) :
    config.memoryLayout.bufferSizeBytes.toNat =
      config.memory.kvBufferMb.toNat * 2 ^ 20 :=
  (megabytes_exact_iff config.memory.kvBufferMb).mpr inRange.buffer

theorem SizesInRange.layerBytes (inRange : config.SizesInRange) :
    config.memoryLayout.layerSizeBytes.toNat =
      config.memory.layerSizeMb.toNat * 2 ^ 20 :=
  (megabytes_exact_iff config.memory.layerSizeMb).mpr inRange.layer

theorem SizesInRange.numLayers_toNat (inRange : config.SizesInRange) :
    config.memoryLayout.numLayers.toInt.toNat = config.numLayers.toNat := by
  have nonneg : 0 ≤ config.numLayers.toInt32 :=
    toInt32_nonneg_iff.mpr inRange.layers
  exact toNat_toInt32 (Int32.le_iff_toInt_le.mp nonneg)

end Config

namespace LoadedConfig

variable {config : LoadedConfig}

/-- In range, a buffer that passes is large enough. -/
theorem slotsMb_le
    (passes : config.bufferSuffices = true)
    (inRange : config.SizesInRange) :
    config.slotsMb ≤ config.memory.kvBufferMb.toNat := by
  have enough := Config.requiredMb_le_of_bufferSuffices passes
  rw [config.requiredMb_eq, Config.computeRequiredMb_toNat inRange.slots,
    Nat.mod_eq_of_lt inRange.slotsMb_lt] at enough
  exact enough

/-- Such a buffer is one the request tracker lays out without overlaps. -/
theorem memoryLayout_fits
    (passes : config.bufferSuffices = true)
    (inRange : config.SizesInRange)
    (slots : 0 < config.memoryLayout.maxConcurrentRequests)
    (layers : 0 < config.memoryLayout.numLayers) :
    config.memoryLayout.Fits where
  slots := slots
  layers := layers
  size := by
    have enough := slotsMb_le passes inRange
    have inBytes :=
      Nat.mul_le_mul_right (2 ^ 20) enough
    rw [inRange.numLayers_toNat, inRange.layerBytes, inRange.bufferBytes]
    calc
      config.memory.maxConcurrentRequests.toInt.toNat *
            config.numLayers.toNat *
          (config.memory.layerSizeMb.toNat * 2 ^ 20) =
          config.slotsMb * 2 ^ 20 := by
        rw [Config.slotsMb]
        ac_rfl
      _ ≤ config.memory.kvBufferMb.toNat * 2 ^ 20 := inBytes

theorem placesLayer
    {slot layerId : Int32} (passes : config.bufferSuffices = true)
    (inRange : config.SizesInRange) (slotNonneg : 0 ≤ slot)
    (slotBelow : slot < config.memoryLayout.maxConcurrentRequests)
    (layerNonneg : 0 ≤ layerId)
    (layerBelow : layerId < config.memoryLayout.numLayers) :
    config.memoryLayout.PlacesLayer config.numLayers.toNat
      (config.memory.layerSizeMb.toNat * 2 ^ 20) slot layerId := by
  have fits :=
    memoryLayout_fits passes inRange
      (Int32.lt_of_le_of_lt slotNonneg slotBelow)
      (Int32.lt_of_le_of_lt layerNonneg layerBelow)
  rw [← inRange.layerBytes, ← inRange.numLayers_toNat]
  have offset (index : Nat)
      (bound : index < config.memoryLayout.numLayers.toInt.toNat) :=
    getLayerOffset_toNat fits slotNonneg slotBelow bound
  have isNonneg := Int32.le_iff_toInt_le.mp layerNonneg
  have isBelow := Int32.lt_iff_toInt_lt.mp layerBelow
  rw [Int32.toInt_zero] at isNonneg
  have sameLayer : Int32.ofNat layerId.toInt.toNat = layerId :=
    Int32.ofNat_toNatClampNeg layerId layerNonneg
  refine ⟨getRequestSize_toNat fits, ?_, ?_⟩
  · have base := offset 0 (by omega)
    rw [Nat.zero_mul, Nat.add_zero] at base
    rw [← base, MemoryLayout.getLayerOffset]
    have zero : (Int32.ofNat 0).toInt64.toUInt64 = 0 := rfl
    rw [zero, UInt64.zero_mul, UInt64.add_zero]
  · rw [← offset layerId.toInt.toNat (by omega), sameLayer]

end LoadedConfig

/-- A buffer that passes the check of `Node::start` holds every slot exactly if
the sizes are in range. -/
theorem holdsEverySlot_iff
    {config : LoadedConfig} (passes : config.bufferSuffices = true) :
    config.HoldsEverySlot ↔ config.SizesInRange := by
  constructor
  · intro holds
    have bufferBound := config.memory.kvBufferMb.toNat_lt
    exact
      { slotsMb_lt := lt_of_le_of_lt holds.slotsMb_le bufferBound
        slots := holds.slots
        layers := toInt32_nonneg_iff.mp holds.layers
        buffer :=
          (Config.megabytes_exact_iff config.memory.kvBufferMb).mp
            holds.bufferBytes
        layer :=
          (Config.megabytes_exact_iff config.memory.layerSizeMb).mp
            holds.layerBytes }
  · intro inRange
    exact
      { slotsMb_le := config.slotsMb_le passes inRange
        slots := inRange.slots
        layers := toInt32_nonneg_iff.mpr inRange.layers
        bufferBytes := inRange.bufferBytes
        layerBytes := inRange.layerBytes
        offsets := by
          intro slot layerId slotNonneg slotBelow layerNonneg layerBelow
          exact
            LoadedConfig.placesLayer passes inRange slotNonneg slotBelow
              layerNonneg layerBelow }

/-- A file that gives no sizes. -/
def LoadedConfig.defaultSizes : LoadedConfig :=
  .ofKeys [1] (.ofText "decode") {}

theorem holdsEverySlot_defaultSizes :
    LoadedConfig.defaultSizes.bufferSuffices = true ∧
      LoadedConfig.defaultSizes.HoldsEverySlot := by
  have passes : LoadedConfig.defaultSizes.bufferSuffices = true := by
    decide
  refine ⟨passes, (holdsEverySlot_iff passes).mpr ?_⟩
  constructor <;>
    decide

/-- 32 layers of `2 ^ 56` MB for eight requests, which are zero MB modulo
`2 ^ 64`. -/
def LoadedConfig.wrappingSizes : LoadedConfig :=
  .ofKeys [1] (.ofText "decode")
    { numLayers := some 32
      memory :=
        some
          { kvBufferMb := some 1024
            layerSizeMb := some 72057594037927936
            maxConcurrentRequests := some 8 } }

/-- A buffer of one gigabyte passes for them. -/
theorem wrappingSizes_not_holdsEverySlot :
    LoadedConfig.wrappingSizes.bufferSuffices = true ∧
      ¬ LoadedConfig.wrappingSizes.HoldsEverySlot := by
  refine ⟨by decide, ?_⟩
  intro holds
  exact absurd holds.slotsMb_le (by decide)

/-- Neither do negative numbers of slots fail the check. -/
example :
    let config :=
      LoadedConfig.ofKeys [1] (.ofText "decode")
        { numLayers := some 4
          memory :=
            some
              { layerSizeMb := some 4611686018427387904
                maxConcurrentRequests := some (-1) } }
    config.bufferSuffices = true ∧ ¬ 0 ≤ config.memory.maxConcurrentRequests := by
  decide

end RdmaKvCache
