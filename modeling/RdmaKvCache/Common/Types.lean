import Mathlib.Algebra.Group.Int.Defs
import Mathlib.Algebra.Group.Nat.Defs
import Mathlib.Data.List.AList
import Mathlib.Data.Nat.Basic

/-!
# Shared data types of the cluster

The records exchanged between the orchestrator and its nodes, field for field
as `common/types.h` declares them.  Fixed-width integers keep their width:
`int` is `Int32`, `size_t` is `UInt64`.  A `std::string` is the list of its
bytes and a `std::unordered_map` is an association list without repeated keys.

An enumeration of the source is stored as an `int`, so a value read from the
wire need not be one of the enumerators.  Each enumeration below therefore has
one more constructor for the remaining codes, which by its type cannot hold the
code of a named enumerator.
-/

namespace RdmaKvCache

/-- The bytes of a `std::string`. -/
abbrev ByteString := List UInt8

instance ByteString.lawfulBEq : LawfulBEq ByteString :=
  inferInstance

instance ByteString.lawfulOrderLT : Std.LawfulOrderLT ByteString :=
  inferInstance

/-- The bytes of a string literal of the source. -/
def ByteString.ofText (text : String) : ByteString :=
  text.toUTF8.data.toList

/-- A `std::unordered_map`, up to the order of iteration. -/
abbrev UnorderedMap (key value : Type) :=
  AList (fun _ : key => value)

/-- The codes of an enumeration that none of its first `named` enumerators has. -/
abbrev UnlistedCode (named : Int32) :=
  { code : Int32 // ¬ (0 ≤ code ∧ code < named) }

structure KVMetaData where
  numLayers : UInt32
  numTokens : UInt32
  deriving DecidableEq

inductive NodeRole where
  | orchestrator
  | prefill
  | decode
  | unlisted (code : UnlistedCode 3)
  deriving DecidableEq

/-- Both ends of the queue pair between one node and one of its peers. -/
structure PeerInfoandQPs where
  peerNodeId : ByteString
  localQpNum : UInt32
  localLid : UInt16
  localGid : Vector UInt8 16
  localPsn : UInt32
  remoteQpNum : UInt32
  remoteLid : UInt16
  remoteGid : Vector UInt8 16
  remotePsn : UInt32
  remoteRkey : UInt64
  remoteAddr : UInt64
  deriving DecidableEq

structure NodeInfo where
  nodeId : ByteString
  role : NodeRole
  ipAddress : ByteString
  tcpPort : UInt16
  nodeOwnOrchestratorFd : Int32
  nodeOtherNodeFd : List (ByteString × Int32)
  vllmPort : UInt16
  isHealthy : Bool
  gpuId : Int32
  gpuName : ByteString
  gpuNuma : Int32
  gpuMemBytes : UInt64
  ibDevName : ByteString
  ibPort : Int32
  ibNuma : Int32
  ibSpeedGbps : UInt64
  gpuBaseAddr : UInt64
  lkey : UInt64
  rkey : UInt64
  memoryPoolSize : UInt64
  qmaps : List PeerInfoandQPs
  deriving DecidableEq

/-- A healthy node of which only the name and the role matter. -/
def NodeInfo.healthy (nodeId : ByteString) (role : NodeRole) : NodeInfo where
  nodeId := nodeId
  role := role
  ipAddress := []
  tcpPort := 0
  nodeOwnOrchestratorFd := -1
  nodeOtherNodeFd := []
  vllmPort := 0
  isHealthy := true
  gpuId := 0
  gpuName := []
  gpuNuma := 0
  gpuMemBytes := 0
  ibDevName := []
  ibPort := 0
  ibNuma := 0
  ibSpeedGbps := 0
  gpuBaseAddr := 0
  lkey := 0
  rkey := 0
  memoryPoolSize := 0
  qmaps := []

inductive MessageType where
  | clientRequest
  | clientResponse
  | clientError
  | rdmaProcessRegistration
  | assignRequest
  | prefillComplete
  | prepareDecodeSlot
  | broadcastMemberInfo
  | rdmaRegistrationComplete
  | prefillCompleteOrchestrator
  | decodeComplete
  | requestFailed
  | rdmaReady
  | transferReady
  | kvChunkArrived
  | kvLayerArrived
  | layerReadyForDecode
  | kvTransferComplete
  | unlisted (code : UnlistedCode 18)
  deriving DecidableEq

/-- One inference request as it travels between the processes.  `slotId` and
`slotBaseOffset` are set by the router. -/
structure RequestInfo where
  requestId : ByteString
  prompt : ByteString
  maxTokens : Int32
  prefillNodeId : ByteString
  decodeNodeId : ByteString
  slotId : Int32 := -1
  slotBaseOffset : UInt64 := 0
  timestampCreated : UInt64
  timestampPrefillStart : UInt64
  timestampPrefillDone : UInt64
  timestampDecodeStart : UInt64
  timestampDecodeDone : UInt64
  deriving DecidableEq

inductive RequestStatus where
  | pending
  | prefilling
  | transferring
  | decoding
  | completed
  | failed
  | error
  | unlisted (code : UnlistedCode 7)
  deriving DecidableEq

/-! ## Sizes -/

/-- A nonnegative `int` converted to `size_t` keeps its value. -/
theorem toUInt64_toNat {value : Int32} (nonneg : 0 ≤ value) :
    value.toInt64.toUInt64.toNat = value.toInt.toNat := by
  have widened : 0 ≤ value.toInt64 := by
    rw [Int64.le_iff_toInt_le, Int32.toInt_toInt64]
    exact Int32.le_iff_toInt_le.mp nonneg
  rw [Int64.toNat_toUInt64_of_le widened, Int64.toNatClampNeg,
    Int32.toInt_toInt64]

/-- Any `int` converted to `size_t` wraps around. -/
theorem toUInt64_toNat_eq_emod (value : Int32) :
    (value.toInt64.toUInt64.toNat : Int) = value.toInt % (2 ^ 64 : Nat) := by
  have widened : value.toInt64.toBitVec.toInt = value.toInt :=
    Int32.toInt_toInt64 value
  have bound : value.toInt64.toUInt64.toNat < 2 ^ 64 :=
    value.toInt64.toUInt64.toNat_lt
  rw [← widened, BitVec.toInt_eq_toNat_bmod, Int.bmod_emod]
  exact (Int.emod_eq_of_lt (Int.natCast_nonneg _) (Int.ofNat_lt.mpr bound)).symm

/-- Sizes are given in megabytes and multiplied out in `size_t`. -/
theorem megabytes_toNat (size : UInt64) :
    (size * 1024 * 1024).toNat = size.toNat % 2 ^ 44 * 2 ^ 20 := by
  have kilo : (1024 : UInt64).toNat = 1024 := rfl
  rw [UInt64.toNat_mul, UInt64.toNat_mul, kilo, Nat.mod_mul_mod, Nat.mul_assoc]
  omega

end RdmaKvCache
