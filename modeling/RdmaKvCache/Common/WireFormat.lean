import RdmaKvCache.Common.Messages
import RdmaKvCache.Library.ByteOrders
import RdmaKvCache.Library.CheckedReaders

/-!
# The wire format of messages

`serialize_message` appends the fields of a message to a buffer one after the
other and `deserialize_message` reads them back in the same order.  Numbers are
sent with the most significant byte first, a string and a list after the number
of their elements, an enumerator as one byte.

Memory is taken to suffice for every list that is announced.
-/

namespace RdmaKvCache

open ByteOrders CheckedReaders

/-! ## Enumerators -/

def NodeRole.code : NodeRole → Int32
  | .orchestrator => 0
  | .prefill => 1
  | .decode => 2
  | .unlisted code => code

def NodeRole.ofCode (code : Int32) : NodeRole :=
  if listed : 0 ≤ code ∧ code < 3 then
    match code.toInt with
    | 0 => .orchestrator
    | 1 => .prefill
    | _ => .decode
  else
    .unlisted ⟨code, listed⟩

def RequestStatus.code : RequestStatus → Int32
  | .pending => 0
  | .prefilling => 1
  | .transferring => 2
  | .decoding => 3
  | .completed => 4
  | .failed => 5
  | .error => 6
  | .unlisted code => code

def RequestStatus.ofCode (code : Int32) : RequestStatus :=
  if listed : 0 ≤ code ∧ code < 7 then
    match code.toInt with
    | 0 => .pending
    | 1 => .prefilling
    | 2 => .transferring
    | 3 => .decoding
    | 4 => .completed
    | 5 => .failed
    | _ => .error
  else
    .unlisted ⟨code, listed⟩

def MessageType.code : MessageType → Int32
  | .clientRequest => 0
  | .clientResponse => 1
  | .clientError => 2
  | .rdmaProcessRegistration => 3
  | .assignRequest => 4
  | .prefillComplete => 5
  | .prepareDecodeSlot => 6
  | .broadcastMemberInfo => 7
  | .rdmaRegistrationComplete => 8
  | .prefillCompleteOrchestrator => 9
  | .decodeComplete => 10
  | .requestFailed => 11
  | .rdmaReady => 12
  | .transferReady => 13
  | .kvChunkArrived => 14
  | .kvLayerArrived => 15
  | .layerReadyForDecode => 16
  | .kvTransferComplete => 17
  | .unlisted code => code

def MessageType.ofCode (code : Int32) : MessageType :=
  if listed : 0 ≤ code ∧ code < 18 then
    match code.toInt with
    | 0 => .clientRequest
    | 1 => .clientResponse
    | 2 => .clientError
    | 3 => .rdmaProcessRegistration
    | 4 => .assignRequest
    | 5 => .prefillComplete
    | 6 => .prepareDecodeSlot
    | 7 => .broadcastMemberInfo
    | 8 => .rdmaRegistrationComplete
    | 9 => .prefillCompleteOrchestrator
    | 10 => .decodeComplete
    | 11 => .requestFailed
    | 12 => .rdmaReady
    | 13 => .transferReady
    | 14 => .kvChunkArrived
    | 15 => .kvLayerArrived
    | 16 => .layerReadyForDecode
    | _ => .kvTransferComplete
  else
    .unlisted ⟨code, listed⟩

/-- An `int` converted to `uint8_t`. -/
def byteOfCode (code : Int32) : UInt8 :=
  code.toUInt32.toUInt8

/-- A `uint8_t` converted to an enumeration. -/
def codeOfByte (byte : UInt8) : Int32 :=
  byte.toUInt32.toInt32

/-! ## Low-level write helpers -/

def writeUint8 (v : UInt8) : ByteString :=
  [v]

def writeUint16 (v : UInt16) : ByteString :=
  [(v >>> 8).toUInt8, (v &&& 0xFF).toUInt8]

def writeUint32 (v : UInt32) : ByteString :=
  bigEndian 4 v.toNat

def writeUint64 (v : UInt64) : ByteString :=
  writeUint32 (v >>> 32).toUInt32 ++ writeUint32 (v &&& 0xFFFFFFFF).toUInt32

def writeString (s : ByteString) : ByteString :=
  writeUint32 (UInt32.ofNat s.length) ++ s

/-! ## Low-level read helpers -/

abbrev ByteReader (α : Type) :=
  Reader UInt8 α

def readUint8 : ByteReader UInt8 := do
  let bytes ← Reader.block 1
  pure (bytes.getD 0 0)

def readUint16 : ByteReader UInt16 := do
  let bytes ← Reader.block 2
  pure ((bytes.getD 0 0).toUInt16 <<< 8 ||| (bytes.getD 1 0).toUInt16)

def readUint32 : ByteReader UInt32 := do
  let bytes ← Reader.block 4
  pure (UInt32.ofNat (ofBigEndian bytes))

def readUint64 : ByteReader UInt64 := do
  let bytes ← Reader.block 8
  let hi := UInt32.ofNat (ofBigEndian (bytes.take 4))
  let lo := UInt32.ofNat (ofBigEndian (bytes.drop 4))
  pure (hi.toUInt64 <<< 32 ||| lo.toUInt64)

def readString : ByteReader ByteString := do
  let length ← readUint32
  Reader.block length.toNat

/-- Copy an array of 16 bytes. -/
def readGid : ByteReader (Vector UInt8 16) := do
  let bytes ← Reader.block 16
  pure (Vector.ofFn fun index => bytes.getD index 0)

/-- The number of elements and the elements. -/
def writeList {α : Type} (write : α → ByteString) (elements : List α) :
    ByteString :=
  writeUint32 (UInt32.ofNat elements.length) ++ elements.flatMap write

/-- Resize the list to the announced number and fill in its elements. -/
def readList {α : Type} (read : ByteReader α) : ByteReader (List α) := do
  let count ← readUint32
  Reader.many count.toNat read

/-! ## Records -/

def writePeerInfo (q : PeerInfoandQPs) : ByteString :=
  writeString q.peerNodeId ++
    writeUint32 q.localQpNum ++
    writeUint16 q.localLid ++
    q.localGid.toList ++
    writeUint32 q.localPsn ++
    writeUint32 q.remoteQpNum ++
    writeUint16 q.remoteLid ++
    q.remoteGid.toList ++
    writeUint32 q.remotePsn ++
    writeUint64 q.remoteRkey ++
    writeUint64 q.remoteAddr

def readPeerInfo : ByteReader PeerInfoandQPs := do
  let peerNodeId ← readString
  let localQpNum ← readUint32
  let localLid ← readUint16
  let localGid ← readGid
  let localPsn ← readUint32
  let remoteQpNum ← readUint32
  let remoteLid ← readUint16
  let remoteGid ← readGid
  let remotePsn ← readUint32
  let remoteRkey ← readUint64
  let remoteAddr ← readUint64
  pure
    { peerNodeId := peerNodeId
      localQpNum := localQpNum
      localLid := localLid
      localGid := localGid
      localPsn := localPsn
      remoteQpNum := remoteQpNum
      remoteLid := remoteLid
      remoteGid := remoteGid
      remotePsn := remotePsn
      remoteRkey := remoteRkey
      remoteAddr := remoteAddr }

/-- The file descriptors of a node are not written. -/
def writeNodeInfo (n : NodeInfo) : ByteString :=
  writeString n.nodeId ++
    writeUint8 (byteOfCode n.role.code) ++
    writeString n.ipAddress ++
    writeUint16 n.tcpPort ++
    writeUint16 n.vllmPort ++
    writeUint8 (if n.isHealthy then 1 else 0) ++
    writeUint32 n.gpuId.toUInt32 ++
    writeString n.gpuName ++
    writeUint32 n.gpuNuma.toUInt32 ++
    writeUint64 n.gpuMemBytes ++
    writeString n.ibDevName ++
    writeUint32 n.ibPort.toUInt32 ++
    writeUint32 n.ibNuma.toUInt32 ++
    writeUint64 n.ibSpeedGbps ++
    writeUint64 n.gpuBaseAddr ++
    writeUint64 n.lkey ++
    writeUint64 n.rkey ++
    writeUint64 n.memoryPoolSize ++
    writeList writePeerInfo n.qmaps

/-- The record that is read into is new, so it has no connections yet. -/
def readNodeInfo : ByteReader NodeInfo := do
  let nodeId ← readString
  let roleByte ← readUint8
  let ipAddress ← readString
  let tcpPort ← readUint16
  let vllmPort ← readUint16
  let healthyByte ← readUint8
  let gpuId ← readUint32
  let gpuName ← readString
  let gpuNuma ← readUint32
  let gpuMem ← readUint64
  let ibDevName ← readString
  let ibPort ← readUint32
  let ibNuma ← readUint32
  let ibSpeedGbps ← readUint64
  let gpuBaseAddr ← readUint64
  let lkey ← readUint64
  let rkey ← readUint64
  let memPool ← readUint64
  let qmaps ← readList readPeerInfo
  pure
    { nodeId := nodeId
      role := .ofCode (codeOfByte roleByte)
      ipAddress := ipAddress
      tcpPort := tcpPort
      nodeOwnOrchestratorFd := -1
      nodeOtherNodeFd := []
      vllmPort := vllmPort
      isHealthy := healthyByte != 0
      gpuId := gpuId.toInt32
      gpuName := gpuName
      gpuNuma := gpuNuma.toInt32
      gpuMemBytes := gpuMem
      ibDevName := ibDevName
      ibPort := ibPort.toInt32
      ibNuma := ibNuma.toInt32
      ibSpeedGbps := ibSpeedGbps
      gpuBaseAddr := gpuBaseAddr
      lkey := lkey
      rkey := rkey
      memoryPoolSize := memPool
      qmaps := qmaps }

def writeRequestInfo (r : RequestInfo) : ByteString :=
  writeString r.requestId ++
    writeString r.prompt ++
    writeUint32 r.maxTokens.toUInt32 ++
    writeString r.prefillNodeId ++
    writeString r.decodeNodeId ++
    writeUint32 r.slotId.toUInt32 ++
    writeUint64 r.slotBaseOffset ++
    writeUint64 r.timestampCreated ++
    writeUint64 r.timestampPrefillStart ++
    writeUint64 r.timestampPrefillDone ++
    writeUint64 r.timestampDecodeStart ++
    writeUint64 r.timestampDecodeDone

def readRequestInfo : ByteReader RequestInfo := do
  let requestId ← readString
  let prompt ← readString
  let maxTokens ← readUint32
  let prefillNodeId ← readString
  let decodeNodeId ← readString
  let slotId ← readUint32
  let slotBaseOffset ← readUint64
  let timestampCreated ← readUint64
  let timestampPrefillStart ← readUint64
  let timestampPrefillDone ← readUint64
  let timestampDecodeStart ← readUint64
  let timestampDecodeDone ← readUint64
  pure
    { requestId := requestId
      prompt := prompt
      maxTokens := maxTokens.toInt32
      prefillNodeId := prefillNodeId
      decodeNodeId := decodeNodeId
      slotId := slotId.toInt32
      slotBaseOffset := slotBaseOffset
      timestampCreated := timestampCreated
      timestampPrefillStart := timestampPrefillStart
      timestampPrefillDone := timestampPrefillDone
      timestampDecodeStart := timestampDecodeStart
      timestampDecodeDone := timestampDecodeDone }

/-! ## Messages -/

def serializeMessage (message : Message) : ByteString :=
  writeUint8 (byteOfCode message.type.code) ++
    writeUint8 (byteOfCode message.status.code) ++
    writeUint64 message.transactionId ++
    writeUint64 message.timestamp ++
    writeString message.sourceNodeId ++
    writeRequestInfo message.requestInfo ++
    writeNodeInfo message.nodeInfo ++
    writeList writeNodeInfo message.membershipListInfo ++
    writeString message.errorMessage ++
    writeUint32 message.kvMetadata.numLayers ++
    writeUint32 message.kvMetadata.numTokens ++
    writeString message.responseText

def readMessage : ByteReader Message := do
  let typeByte ← readUint8
  let statusByte ← readUint8
  let transactionId ← readUint64
  let timestamp ← readUint64
  let sourceNodeId ← readString
  let requestInfo ← readRequestInfo
  let nodeInfo ← readNodeInfo
  let membershipListInfo ← readList readNodeInfo
  let errorMessage ← readString
  let numLayers ← readUint32
  let numTokens ← readUint32
  let responseText ← readString
  pure
    { transactionId := transactionId
      timestamp := timestamp
      sourceNodeId := sourceNodeId
      type := .ofCode (codeOfByte typeByte)
      status := .ofCode (codeOfByte statusByte)
      requestInfo := requestInfo
      nodeInfo := nodeInfo
      membershipListInfo := membershipListInfo
      errorMessage := errorMessage
      kvMetadata := ⟨numLayers, numTokens⟩
      responseText := responseText }

/-- A message comes with the bytes that remain behind it. -/
def deserializeMessage (data : ByteString) : Outcome UInt8 Message :=
  if data.isEmpty then .refused else readMessage data

end RdmaKvCache
