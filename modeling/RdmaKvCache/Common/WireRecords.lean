import RdmaKvCache.Common.WireNumbers
import Mathlib.Tactic.MkIffOfInductiveProp

/-!
# Records on the wire

The encodings of each record, field by field.  The only byte that the reader
takes in more than one way is `is_healthy`: every value but zero means healthy,
and the writer uses one.  The file descriptors of a node belong to the process
and are not sent.
-/

namespace RdmaKvCache

open ByteOrders CheckedReaders

/-! ## What can be sent -/

@[mk_iff]
structure RequestInfo.Fits (r : RequestInfo) : Prop where
  requestId : FitsSize r.requestId.length
  prompt : FitsSize r.prompt.length
  prefillNodeId : FitsSize r.prefillNodeId.length
  decodeNodeId : FitsSize r.decodeNodeId.length

@[mk_iff]
structure NodeInfo.Fits (n : NodeInfo) : Prop where
  nodeId : FitsSize n.nodeId.length
  role : FitsOneByte n.role.code
  ipAddress : FitsSize n.ipAddress.length
  gpuName : FitsSize n.gpuName.length
  ibDevName : FitsSize n.ibDevName.length
  qmaps : FitsSize n.qmaps.length
  peerNodeIds : ∀ q ∈ n.qmaps, FitsSize q.peerNodeId.length

/-- Fewer than `2 ^ 32` elements in every string and list, and enumerators of
one byte. -/
@[mk_iff]
structure Message.Fits (message : Message) : Prop where
  type : FitsOneByte message.type.code
  status : FitsOneByte message.status.code
  sourceNodeId : FitsSize message.sourceNodeId.length
  requestInfo : message.requestInfo.Fits
  nodeInfo : message.nodeInfo.Fits
  membershipListInfo : FitsSize message.membershipListInfo.length
  members : ∀ n ∈ message.membershipListInfo, n.Fits
  errorMessage : FitsSize message.errorMessage.length
  responseText : FitsSize message.responseText.length

/-- What the receiver learns of a node. -/
def NodeInfo.overTheWire (n : NodeInfo) : NodeInfo :=
  { n with nodeOwnOrchestratorFd := -1, nodeOtherNodeFd := [] }

def Message.overTheWire (message : Message) : Message :=
  { message with
    nodeInfo := message.nodeInfo.overTheWire
    membershipListInfo :=
      message.membershipListInfo.map NodeInfo.overTheWire }

/-! ## Parts of a record -/

section Parts

variable {γ : Type} {remaining : γ → ByteString → Prop}
variable {record : γ} {encoding : ByteString}

/-- An `int` is sent as the `uint32_t` with the same bits. -/
theorem part_int {field : γ → Int32} :
    Reads.Part field UInt32.toInt32 (fun v first => first = writeUint32 v)
        remaining record encoding ↔
      ∃ rest, remaining record rest ∧
        encoding = writeUint32 (field record).toUInt32 ++ rest := by
  have converted :
      Reads.Part field UInt32.toInt32 (fun v first => first = writeUint32 v)
          remaining record encoding ↔
        True ∧ _ :=
    Reads.part_converted (fun _ => True) Int32.toUInt32
      UInt32.toUInt32_toInt32 (fun _ => trivial)
      fun value _ => Int32.toInt32_toUInt32 value
  rwa [true_and] at converted

theorem part_role {field : γ → NodeRole} :
    Reads.Part field (fun byte => .ofCode (codeOfByte byte))
        (fun v first => first = writeUint8 v) remaining record encoding ↔
      FitsOneByte (field record).code ∧
        ∃ rest, remaining record rest ∧
          encoding = writeUint8 (byteOfCode (field record).code) ++ rest := by
  refine
    Reads.part_converted (fun role : NodeRole => FitsOneByte role.code)
      (fun role => byteOfCode role.code) ?_ ?_ ?_
  · intro byte
    rw [NodeRole.code_ofCode, byteOfCode_codeOfByte]
  · intro byte
    rw [NodeRole.code_ofCode]
    exact fitsOneByte_codeOfByte byte
  · intro role fits
    rw [codeOfByte_byteOfCode fits, NodeRole.ofCode_code]

theorem part_status {field : γ → RequestStatus} :
    Reads.Part field (fun byte => .ofCode (codeOfByte byte))
        (fun v first => first = writeUint8 v) remaining record encoding ↔
      FitsOneByte (field record).code ∧
        ∃ rest, remaining record rest ∧
          encoding = writeUint8 (byteOfCode (field record).code) ++ rest := by
  refine
    Reads.part_converted (fun status : RequestStatus => FitsOneByte status.code)
      (fun status => byteOfCode status.code) ?_ ?_ ?_
  · intro byte
    rw [RequestStatus.code_ofCode, byteOfCode_codeOfByte]
  · intro byte
    rw [RequestStatus.code_ofCode]
    exact fitsOneByte_codeOfByte byte
  · intro status fits
    rw [codeOfByte_byteOfCode fits, RequestStatus.ofCode_code]

theorem part_type {field : γ → MessageType} :
    Reads.Part field (fun byte => .ofCode (codeOfByte byte))
        (fun v first => first = writeUint8 v) remaining record encoding ↔
      FitsOneByte (field record).code ∧
        ∃ rest, remaining record rest ∧
          encoding = writeUint8 (byteOfCode (field record).code) ++ rest := by
  refine
    Reads.part_converted (fun type : MessageType => FitsOneByte type.code)
      (fun type => byteOfCode type.code) ?_ ?_ ?_
  · intro byte
    rw [MessageType.code_ofCode, byteOfCode_codeOfByte]
  · intro byte
    rw [MessageType.code_ofCode]
    exact fitsOneByte_codeOfByte byte
  · intro type fits
    rw [codeOfByte_byteOfCode fits, MessageType.ofCode_code]

/-- A flag is encoded by every byte that is converted to it. -/
theorem part_flag {field : γ → Bool} :
    Reads.Part field (fun byte => byte != 0)
        (fun v first => first = writeUint8 v) remaining record encoding ↔
      ∃ mark : UInt8, field record = (mark != 0) ∧
        ∃ rest, remaining record rest ∧ encoding = [mark] ++ rest := by
  constructor
  · rintro ⟨mark, _, rest, fieldEq, rfl, encodesRest, rfl⟩
    exact ⟨mark, fieldEq, rest, encodesRest, rfl⟩
  · rintro ⟨mark, fieldEq, rest, encodesRest, rfl⟩
    exact ⟨mark, _, rest, fieldEq, rfl, encodesRest, rfl⟩

end Parts

/-! ## Lists -/

/-- The elements of a list are encoded one after the other behind their
number. -/
def EncodesList {α : Type} (format : α → ByteString → Prop)
    (elements : List α) (encoding : ByteString) : Prop :=
  FitsSize elements.length ∧
    ∃ encodings,
      List.Forall₂ format elements encodings ∧
        encoding =
          writeUint32 (UInt32.ofNat elements.length) ++ encodings.flatten

theorem reads_list
    {α : Type} {read : ByteReader α} {format : α → ByteString → Prop}
    (reads : Reads read format) :
    Reads (readList read) (EncodesList format) := by
  refine
    (reads_uint32.bind fun count => reads.many count.toNat).congr ?_
  intro elements encoding
  constructor
  · rintro ⟨count, _, _, rfl, ⟨length, encodings, encodes, rfl⟩, rfl⟩
    refine ⟨?_, encodings, encodes, ?_⟩
    · rw [length]
      exact count.toNat_lt
    · rw [length, UInt32.ofNat_toNat]
  · rintro ⟨fits, encodings, encodes, rfl⟩
    exact
      ⟨UInt32.ofNat elements.length, _, _, rfl,
        ⟨(toNat_size fits).symm, encodings, encodes, rfl⟩, rfl⟩

theorem encodesList_exact
    {α : Type} {valid : α → Prop} {write : α → ByteString}
    {elements : List α} {encoding : ByteString} :
    EncodesList (fun element first => valid element ∧ first = write element)
        elements encoding ↔
      (FitsSize elements.length ∧ ∀ element ∈ elements, valid element) ∧
        encoding = writeList write elements := by
  have written (encodings : List ByteString) :
      List.Forall₂ (fun element first => valid element ∧ first = write element)
          elements encodings ↔
        (∀ element ∈ elements, valid element) ∧
          encodings = elements.map write := by
    induction elements generalizing encodings with
    | nil =>
        simp
    | cons element rest inductionHypothesis =>
        rw [List.forall₂_cons_left_iff]
        simp only [inductionHypothesis, List.forall_mem_cons, List.map_cons]
        constructor
        · rintro ⟨first, others, ⟨isValid, rfl⟩, ⟨areValid, rfl⟩, rfl⟩
          exact ⟨⟨isValid, areValid⟩, rfl⟩
        · rintro ⟨⟨isValid, areValid⟩, rfl⟩
          exact ⟨_, _, ⟨isValid, rfl⟩, ⟨areValid, rfl⟩, rfl⟩
  simp only [EncodesList, written]
  constructor
  · rintro ⟨fits, _, ⟨areValid, rfl⟩, rfl⟩
    exact ⟨⟨fits, areValid⟩, rfl⟩
  · rintro ⟨⟨fits, areValid⟩, rfl⟩
    exact ⟨fits, _, ⟨areValid, rfl⟩, rfl⟩

/-! ## Records -/

theorem reads_peerInfo :
    Reads readPeerInfo fun q encoding =>
      FitsSize q.peerNodeId.length ∧ encoding = writePeerInfo q := by
  have parts : Reads readPeerInfo fun q encoding => True ∧ _ :=
    reads_string.part PeerInfoandQPs.peerNodeId id fun peerNodeId =>
    reads_uint32.part PeerInfoandQPs.localQpNum id fun localQpNum =>
    reads_uint16.part PeerInfoandQPs.localLid id fun localLid =>
    reads_gid.part PeerInfoandQPs.localGid id fun localGid =>
    reads_uint32.part PeerInfoandQPs.localPsn id fun localPsn =>
    reads_uint32.part PeerInfoandQPs.remoteQpNum id fun remoteQpNum =>
    reads_uint16.part PeerInfoandQPs.remoteLid id fun remoteLid =>
    reads_gid.part PeerInfoandQPs.remoteGid id fun remoteGid =>
    reads_uint32.part PeerInfoandQPs.remotePsn id fun remotePsn =>
    reads_uint64.part PeerInfoandQPs.remoteRkey id fun remoteRkey =>
    reads_uint64.part PeerInfoandQPs.remoteAddr id fun remoteAddr =>
    Reads.complete fun other => by
      cases other
      simp only [id, PeerInfoandQPs.mk.injEq, true_and, and_assoc]
  refine parts.congr ?_
  intro q encoding
  simp only [Reads.part_exact, Reads.part_valid, true_and, exists_eq_left,
    List.append_nil, writePeerInfo, List.append_assoc]

theorem reads_requestInfo :
    Reads readRequestInfo fun r encoding =>
      r.Fits ∧ encoding = writeRequestInfo r := by
  have parts : Reads readRequestInfo fun r encoding => True ∧ _ :=
    reads_string.part RequestInfo.requestId id fun requestId =>
    reads_string.part RequestInfo.prompt id fun prompt =>
    reads_uint32.part RequestInfo.maxTokens UInt32.toInt32 fun maxTokens =>
    reads_string.part RequestInfo.prefillNodeId id fun prefillNodeId =>
    reads_string.part RequestInfo.decodeNodeId id fun decodeNodeId =>
    reads_uint32.part RequestInfo.slotId UInt32.toInt32 fun slotId =>
    reads_uint64.part RequestInfo.slotBaseOffset id fun slotBaseOffset =>
    reads_uint64.part RequestInfo.timestampCreated id fun created =>
    reads_uint64.part RequestInfo.timestampPrefillStart id fun prefillStart =>
    reads_uint64.part RequestInfo.timestampPrefillDone id fun prefillDone =>
    reads_uint64.part RequestInfo.timestampDecodeStart id fun decodeStart =>
    reads_uint64.part RequestInfo.timestampDecodeDone id fun decodeDone =>
    Reads.complete fun other => by
      cases other
      simp only [id, RequestInfo.mk.injEq, true_and, and_assoc]
  refine parts.congr ?_
  intro r encoding
  simp only [Reads.part_exact, Reads.part_valid, part_int, true_and,
    exists_eq_left, exists_and_left, and_assoc, List.append_nil,
    RequestInfo.fits_iff, writeRequestInfo, List.append_assoc]

/-! ## Nodes -/

/-- What is written of a node before its `is_healthy`. -/
def NodeInfo.beforeHealth (n : NodeInfo) : ByteString :=
  writeString n.nodeId ++
    writeUint8 (byteOfCode n.role.code) ++
    writeString n.ipAddress ++
    writeUint16 n.tcpPort ++
    writeUint16 n.vllmPort

/-- What is written of a node between its `is_healthy` and its connections. -/
def NodeInfo.beforeQmaps (n : NodeInfo) : ByteString :=
  writeUint32 n.gpuId.toUInt32 ++
    writeString n.gpuName ++
    writeUint32 n.gpuNuma.toUInt32 ++
    writeUint64 n.gpuMemBytes ++
    writeString n.ibDevName ++
    writeUint32 n.ibPort.toUInt32 ++
    writeUint32 n.ibNuma.toUInt32 ++
    writeUint64 n.ibSpeedGbps ++
    writeUint64 n.gpuBaseAddr ++
    writeUint64 n.lkey ++
    writeUint64 n.rkey ++
    writeUint64 n.memoryPoolSize

/-- What is written of a node after its `is_healthy`. -/
def NodeInfo.afterHealth (n : NodeInfo) : ByteString :=
  writeUint32 n.gpuId.toUInt32 ++
    writeString n.gpuName ++
    writeUint32 n.gpuNuma.toUInt32 ++
    writeUint64 n.gpuMemBytes ++
    writeString n.ibDevName ++
    writeUint32 n.ibPort.toUInt32 ++
    writeUint32 n.ibNuma.toUInt32 ++
    writeUint64 n.ibSpeedGbps ++
    writeUint64 n.gpuBaseAddr ++
    writeUint64 n.lkey ++
    writeUint64 n.rkey ++
    writeUint64 n.memoryPoolSize ++
    writeList writePeerInfo n.qmaps

theorem NodeInfo.afterHealth_eq (n : NodeInfo) :
    n.afterHealth = n.beforeQmaps ++ writeList writePeerInfo n.qmaps :=
  rfl

/-- The encodings that are read as the node. -/
def NodeInfo.Encodes (n : NodeInfo) (encoding : ByteString) : Prop :=
  (n.Fits ∧ n.overTheWire = n) ∧
    ∃ mark : UInt8, n.isHealthy = (mark != 0) ∧
      encoding = n.beforeHealth ++ ([mark] ++ n.afterHealth)

/-- The encodings of the fields of a node that has no connections yet. -/
def NodeInfo.EncodesFields (n : NodeInfo) (encoding : ByteString) : Prop :=
  (n.Fits ∧ n.overTheWire = n) ∧ n.qmaps = [] ∧
    ∃ mark : UInt8, n.isHealthy = (mark != 0) ∧
      encoding = n.beforeHealth ++ ([mark] ++ n.beforeQmaps)

theorem NodeInfo.overTheWire_eq_iff (n : NodeInfo) :
    n.overTheWire = n ↔
      n.nodeOwnOrchestratorFd = -1 ∧ n.nodeOtherNodeFd = [] := by
  cases n
  simp only [NodeInfo.overTheWire, NodeInfo.mk.injEq, true_and, and_true]
  rw [eq_comm, eq_comm (a := [])]

theorem reads_qmaps :
    Reads (readList readPeerInfo) fun qmaps encoding =>
      (FitsSize qmaps.length ∧
          ∀ q ∈ qmaps, FitsSize q.peerNodeId.length) ∧
        encoding = writeList writePeerInfo qmaps :=
  (reads_list reads_peerInfo).congr fun _ _ => encodesList_exact

/-- The part of `read_node_info` before the connections. -/
def readNodeFields : ByteReader NodeInfo := do
  let nodeId ← readString
  let roleByte ← readUint8
  let ipAddress ← readString
  let tcpPort ← readUint16
  let vllmPort ← readUint16
  let healthyByte ← readUint8
  let gpuId ← readUint32
  let gpuName ← readString
  let gpuNuma ← readUint32
  let gpuMem ← readUint64
  let ibDevName ← readString
  let ibPort ← readUint32
  let ibNuma ← readUint32
  let ibSpeedGbps ← readUint64
  let gpuBaseAddr ← readUint64
  let lkey ← readUint64
  let rkey ← readUint64
  let memPool ← readUint64
  pure
    { nodeId := nodeId
      role := .ofCode (codeOfByte roleByte)
      ipAddress := ipAddress
      tcpPort := tcpPort
      nodeOwnOrchestratorFd := -1
      nodeOtherNodeFd := []
      vllmPort := vllmPort
      isHealthy := healthyByte != 0
      gpuId := gpuId.toInt32
      gpuName := gpuName
      gpuNuma := gpuNuma.toInt32
      gpuMemBytes := gpuMem
      ibDevName := ibDevName
      ibPort := ibPort.toInt32
      ibNuma := ibNuma.toInt32
      ibSpeedGbps := ibSpeedGbps
      gpuBaseAddr := gpuBaseAddr
      lkey := lkey
      rkey := rkey
      memoryPoolSize := memPool
      qmaps := [] }

theorem readNodeInfo_eq :
    readNodeInfo =
      readNodeFields >>= fun n =>
        readList readPeerInfo >>= fun qmaps =>
          pure { n with qmaps := qmaps } := by
  simp only [readNodeFields, Reader.bind_assoc]
  rfl

theorem reads_nodeFields : Reads readNodeFields NodeInfo.EncodesFields := by
  have parts :
      Reads readNodeFields fun n encoding =>
        (n.nodeOwnOrchestratorFd = -1 ∧ n.nodeOtherNodeFd = [] ∧
          n.qmaps = []) ∧ _ :=
    reads_string.part NodeInfo.nodeId id fun nodeId =>
    reads_uint8.part NodeInfo.role (.ofCode <| codeOfByte ·) fun role =>
    reads_string.part NodeInfo.ipAddress id fun ipAddress =>
    reads_uint16.part NodeInfo.tcpPort id fun tcpPort =>
    reads_uint16.part NodeInfo.vllmPort id fun vllmPort =>
    reads_uint8.part NodeInfo.isHealthy (· != 0) fun isHealthy =>
    reads_uint32.part NodeInfo.gpuId UInt32.toInt32 fun gpuId =>
    reads_string.part NodeInfo.gpuName id fun gpuName =>
    reads_uint32.part NodeInfo.gpuNuma UInt32.toInt32 fun gpuNuma =>
    reads_uint64.part NodeInfo.gpuMemBytes id fun gpuMemBytes =>
    reads_string.part NodeInfo.ibDevName id fun ibDevName =>
    reads_uint32.part NodeInfo.ibPort UInt32.toInt32 fun ibPort =>
    reads_uint32.part NodeInfo.ibNuma UInt32.toInt32 fun ibNuma =>
    reads_uint64.part NodeInfo.ibSpeedGbps id fun ibSpeedGbps =>
    reads_uint64.part NodeInfo.gpuBaseAddr id fun gpuBaseAddr =>
    reads_uint64.part NodeInfo.lkey id fun lkey =>
    reads_uint64.part NodeInfo.rkey id fun rkey =>
    reads_uint64.part NodeInfo.memoryPoolSize id fun memoryPoolSize =>
    Reads.complete fun other => by
      cases other
      simp only [id, NodeInfo.mk.injEq]
      grind
  refine parts.congr ?_
  intro n encoding
  rw [NodeInfo.EncodesFields, n.overTheWire_eq_iff]
  simp only [Reads.part_exact, Reads.part_valid, part_int, part_role,
    part_flag]
  simp only [exists_eq_left, exists_and_left, and_assoc, List.append_nil,
    NodeInfo.fits_iff, NodeInfo.beforeHealth, NodeInfo.beforeQmaps,
    List.append_assoc]
  constructor
  · rintro ⟨ownFd, otherFds, noQmaps, nodeId, role, ipAddress, _, ⟨_, ⟨_, ⟨_,
      ⟨_, ⟨mark, isHealthy, gpuName, ibDevName, rfl⟩, rfl⟩, rfl⟩, rfl⟩, rfl⟩,
      rfl⟩
    have noneListed :
        FitsSize n.qmaps.length ∧
          ∀ q ∈ n.qmaps, FitsSize q.peerNodeId.length := by
      rw [noQmaps]
      exact ⟨by decide, List.forall_mem_nil _⟩
    exact
      ⟨nodeId, role, ipAddress, gpuName, ibDevName, noneListed.1,
        noneListed.2, ownFd, otherFds, noQmaps, mark, isHealthy, rfl⟩
  · rintro ⟨nodeId, role, ipAddress, gpuName, ibDevName, -, -, ownFd,
      otherFds, noQmaps, mark, isHealthy, rfl⟩
    exact
      ⟨ownFd, otherFds, noQmaps, nodeId, role, ipAddress, _, ⟨_, ⟨_, ⟨_, ⟨_,
        ⟨mark, isHealthy, gpuName, ibDevName, rfl⟩, rfl⟩, rfl⟩, rfl⟩, rfl⟩,
        rfl⟩

/-- A node is encoded by its fields and its connections. -/
theorem NodeInfo.encodes_iff_fields {n : NodeInfo} {encoding : ByteString} :
    n.Encodes encoding ↔
      (FitsSize n.qmaps.length ∧
          ∀ q ∈ n.qmaps, FitsSize q.peerNodeId.length) ∧
        ∃ fields,
          { n with qmaps := [] }.EncodesFields fields ∧
            encoding = fields ++ writeList writePeerInfo n.qmaps := by
  simp only [NodeInfo.Encodes, NodeInfo.EncodesFields,
    NodeInfo.overTheWire_eq_iff, NodeInfo.fits_iff, n.afterHealth_eq]
  constructor
  · rintro ⟨⟨⟨nodeId, role, ipAddress, gpuName, ibDevName, qmaps, peers⟩, own⟩,
      mark, isHealthy, rfl⟩
    refine
      ⟨⟨qmaps, peers⟩, n.beforeHealth ++ ([mark] ++ n.beforeQmaps),
        ⟨⟨⟨nodeId, role, ipAddress, gpuName, ibDevName, ?_, ?_⟩, own⟩, trivial,
          mark, isHealthy, rfl⟩, ?_⟩
    · decide
    · exact List.forall_mem_nil _
    · simp only [List.append_assoc]
  · rintro ⟨⟨qmaps, peers⟩, _, ⟨⟨⟨nodeId, role, ipAddress, gpuName, ibDevName,
      -, -⟩, own⟩, -, mark, isHealthy, rfl⟩, rfl⟩
    refine
      ⟨⟨⟨nodeId, role, ipAddress, gpuName, ibDevName, qmaps, peers⟩, own⟩,
        mark, isHealthy, ?_⟩
    simp only [List.append_assoc]
    rfl

theorem reads_nodeInfo : Reads readNodeInfo NodeInfo.Encodes := by
  rw [readNodeInfo_eq]
  refine
    (reads_nodeFields.bind fun n =>
      reads_qmaps.bind fun qmaps =>
        Reads.pure { n with qmaps := qmaps }).congr ?_
  intro n encoding
  rw [NodeInfo.encodes_iff_fields]
  constructor
  · rintro ⟨read, fields, _, encodesFields, ⟨qmaps, _, _, ⟨fits, rfl⟩,
      ⟨rfl, rfl⟩, rfl⟩, rfl⟩
    have same : { read with qmaps := [] } = read := by
      rw [← encodesFields.2.1]
    refine ⟨fits, fields, ?_, ?_⟩
    · rw [← same] at encodesFields
      exact encodesFields
    · rw [List.append_nil]
  · rintro ⟨fits, fields, encodesFields, rfl⟩
    refine
      ⟨_, fields, _, encodesFields, ⟨n.qmaps, _, [], ⟨fits, rfl⟩, ⟨rfl, rfl⟩,
        rfl⟩, ?_⟩
    rw [List.append_nil]

/-! ## Messages -/

/-- What is written of a message before its `node_info`. -/
def Message.beforeNode (message : Message) : ByteString :=
  writeUint8 (byteOfCode message.type.code) ++
    writeUint8 (byteOfCode message.status.code) ++
    writeUint64 message.transactionId ++
    writeUint64 message.timestamp ++
    writeString message.sourceNodeId ++
    writeRequestInfo message.requestInfo

/-- What is written of a message after its members. -/
def Message.afterMembers (message : Message) : ByteString :=
  writeString message.errorMessage ++
    writeUint32 message.kvMetadata.numLayers ++
    writeUint32 message.kvMetadata.numTokens ++
    writeString message.responseText

/-- The encodings that are read as the message. -/
def Message.Encodes (message : Message) (encoding : ByteString) : Prop :=
  (message.Fits ∧ message.overTheWire = message) ∧
    ∃ node members,
      message.nodeInfo.Encodes node ∧
        EncodesList NodeInfo.Encodes message.membershipListInfo members ∧
          encoding =
            message.beforeNode ++ (node ++ (members ++ message.afterMembers))

theorem Message.overTheWire_eq_iff (message : Message) :
    message.overTheWire = message ↔
      message.nodeInfo.overTheWire = message.nodeInfo ∧
        ∀ n ∈ message.membershipListInfo, n.overTheWire = n := by
  cases message with
  | mk transactionId timestamp sourceNodeId type status requestInfo nodeInfo
      membershipListInfo errorMessage kvMetadata responseText =>
      simp only [Message.overTheWire, Message.mk.injEq, true_and, and_true]
      apply and_congr_right
      intro _
      simpa using List.map_inj_left
        (f := NodeInfo.overTheWire) (g := id) (l := membershipListInfo)

theorem encodesList_carried
    {nodes : List NodeInfo} {encoding : ByteString}
    (encodes : EncodesList NodeInfo.Encodes nodes encoding) :
    FitsSize nodes.length ∧ ∀ n ∈ nodes, n.Fits ∧ n.overTheWire = n := by
  obtain ⟨fits, encodings, each, rfl⟩ := encodes
  refine ⟨fits, ?_⟩
  clear fits
  induction each with
  | nil =>
      exact List.forall_mem_nil _
  | cons first _ inductionHypothesis =>
      exact List.forall_mem_cons.mpr ⟨first.1, inductionHypothesis⟩

theorem reads_message : Reads readMessage Message.Encodes := by
  have parts : Reads readMessage fun message encoding => True ∧ _ :=
    reads_uint8.part Message.type (.ofCode <| codeOfByte ·) fun type =>
    reads_uint8.part Message.status (.ofCode <| codeOfByte ·) fun status =>
    reads_uint64.part Message.transactionId id fun transactionId =>
    reads_uint64.part Message.timestamp id fun timestamp =>
    reads_string.part Message.sourceNodeId id fun sourceNodeId =>
    reads_requestInfo.part Message.requestInfo id fun requestInfo =>
    reads_nodeInfo.part Message.nodeInfo id fun nodeInfo =>
    (reads_list reads_nodeInfo).part Message.membershipListInfo id
      fun membershipListInfo =>
    reads_string.part Message.errorMessage id fun errorMessage =>
    reads_uint32.part (·.kvMetadata.numLayers) id fun numLayers =>
    reads_uint32.part (·.kvMetadata.numTokens) id fun numTokens =>
    reads_string.part Message.responseText id fun responseText =>
    Reads.complete fun other => by
      rcases other with ⟨_, _, _, _, _, _, _, _, _, ⟨_, _⟩, _⟩
      simp only [id, Message.mk.injEq, KVMetaData.mk.injEq]
      grind
  refine parts.congr ?_
  intro message encoding
  simp only [Reads.part_exact, Reads.part_valid, part_type, part_status]
  simp only [Reads.Part, exists_eq_left, exists_and_left, and_assoc,
    List.append_nil, id, exists_eq_left', true_and]
  constructor
  · rintro ⟨type, status, source, request, _, ⟨_, ⟨_, ⟨_, ⟨_, ⟨_,
      ⟨node, encodesNode, _, ⟨members, encodesMembers, error, response,
      fromMembers⟩, fromNode⟩, fromRequest⟩, fromSource⟩, fromTimestamp⟩,
      fromTransaction⟩, fromStatus⟩, fromType⟩
    obtain ⟨size, carried⟩ := encodesList_carried encodesMembers
    refine ⟨⟨?_, ?_⟩, node, members, encodesNode, encodesMembers, ?_⟩
    · exact
        ⟨type, status, source, request, encodesNode.1.1, size,
          fun n listed => (carried n listed).1, error, response⟩
    · exact
        message.overTheWire_eq_iff.mpr
          ⟨encodesNode.1.2, fun n listed => (carried n listed).2⟩
    · simp only [fromType, fromStatus, fromTransaction, fromTimestamp,
        fromSource, fromRequest, fromNode, fromMembers, Message.beforeNode,
        Message.afterMembers, List.append_assoc]
  · rintro ⟨⟨fits, -⟩, node, members, encodesNode, encodesMembers, rfl⟩
    refine
      ⟨fits.type, fits.status, fits.sourceNodeId, fits.requestInfo, _,
        ⟨_, ⟨_, ⟨_, ⟨_, ⟨_, ⟨node, encodesNode, _,
          ⟨members, encodesMembers, fits.errorMessage, fits.responseText,
            rfl⟩,
          rfl⟩, rfl⟩, rfl⟩, rfl⟩, rfl⟩, rfl⟩, ?_⟩
    simp only [Message.beforeNode, Message.afterMembers, List.append_assoc]

end RdmaKvCache
