import RdmaKvCache.Common.WireRecords

/-!
# Decoding undoes encoding

Every message that fits comes back, whatever follows it, and what the decoder
accepts is an encoding.  Encodings of one message differ only in the bytes that
stand for `is_healthy`; with these normalised there is one.
-/

namespace RdmaKvCache

open ByteOrders CheckedReaders

/-! ## The bytes that stand for `is_healthy` -/

/-- Every byte but zero is replaced by one where the mask is set.  Bytes beyond
the mask stay as they are. -/
def normalizeHealth : List Bool → ByteString → ByteString
  | isMark :: mask, byte :: bytes =>
      (if isMark && byte != 0 then 1 else byte) :: normalizeHealth mask bytes
  | _, bytes => bytes

/-- Bytes none of which stands for `is_healthy`. -/
def plainBytes (bytes : ByteString) : List Bool :=
  List.replicate bytes.length false

def NodeInfo.healthBytes (n : NodeInfo) : List Bool :=
  plainBytes n.beforeHealth ++ ([true] ++ plainBytes n.afterHealth)

/-- The places of the `is_healthy` bytes in the encodings of the message. -/
def Message.healthBytes (message : Message) : List Bool :=
  plainBytes message.beforeNode ++
    (message.nodeInfo.healthBytes ++
      (plainBytes (writeUint32 (UInt32.ofNat message.membershipListInfo.length))
        ++ (message.membershipListInfo.flatMap NodeInfo.healthBytes ++
          plainBytes message.afterMembers)))

theorem length_normalizeHealth (mask : List Bool) (bytes : ByteString) :
    (normalizeHealth mask bytes).length = bytes.length := by
  induction mask generalizing bytes with
  | nil =>
      rfl
  | cons isMark mask inductionHypothesis =>
      cases bytes with
      | nil =>
          rfl
      | cons byte bytes =>
          simp only [normalizeHealth, List.length_cons, inductionHypothesis]

theorem normalizeHealth_append
    {mask : List Bool} {bytes : ByteString}
    (sameLength : mask.length = bytes.length)
    (others : List Bool) (rest : ByteString) :
    normalizeHealth (mask ++ others) (bytes ++ rest) =
      normalizeHealth mask bytes ++ normalizeHealth others rest := by
  induction mask generalizing bytes with
  | nil =>
      cases List.length_eq_zero_iff.mp sameLength.symm
      rfl
  | cons isMark mask inductionHypothesis =>
      cases bytes with
      | nil =>
          cases sameLength
      | cons byte bytes =>
          have sameRest := inductionHypothesis (Nat.succ.inj sameLength)
          simp only [List.cons_append, normalizeHealth, sameRest]

/-- What is normalised piece by piece is made of pieces. -/
theorem normalizeHealth_eq_append
    {mask others : List Bool} {whole written rest : ByteString}
    (sameLength : mask.length = written.length) :
    normalizeHealth (mask ++ others) whole = written ++ rest ↔
      ∃ first second,
        normalizeHealth mask first = written ∧
          normalizeHealth others second = rest ∧ whole = first ++ second := by
  constructor
  · intro normalized
    have enough : written.length ≤ whole.length := by
      have lengths := congrArg List.length normalized
      rw [length_normalizeHealth, List.length_append] at lengths
      omega
    have cut : mask.length = (whole.take written.length).length := by
      rw [sameLength, List.length_take_of_le enough]
    have pieces := whole.take_append_drop written.length
    rw [← pieces, normalizeHealth_append cut] at normalized
    have sameCut :
        (normalizeHealth mask (whole.take written.length)).length =
          written.length := by
      rw [length_normalizeHealth, ← cut, sameLength]
    obtain ⟨first, second⟩ := List.append_inj normalized sameCut
    exact ⟨_, _, first, second, pieces.symm⟩
  · rintro ⟨first, second, rfl, rfl, rfl⟩
    rw [length_normalizeHealth] at sameLength
    exact normalizeHealth_append sameLength others second

theorem normalizeHealth_plain (written bytes : ByteString) :
    normalizeHealth (plainBytes written) bytes = bytes := by
  unfold plainBytes
  induction written generalizing bytes with
  | nil =>
      rfl
  | cons _ written inductionHypothesis =>
      cases bytes with
      | nil =>
          rfl
      | cons byte bytes =>
          exact congrArg (byte :: ·) (inductionHypothesis bytes)

theorem normalizeHealth_mark {isHealthy : Bool} {bytes : ByteString} :
    normalizeHealth [true] bytes = writeUint8 (if isHealthy then 1 else 0) ↔
      ∃ mark : UInt8, isHealthy = (mark != 0) ∧ bytes = [mark] := by
  constructor
  · intro normalized
    have one : bytes.length = 1 := by
      rw [← length_normalizeHealth [true], normalized]
      rfl
    obtain ⟨mark, rfl⟩ := List.length_eq_one_iff.mp one
    refine ⟨mark, ?_, rfl⟩
    have same : (if mark != 0 then 1 else mark) = if isHealthy then 1 else 0 :=
      (List.cons.inj normalized).1
    cases isHealthy <;> by_cases zero : mark = 0 <;> simp_all
  · rintro ⟨mark, rfl, rfl⟩
    by_cases zero : mark = 0 <;> simp [normalizeHealth, writeUint8, zero]

theorem length_plainBytes (bytes : ByteString) :
    (plainBytes bytes).length = bytes.length :=
  List.length_replicate

theorem normalizeHealth_plain_append
    {others : List Bool} {whole written rest : ByteString} :
    normalizeHealth (plainBytes written ++ others) whole = written ++ rest ↔
      ∃ second,
        normalizeHealth others second = rest ∧ whole = written ++ second := by
  rw [normalizeHealth_eq_append (length_plainBytes written)]
  simp only [normalizeHealth_plain, exists_and_left, exists_eq_left]

/-! ## Encodings of a node -/

theorem writeNodeInfo_eq (n : NodeInfo) :
    writeNodeInfo n =
      n.beforeHealth ++
        (writeUint8 (if n.isHealthy then 1 else 0) ++ n.afterHealth) := by
  unfold writeNodeInfo NodeInfo.beforeHealth NodeInfo.afterHealth
  simp only [List.append_assoc]

theorem length_healthBytes (n : NodeInfo) :
    n.healthBytes.length = (writeNodeInfo n).length := by
  rw [writeNodeInfo_eq]
  simp only [NodeInfo.healthBytes, List.length_append, length_plainBytes]
  rfl

theorem NodeInfo.encodes_iff (n : NodeInfo) (encoding : ByteString) :
    n.Encodes encoding ↔
      (n.Fits ∧ n.overTheWire = n) ∧
        normalizeHealth n.healthBytes encoding = writeNodeInfo n := by
  apply and_congr_right
  intro _
  have oneMark :
      [true].length =
        (writeUint8 (if n.isHealthy then 1 else 0)).length :=
    rfl
  have plain (bytes : ByteString) :
      normalizeHealth (plainBytes n.afterHealth) bytes = n.afterHealth ↔
        bytes = n.afterHealth := by
    rw [normalizeHealth_plain]
  rw [writeNodeInfo_eq, NodeInfo.healthBytes, normalizeHealth_plain_append]
  simp only [normalizeHealth_eq_append oneMark, normalizeHealth_mark, plain]
  constructor
  · rintro ⟨mark, isHealthy, rfl⟩
    exact ⟨_, ⟨_, _, ⟨mark, isHealthy, rfl⟩, rfl, rfl⟩, rfl⟩
  · rintro ⟨_, ⟨_, _, ⟨mark, isHealthy, marked⟩, behind, cut⟩, whole⟩
    refine ⟨mark, isHealthy, ?_⟩
    rw [whole, cut, marked, behind]

theorem encodings_iff (nodes : List NodeInfo) (bytes : ByteString) :
    (∃ encodings,
        List.Forall₂ NodeInfo.Encodes nodes encodings ∧
          bytes = encodings.flatten) ↔
      (∀ n ∈ nodes, n.Fits ∧ n.overTheWire = n) ∧
        normalizeHealth (nodes.flatMap NodeInfo.healthBytes) bytes =
          nodes.flatMap writeNodeInfo := by
  induction nodes generalizing bytes with
  | nil =>
      simp [normalizeHealth]
  | cons n nodes inductionHypothesis =>
      rw [List.flatMap_cons, List.flatMap_cons,
        normalizeHealth_eq_append (length_healthBytes n),
        List.forall_mem_cons]
      constructor
      · rintro ⟨encodings, encodes, rfl⟩
        cases encodes with
        | cons encodesFirst encodesOthers =>
            obtain ⟨carriedFirst, normalizedFirst⟩ :=
              (n.encodes_iff _).mp encodesFirst
            obtain ⟨carriedOthers, normalizedOthers⟩ :=
              (inductionHypothesis _).mp ⟨_, encodesOthers, rfl⟩
            exact
              ⟨⟨carriedFirst, carriedOthers⟩, _, _, normalizedFirst,
                normalizedOthers, List.flatten_cons⟩
      · rintro ⟨⟨carriedFirst, carriedOthers⟩, first, second, normalizedFirst,
          normalizedOthers, rfl⟩
        have encodesFirst :=
          (n.encodes_iff first).mpr ⟨carriedFirst, normalizedFirst⟩
        obtain ⟨encodings, encodesOthers, rfl⟩ :=
          (inductionHypothesis second).mpr ⟨carriedOthers, normalizedOthers⟩
        exact
          ⟨first :: encodings, .cons encodesFirst encodesOthers,
            List.flatten_cons.symm⟩

/-! ## Encodings of a message -/

/-- The messages that arrive as they were sent. -/
def Message.Carried (message : Message) : Prop :=
  message.Fits ∧ message.overTheWire = message

theorem serializeMessage_eq (message : Message) :
    serializeMessage message =
      message.beforeNode ++
        (writeNodeInfo message.nodeInfo ++
          (writeUint32 (UInt32.ofNat message.membershipListInfo.length) ++
            (message.membershipListInfo.flatMap writeNodeInfo ++
              message.afterMembers))) := by
  simp only [serializeMessage, writeList, Message.beforeNode,
    Message.afterMembers, List.append_assoc]

theorem length_flatMap_healthBytes (nodes : List NodeInfo) :
    (nodes.flatMap NodeInfo.healthBytes).length =
      (nodes.flatMap writeNodeInfo).length := by
  simp only [List.length_flatMap, length_healthBytes]

theorem Message.encodes_iff (message : Message) (encoding : ByteString) :
    message.Encodes encoding ↔
      message.Carried ∧
        normalizeHealth message.healthBytes encoding =
          serializeMessage message := by
  apply and_congr_right
  rintro ⟨fits, carried⟩
  obtain ⟨carriedNode, carriedMembers⟩ :=
    message.overTheWire_eq_iff.mp carried
  have plain (bytes : ByteString) :
      normalizeHealth (plainBytes message.afterMembers) bytes =
          message.afterMembers ↔
        bytes = message.afterMembers := by
    rw [normalizeHealth_plain]
  have node (bytes : ByteString) :
      normalizeHealth message.nodeInfo.healthBytes bytes =
          writeNodeInfo message.nodeInfo ↔
        message.nodeInfo.Encodes bytes := by
    rw [NodeInfo.encodes_iff, and_iff_right ⟨fits.nodeInfo, carriedNode⟩]
  have members (bytes : ByteString) :
      normalizeHealth
            (message.membershipListInfo.flatMap NodeInfo.healthBytes) bytes =
          message.membershipListInfo.flatMap writeNodeInfo ↔
        ∃ encodings,
          List.Forall₂ NodeInfo.Encodes message.membershipListInfo encodings ∧
            bytes = encodings.flatten := by
    rw [encodings_iff,
      and_iff_right fun n listed =>
        ⟨fits.members n listed, carriedMembers n listed⟩]
  rw [serializeMessage_eq, Message.healthBytes, normalizeHealth_plain_append]
  simp only [normalizeHealth_eq_append (length_healthBytes _),
    normalizeHealth_plain_append,
    normalizeHealth_eq_append (length_flatMap_healthBytes _), plain, node,
    members]
  constructor
  · rintro ⟨first, _, encodesNode, ⟨-, encodings, encodesMembers, rfl⟩, rfl⟩
    refine
      ⟨_, ⟨first, _, encodesNode,
        ⟨_, ⟨_, _, ⟨encodings, encodesMembers, rfl⟩, rfl, rfl⟩, rfl⟩, rfl⟩, ?_⟩
    simp only [List.append_assoc]
  · rintro ⟨_, ⟨first, _, encodesNode,
      ⟨_, ⟨_, _, ⟨encodings, encodesMembers, rfl⟩, rfl, rfl⟩, rfl⟩, rfl⟩, rfl⟩
    refine
      ⟨first, _, encodesNode,
        ⟨fits.membershipListInfo, encodings, encodesMembers, rfl⟩, ?_⟩
    simp only [List.append_assoc]

/-! ## Decoding -/

theorem deserializeMessage_eq (data : ByteString) :
    deserializeMessage data = readMessage data := by
  cases data with
  | nil =>
      rfl
  | cons _ _ =>
      rfl

theorem reads_deserializeMessage :
    Reads deserializeMessage Message.Encodes := by
  have same : deserializeMessage = readMessage :=
    funext deserializeMessage_eq
  rw [same]
  exact reads_message

theorem NodeInfo.Fits.overTheWire
    {n : NodeInfo} (fits : n.Fits) : n.overTheWire.Fits where
  nodeId := fits.nodeId
  role := fits.role
  ipAddress := fits.ipAddress
  gpuName := fits.gpuName
  ibDevName := fits.ibDevName
  qmaps := fits.qmaps
  peerNodeIds := fits.peerNodeIds

theorem Message.Fits.overTheWire
    {message : Message} (fits : message.Fits) : message.overTheWire.Fits where
  type := fits.type
  status := fits.status
  sourceNodeId := fits.sourceNodeId
  requestInfo := fits.requestInfo
  nodeInfo := fits.nodeInfo.overTheWire
  membershipListInfo := by
    unfold Message.overTheWire
    rw [List.length_map]
    exact fits.membershipListInfo
  members := by
    intro n listed
    obtain ⟨sent, sentListed, rfl⟩ := List.mem_map.mp listed
    exact (fits.members sent sentListed).overTheWire
  errorMessage := fits.errorMessage
  responseText := fits.responseText

theorem Message.carried_overTheWire
    {message : Message} (fits : message.Fits) :
    message.overTheWire.Carried := by
  refine ⟨fits.overTheWire, ?_⟩
  apply message.overTheWire.overTheWire_eq_iff.mpr
  refine ⟨rfl, ?_⟩
  intro n listed
  obtain ⟨sent, -, rfl⟩ := List.mem_map.mp listed
  rfl

theorem serializeMessage_overTheWire (message : Message) :
    serializeMessage message.overTheWire = serializeMessage message := by
  simp only [serializeMessage, Message.overTheWire, writeList,
    List.length_map, List.flatMap_map]
  rfl

theorem normalizeHealth_writeNodeInfo (n : NodeInfo) :
    normalizeHealth n.healthBytes (writeNodeInfo n) = writeNodeInfo n := by
  have mark :
      normalizeHealth [true] (writeUint8 (if n.isHealthy then 1 else 0)) =
        writeUint8 (if n.isHealthy then 1 else 0) := by
    apply normalizeHealth_mark.mpr
    refine ⟨_, ?_, rfl⟩
    cases n.isHealthy <;> rfl
  rw [writeNodeInfo_eq, NodeInfo.healthBytes, normalizeHealth_plain_append]
  exact
    ⟨_, (normalizeHealth_eq_append rfl).mpr
      ⟨_, _, mark, normalizeHealth_plain _ _, rfl⟩, rfl⟩

theorem normalizeHealth_flatMap (nodes : List NodeInfo) :
    normalizeHealth (nodes.flatMap NodeInfo.healthBytes)
        (nodes.flatMap writeNodeInfo) =
      nodes.flatMap writeNodeInfo := by
  induction nodes with
  | nil =>
      rfl
  | cons n nodes inductionHypothesis =>
      rw [List.flatMap_cons, List.flatMap_cons,
        normalizeHealth_append (length_healthBytes n),
        normalizeHealth_writeNodeInfo, inductionHypothesis]

theorem normalizeHealth_serializeMessage (message : Message) :
    normalizeHealth message.healthBytes (serializeMessage message) =
      serializeMessage message := by
  rw [serializeMessage_eq, Message.healthBytes,
    normalizeHealth_append (length_plainBytes _),
    normalizeHealth_append (length_healthBytes _),
    normalizeHealth_append (length_plainBytes _),
    normalizeHealth_append (length_flatMap_healthBytes _),
    normalizeHealth_writeNodeInfo, normalizeHealth_flatMap]
  simp only [normalizeHealth_plain]

theorem encodes_serializeMessage
    {message : Message} (carried : message.Carried) :
    message.Encodes (serializeMessage message) := by
  apply (message.encodes_iff _).mpr
  exact ⟨carried, normalizeHealth_serializeMessage message⟩

/-- Every message that fits is decoded from its encoding, whatever follows, with
all its fields except the file descriptors. -/
theorem deserialize_serialize
    (message : Message) (tail : ByteString) (fits : message.Fits) :
    deserializeMessage (serializeMessage message ++ tail) =
      .done message.overTheWire tail := by
  rw [← serializeMessage_overTheWire]
  apply reads_deserializeMessage.read_append
  exact encodes_serializeMessage (Message.carried_overTheWire fits)

/-- A decode node as another node knows it. -/
def decodeNodeSeen : NodeInfo :=
  { NodeInfo.healthy (.ofText "decode-1") .decode with
    nodeOwnOrchestratorFd := 7
    gpuId := -1
    ibSpeedGbps := 0xFFFFFFFFFFFFFFFF
    qmaps :=
      [{ peerNodeId := .ofText "prefill-1"
         localQpNum := 0xFFFFFFFF
         localLid := 0xFFFF
         localGid := .replicate 16 0xFE
         localPsn := 1
         remoteQpNum := 2
         remoteLid := 3
         remoteGid := .replicate 16 0x80
         remotePsn := 4
         remoteRkey := 0xFFFFFFFF00000000
         remoteAddr := 0x7FFFFFFFFFFFFFFF }] }

def memberInfoBroadcast : Message :=
  .createBroadcastMemberInfo ⟨.cleared, 5⟩ (.ofText "orchestrator")
    [decodeNodeSeen]

theorem memberInfoBroadcast_fits : memberInfoBroadcast.Fits := by
  have node (n : NodeInfo) (listed : n ∈ [NodeInfo.healthy [] .orchestrator,
      decodeNodeSeen]) : n.Fits := by
    rw [NodeInfo.fits_iff]
    revert n
    decide +kernel
  refine (Message.fits_iff _).mpr ⟨?_, ?_, ?_, ?_, ?_, ?_, ?_, ?_, ?_⟩
  case refine_4 =>
    exact (RequestInfo.fits_iff _).mpr (by decide +kernel)
  case refine_5 =>
    exact node _ (by decide +kernel)
  case refine_7 =>
    exact fun n listed => node n (List.mem_cons_of_mem _ listed)
  all_goals decide +kernel

theorem deserialize_serialize_memberInfoBroadcast :
    memberInfoBroadcast.Fits ∧
      deserializeMessage (serializeMessage memberInfoBroadcast ++ [0xFF]) =
        .done memberInfoBroadcast.overTheWire [0xFF] :=
  ⟨memberInfoBroadcast_fits,
    deserialize_serialize memberInfoBroadcast [0xFF] memberInfoBroadcast_fits⟩

/-- The decoder stays within every buffer.  It returns a message exactly when the
buffer starts with an encoding of it, and no buffer starts with two.  A buffer
that ends inside an encoding is refused.  Two buffers are decoded to one message
exactly when what was read of them is the same after normalisation. -/
theorem deserialize_iff_encoding (b : ByteString) :
    deserializeMessage b ≠ .overrun ∧
    (∀ message rest,
      deserializeMessage b = .done message rest ↔
        message.Carried ∧
          ∃ initial, b = initial ++ rest ∧
            normalizeHealth message.healthBytes initial =
              serializeMessage message) ∧
    (∀ (first second : Message) (initial another rest remaining : ByteString),
      first.Carried → second.Carried →
      b = initial ++ rest → b = another ++ remaining →
      normalizeHealth first.healthBytes initial = serializeMessage first →
      normalizeHealth second.healthBytes another = serializeMessage second →
        first = second ∧ initial = another ∧ rest = remaining) ∧
    (∀ (message : Message) (missing : ByteString),
      message.Carried → missing ≠ [] →
      normalizeHealth message.healthBytes (b ++ missing) =
          serializeMessage message →
        deserializeMessage b = .refused) ∧
    ∀ (other : ByteString) (first second : Message)
        (initial another rest remaining : ByteString),
      b = initial ++ rest → other = another ++ remaining →
      deserializeMessage b = .done first rest →
      deserializeMessage other = .done second remaining →
        (first = second ↔
          normalizeHealth first.healthBytes initial =
            normalizeHealth second.healthBytes another) := by
  have reads := reads_deserializeMessage
  have accepted (buffer : ByteString) (message : Message) (rest : ByteString) :
      deserializeMessage buffer = .done message rest ↔
        message.Carried ∧
          ∃ initial, buffer = initial ++ rest ∧
            normalizeHealth message.healthBytes initial =
              serializeMessage message := by
    rw [reads.done_iff]
    simp only [Message.encodes_iff]
    constructor
    · rintro ⟨initial, ⟨carried, normalized⟩, cut⟩
      exact ⟨carried, initial, cut, normalized⟩
    · rintro ⟨carried, initial, cut, normalized⟩
      exact ⟨initial, ⟨carried, normalized⟩, cut⟩
  refine ⟨reads.bounded b, accepted b, ?_, ?_, ?_⟩
  · intro first second initial another rest remaining carriedFirst
      carriedSecond cutFirst cutSecond normalizedFirst normalizedSecond
    exact
      reads.unique
        ((first.encodes_iff _).mpr ⟨carriedFirst, normalizedFirst⟩)
        ((second.encodes_iff _).mpr ⟨carriedSecond, normalizedSecond⟩)
        (cutFirst.symm.trans cutSecond)
  · intro message missing carried cut normalized
    exact
      reads.refused_of_cut
        ((message.encodes_iff _).mpr ⟨carried, normalized⟩) cut
  · rintro other first second initial another rest remaining rfl rfl
      readFirst readSecond
    obtain ⟨carriedFirst, _, sameFirst, normalizedFirst⟩ :=
      (accepted _ _ _).mp readFirst
    obtain ⟨carriedSecond, _, sameSecond, normalizedSecond⟩ :=
      (accepted _ _ _).mp readSecond
    cases List.append_cancel_right sameFirst
    cases List.append_cancel_right sameSecond
    rw [normalizedFirst, normalizedSecond]
    constructor
    · exact congrArg serializeMessage
    · intro sameEncoding
      have again :=
        reads.read_append (encodes_serializeMessage carriedFirst) []
      rw [sameEncoding,
        reads.read_append (encodes_serializeMessage carriedSecond) []] at again
      injection again with sameMessage
      exact sameMessage.symm

/-- A message as the process that holds the connection keeps it. -/
def messageWithDescriptor : Message :=
  { Message.cleared with
    nodeInfo :=
      { Message.cleared.nodeInfo with nodeOwnOrchestratorFd := 5 } }

/-- Its encoding is also that of the message without the descriptor, which is
the one returned. -/
theorem messageWithDescriptor_not_returned :
    messageWithDescriptor ≠ .cleared ∧
      serializeMessage messageWithDescriptor = serializeMessage .cleared ∧
        normalizeHealth messageWithDescriptor.healthBytes
            (serializeMessage messageWithDescriptor) =
          serializeMessage messageWithDescriptor ∧
        deserializeMessage (serializeMessage messageWithDescriptor) =
          .done .cleared [] := by
  decide +kernel

/-! ## Lengths -/

theorem length_writeList
    {α : Type} (write : α → ByteString) (elements : List α) :
    4 ≤ (writeList write elements).length := by
  rw [writeList, List.length_append, length_writeUint32]
  exact Nat.le_add_right 4 _

theorem length_writeUint8 (v : UInt8) : (writeUint8 v).length = 1 :=
  rfl

theorem length_writeRequestInfo (r : RequestInfo) :
    (writeRequestInfo r).length =
      72 + r.requestId.length + r.prompt.length + r.prefillNodeId.length +
        r.decodeNodeId.length := by
  simp only [writeRequestInfo, List.length_append, length_writeString,
    length_writeUint32, length_writeUint64]
  omega

theorem length_writeNodeInfo (n : NodeInfo) :
    (writeNodeInfo n).length =
      86 + n.nodeId.length + n.ipAddress.length + n.gpuName.length +
        n.ibDevName.length + (writeList writePeerInfo n.qmaps).length := by
  delta writeNodeInfo
  simp only [List.length_append, length_writeString, length_writeUint8,
    length_writeUint16, length_writeUint32, length_writeUint64]
  omega

theorem le_length_writeNodeInfo (n : NodeInfo) :
    90 ≤ (writeNodeInfo n).length := by
  have qmaps := length_writeList writePeerInfo n.qmaps
  rw [length_writeNodeInfo]
  omega

theorem length_writeNodeInfo_new (memory : NodeInfo) :
    (writeNodeInfo (.new memory)).length = 90 := by
  rw [length_writeNodeInfo]
  rfl

theorem length_serializeMessage (message : Message) :
    (serializeMessage message).length =
      38 + message.sourceNodeId.length +
        (writeRequestInfo message.requestInfo).length +
        (writeNodeInfo message.nodeInfo).length +
        (writeList writeNodeInfo message.membershipListInfo).length +
        message.errorMessage.length + message.responseText.length := by
  simp only [serializeMessage, List.length_append, length_writeString,
    length_writeUint8, length_writeUint32, length_writeUint64]
  omega

end RdmaKvCache
