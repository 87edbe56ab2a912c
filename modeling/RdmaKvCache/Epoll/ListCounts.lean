import RdmaKvCache.Epoll.InputFrames
import RdmaKvCache.Library.LoggedReaders

/-!
# Lists that a frame announces

`read_node_info` and `deserialize_message` resize a list to the number of elements
that the frame announces, before they have seen an element.  `read_string` compares
the announced length with what is left of the frame, and the lists go without this
check.

The counted readers are the readers with a log of the calls of `resize`.
-/

namespace RdmaKvCache

open ByteOrders CheckedReaders LoggedReaders

/-! ## Counted readers -/

/-- A reader that notes the number passed to `resize`, with what is left of the
buffer then. -/
abbrev CountedReader (α : Type) :=
  LoggedReader UInt32 UInt8 α

def countedList {α : Type} (read : CountedReader α) :
    CountedReader (List α) := do
  let count ← LoggedReader.quiet readUint32
  LoggedReader.note count
  LoggedReader.many count.toNat read

def countedNodeInfo : CountedReader NodeInfo := do
  let n ← LoggedReader.quiet readNodeFields
  let qmaps ← countedList (LoggedReader.quiet readPeerInfo)
  pure { n with qmaps := qmaps }

/-- The part of `deserialize_message` before the node, read into a new message. -/
def readMessageFields : ByteReader Message := do
  let typeByte ← readUint8
  let statusByte ← readUint8
  let transactionId ← readUint64
  let timestamp ← readUint64
  let sourceNodeId ← readString
  let requestInfo ← readRequestInfo
  pure
    { Message.cleared with
      type := .ofCode (codeOfByte typeByte)
      status := .ofCode (codeOfByte statusByte)
      transactionId := transactionId
      timestamp := timestamp
      sourceNodeId := sourceNodeId
      requestInfo := requestInfo }

def countedMessage : CountedReader Message := do
  let msg ← LoggedReader.quiet readMessageFields
  let nodeInfo ← countedNodeInfo
  let membershipListInfo ← countedList countedNodeInfo
  let errorMessage ← LoggedReader.quiet readString
  let numLayers ← LoggedReader.quiet readUint32
  let numTokens ← LoggedReader.quiet readUint32
  let responseText ← LoggedReader.quiet readString
  pure
    { msg with
      nodeInfo := nodeInfo
      membershipListInfo := membershipListInfo
      errorMessage := errorMessage
      kvMetadata := ⟨numLayers, numTokens⟩
      responseText := responseText }

def countedDeserializeMessage : CountedReader Message := fun data =>
  if data.isEmpty then ([], .refused) else countedMessage data

/-- The calls of `resize` while the buffer is decoded. -/
def resizes (data : ByteString) : List (UInt32 × ByteString) :=
  (countedDeserializeMessage data).1

/-! ## The log is only a log -/

theorem forget_countedList {α : Type} (read : CountedReader α) :
    (countedList read).forget = readList read.forget := by
  simp only [countedList, LoggedReader.forget_bind, LoggedReader.forget_quiet,
    LoggedReader.forget_note, LoggedReader.forget_many, Reader.pure_bind]
  rfl

theorem forget_countedNodeInfo : countedNodeInfo.forget = readNodeInfo := by
  rw [readNodeInfo_eq]
  simp only [countedNodeInfo, LoggedReader.forget_bind, forget_countedList,
    LoggedReader.forget_quiet, LoggedReader.forget_pure]

theorem forget_countedMessage : countedMessage.forget = readMessage := by
  simp only [countedMessage, LoggedReader.forget_bind, forget_countedList,
    forget_countedNodeInfo, LoggedReader.forget_quiet,
    LoggedReader.forget_pure, readMessageFields, Reader.bind_assoc]
  rfl

theorem forget_countedDeserializeMessage :
    countedDeserializeMessage.forget = deserializeMessage := by
  funext data
  rw [deserializeMessage, ← forget_countedMessage, LoggedReader.forget,
    countedDeserializeMessage]
  split
  · rfl
  · rfl

theorem resizes_eq (data : ByteString) :
    resizes data = (countedMessage data).1 := by
  cases data with
  | nil =>
      rfl
  | cons byte rest =>
      rfl

/-! ## Where a list is announced -/

theorem notes_countedList
    {α : Type} {read : CountedReader α} {format : α → ByteString → Prop}
    {place : UInt32 → ByteString → Prop} (notes : Notes read format place) :
    Notes (countedList read) (EncodesList format) fun event before =>
      before = writeUint32 event ∨
        ∃ (count : UInt32) (values : List α) (encodings : List ByteString)
          (last : ByteString),
          values.length < count.toNat ∧
            List.Forall₂ format values encodings ∧ place event last ∧
              before = writeUint32 count ++ (encodings.flatten ++ last) where
  reads := by
    rw [forget_countedList]
    exact reads_list notes.reads
  noted_iff := by
    have parts :=
      Notes.after reads_uint32 fun count =>
        (Notes.note count).bind fun _ => notes.many count.toNat
    refine (parts.congr ?_).noted_iff
    intro event before
    constructor
    · rintro ⟨count, _, remaining, rfl, ⟨rfl, rfl⟩ | ⟨_, _, last, ⟨-, rfl⟩,
        ⟨values, encodings, inner, short, encodes, isPlace, rfl⟩, rfl⟩, rfl⟩
      · exact Or.inl (List.append_nil _)
      · exact
          Or.inr
            ⟨count, values, encodings, inner, short, encodes, isPlace, rfl⟩
    · rintro (rfl | ⟨count, values, encodings, last, short, encodes, isPlace,
        rfl⟩)
      · exact
          ⟨event, _, [], rfl, Or.inl ⟨rfl, rfl⟩, (List.append_nil _).symm⟩
      · exact
          ⟨count, _, _, rfl,
            Or.inr
              ⟨PUnit.unit, [], _, ⟨rfl, rfl⟩,
                ⟨values, encodings, last, short, encodes, isPlace, rfl⟩, rfl⟩,
            rfl⟩

/-- The fields of a node, up to its connections. -/
def NodeFields (fields : ByteString) : Prop :=
  ∃ n : NodeInfo, n.EncodesFields fields

theorem notes_countedNodeInfo :
    Notes countedNodeInfo NodeInfo.Encodes fun event before =>
      ∃ fields, NodeFields fields ∧ before = fields ++ writeUint32 event where
  reads := by
    rw [forget_countedNodeInfo]
    exact reads_nodeInfo
  noted_iff := by
    have peer :
        Notes (LoggedReader.quiet readPeerInfo : CountedReader _) _ _ :=
      Notes.quiet reads_peerInfo
    have list := notes_countedList peer
    have parts :=
      Notes.after reads_nodeFields fun n =>
        list.bind fun qmaps => Notes.pure { n with qmaps := qmaps }
    refine (parts.congr ?_).noted_iff
    intro event before
    simp only [NodeFields, and_false, false_and, exists_false, or_false]
    constructor
    · rintro ⟨n, fields, _, encodesFields, rfl, rfl⟩
      exact ⟨fields, ⟨n, encodesFields⟩, rfl⟩
    · rintro ⟨fields, ⟨n, encodesFields⟩, rfl⟩
      exact ⟨n, fields, _, encodesFields, rfl, rfl⟩

/-- The encodings of the fields of a message that has no node yet. -/
def Message.EncodesFields (message : Message) (encoding : ByteString) : Prop :=
  { Message.cleared with
      type := message.type
      status := message.status
      transactionId := message.transactionId
      timestamp := message.timestamp
      sourceNodeId := message.sourceNodeId
      requestInfo := message.requestInfo } = message ∧
    FitsOneByte message.type.code ∧ FitsOneByte message.status.code ∧
      FitsSize message.sourceNodeId.length ∧ message.requestInfo.Fits ∧
        encoding = message.beforeNode

theorem reads_messageFields :
    Reads readMessageFields Message.EncodesFields := by
  have parts : Reads readMessageFields fun message encoding =>
      { Message.cleared with
        type := message.type
        status := message.status
        transactionId := message.transactionId
        timestamp := message.timestamp
        sourceNodeId := message.sourceNodeId
        requestInfo := message.requestInfo } = message ∧ _ :=
    reads_uint8.part Message.type (.ofCode <| codeOfByte ·) fun type =>
    reads_uint8.part Message.status (.ofCode <| codeOfByte ·) fun status =>
    reads_uint64.part Message.transactionId id fun transactionId =>
    reads_uint64.part Message.timestamp id fun timestamp =>
    reads_string.part Message.sourceNodeId id fun sourceNodeId =>
    reads_requestInfo.part Message.requestInfo id fun requestInfo =>
    Reads.complete fun other => by
      cases other
      simp only [id, Message.mk.injEq]
      grind
  refine parts.congr ?_
  intro message encoding
  apply and_congr_right
  intro _
  simp only [Reads.part_exact, Reads.part_valid, part_type, part_status]
  simp only [exists_eq_left, exists_and_left, and_assoc, List.append_nil,
    Message.beforeNode, List.append_assoc]

/-- The fields of a message, up to its node. -/
def MessageFields (fields : ByteString) : Prop :=
  ∃ message : Message, message.EncodesFields fields

/-- What stands before the number of elements of one of the lists of a message:
the connections of its node, its members, or the connections of a member. -/
inductive BeforeList : ByteString → Prop where
  | qmaps {fields node : ByteString} :
      MessageFields fields → NodeFields node → BeforeList (fields ++ node)
  | members {n : NodeInfo} {fields node : ByteString} :
      MessageFields fields → n.Encodes node → BeforeList (fields ++ node)
  | memberQmaps
      {n : NodeInfo} {members : List NodeInfo} {count : UInt32}
      {fields node last : ByteString} {encodings : List ByteString} :
      MessageFields fields → n.Encodes node → members.length < count.toNat →
        List.Forall₂ NodeInfo.Encodes members encodings → NodeFields last →
          BeforeList
            (fields ++
              (node ++ (writeUint32 count ++ (encodings.flatten ++ last))))

theorem notes_countedMessage :
    Notes countedMessage Message.Encodes fun event before =>
      ∃ initial, BeforeList initial ∧
        before = initial ++ writeUint32 event where
  reads := by
    rw [forget_countedMessage]
    exact reads_message
  noted_iff := by
    have members := notes_countedList notes_countedNodeInfo
    have parts :=
      Notes.after reads_messageFields fun msg =>
      notes_countedNodeInfo.bind fun nodeInfo =>
      members.bind fun membershipListInfo =>
      Notes.after reads_string fun errorMessage =>
      Notes.after reads_uint32 fun numLayers =>
      Notes.after reads_uint32 fun numTokens =>
      Notes.after reads_string fun responseText =>
      Notes.pure
        { msg with
          nodeInfo := nodeInfo
          membershipListInfo := membershipListInfo
          errorMessage := errorMessage
          kvMetadata := ⟨numLayers, numTokens⟩
          responseText := responseText }
    refine (parts.congr ?_).noted_iff
    intro event before
    simp only [and_false, false_and, exists_false, or_false]
    constructor
    · rintro ⟨message, fields, _, encodesFields, placed, rfl⟩
      have isFields : MessageFields fields := ⟨message, encodesFields⟩
      rcases placed with ⟨node, encodesNode, rfl⟩ |
        ⟨n, node, _, encodesNode, rfl | ⟨count, values, encodings, _, short,
          encodes, ⟨last, encodesLast, rfl⟩, rfl⟩, rfl⟩
      · refine ⟨_, .qmaps isFields encodesNode, ?_⟩
        simp only [List.append_assoc]
      · refine ⟨_, .members isFields encodesNode, ?_⟩
        simp only [List.append_assoc]
      · refine
          ⟨_, .memberQmaps isFields encodesNode short encodes encodesLast, ?_⟩
        simp only [List.append_assoc]
    · rintro ⟨initial, isBefore, rfl⟩
      cases isBefore with
      | @qmaps fields node isFields isNode =>
          obtain ⟨message, encodesFields⟩ := isFields
          refine
            ⟨message, fields, _, encodesFields, Or.inl ⟨node, isNode, rfl⟩, ?_⟩
          rw [List.append_assoc]
      | @members n fields node isFields encodesNode =>
          obtain ⟨message, encodesFields⟩ := isFields
          refine
            ⟨message, fields, _, encodesFields,
              Or.inr ⟨n, node, _, encodesNode, Or.inl rfl, rfl⟩, ?_⟩
          rw [List.append_assoc]
      | @memberQmaps n values count fields node last encodings isFields
          encodesNode short encodes isLast =>
          obtain ⟨message, encodesFields⟩ := isFields
          refine
            ⟨message, fields, _, encodesFields,
              Or.inr
                ⟨n, node, _, encodesNode,
                  Or.inr
                    ⟨count, values, encodings, _, short, encodes,
                      ⟨last, isLast, rfl⟩, rfl⟩, rfl⟩, ?_⟩
          simp only [List.append_assoc]

/-- The numbers of elements stand where the lists of a message are announced. -/
theorem mem_resizes
    (data : ByteString) (count : UInt32) (rest : ByteString) :
    (count, rest) ∈ resizes data ↔
      ∃ before, BeforeList before ∧
        data = before ++ (writeUint32 count ++ rest) := by
  rw [resizes_eq, notes_countedMessage.noted_iff]
  constructor
  · intro found
    obtain ⟨_, ⟨before, isBefore, rfl⟩, whole⟩ := found
    refine ⟨before, isBefore, ?_⟩
    rw [whole, List.append_assoc]
  · intro found
    obtain ⟨before, isBefore, whole⟩ := found
    refine ⟨_, ⟨before, isBefore, rfl⟩, ?_⟩
    rw [whole, List.append_assoc]

/-! ## Counts that the rest of the frame cannot bear out -/

/-- Some list of the message is announced with more elements than bytes follow. -/
def Overstated (data : ByteString) : Prop :=
  ∃ before count rest, BeforeList before ∧
    data = before ++ (writeUint32 count ++ rest) ∧ rest.length < count.toNat

/-- Every number passed to `resize` is at most the number of bytes that are left,
exactly if no list is announced with more elements than bytes follow. -/
theorem resizes_bounded_iff (data : ByteString) :
    (∀ count rest, (count, rest) ∈ resizes data →
        count.toNat ≤ rest.length) ↔
      ¬ Overstated data := by
  simp only [mem_resizes, Overstated]
  constructor
  · intro bounded overstated
    obtain ⟨before, count, rest, isBefore, whole, more⟩ := overstated
    have enough := bounded count rest ⟨before, isBefore, whole⟩
    exact Nat.not_lt_of_le enough more
  · intro borneOut count rest found
    obtain ⟨before, isBefore, whole⟩ := found
    apply Nat.le_of_not_lt
    intro more
    exact borneOut ⟨before, count, rest, isBefore, whole, more⟩

/-- A message without contents whose node announces the largest number of
connections, and nothing behind it. -/
def announcingFrame : ByteString :=
  Message.cleared.beforeNode ++
    (Message.cleared.nodeInfo.beforeHealth ++
      ([1] ++ Message.cleared.nodeInfo.beforeQmaps)) ++
    writeUint32 0xFFFFFFFF

theorem resizes_announcingFrame :
    resizes announcingFrame = [(0xFFFFFFFF, [])] := by
  decide +kernel

/-- A frame of 184 bytes makes `read_node_info` ask for 4294967295 connections when
no byte is left. -/
theorem announcingFrame_unbounded :
    ValidPayload announcingFrame ∧ announcingFrame.length = 184 ∧
      ¬ ∀ count rest, (count, rest) ∈ resizes announcingFrame →
          count.toNat ≤ rest.length := by
  refine ⟨by decide +kernel, by decide +kernel, ?_⟩
  intro bounded
  have resized : (0xFFFFFFFF, []) ∈ resizes announcingFrame := by
    rw [resizes_announcingFrame]
    exact List.mem_singleton_self _
  have impossible := bounded 0xFFFFFFFF [] resized
  cases impossible

/-! ## Frames that are decoded -/

/-- At least as many bytes are left as elements are announced. -/
def BorneOut (count : UInt32) (rest : ByteString) : Prop :=
  count.toNat ≤ rest.length

theorem fitWhenDone_countedList
    {α : Type} {read : CountedReader α} {format : α → ByteString → Prop}
    (each : FitWhenDone BorneOut read)
    (reads : Reads read.forget format)
    (nonempty : ∀ value encoding, format value encoding → encoding ≠ []) :
    FitWhenDone BorneOut (countedList read) := by
  refine (FitWhenDone.quiet readUint32).bind ?_
  intro count symbols values rest done event left noted
  have elements :
      Reader.many count.toNat read.forget symbols = .done values rest := by
    rw [← LoggedReader.forget_many]
    exact done
  rcases LoggedReader.mem_log_bind.mp noted with first | ⟨_, _, moved, later⟩
  · cases List.mem_singleton.mp first
    exact count_le_of_many reads nonempty elements
  · cases moved
    exact each.many count.toNat symbols values rest done event left later

theorem encodes_ne_nil
    {n : NodeInfo} {encoding : ByteString} (encodes : n.Encodes encoding) :
    encoding ≠ [] := by
  obtain ⟨-, mark, -, rfl⟩ := encodes
  intro empty
  have marked := (List.append_eq_nil_iff.mp empty).2
  cases marked

theorem writePeerInfo_ne_nil (q : PeerInfoandQPs) : writePeerInfo q ≠ [] := by
  intro empty
  have length := congrArg List.length empty
  simp only [writePeerInfo, List.length_append, length_writeUint32,
    List.length_nil] at length
  omega

theorem fitWhenDone_countedNodeInfo :
    FitWhenDone BorneOut countedNodeInfo := by
  refine (FitWhenDone.quiet readNodeFields).bind ?_
  intro n
  have list :=
    fitWhenDone_countedList (FitWhenDone.quiet readPeerInfo) reads_peerInfo
      fun q encoding encodes => encodes.2 ▸ writePeerInfo_ne_nil q
  exact list.bind fun qmaps => FitWhenDone.quiet (pure _)

theorem fitWhenDone_countedMessage :
    FitWhenDone BorneOut countedMessage := by
  have reads : Reads countedNodeInfo.forget NodeInfo.Encodes :=
    notes_countedNodeInfo.reads
  have members : FitWhenDone BorneOut (countedList countedNodeInfo) :=
    fitWhenDone_countedList fitWhenDone_countedNodeInfo reads
      fun n encoding => encodes_ne_nil
  exact
    (FitWhenDone.quiet readMessageFields).bind fun msg =>
    fitWhenDone_countedNodeInfo.bind fun nodeInfo =>
    members.bind fun membershipListInfo =>
    (FitWhenDone.quiet readString).bind fun errorMessage =>
    (FitWhenDone.quiet readUint32).bind fun numLayers =>
    (FitWhenDone.quiet readUint32).bind fun numTokens =>
    (FitWhenDone.quiet readString).bind fun responseText =>
    FitWhenDone.quiet (pure _)

theorem fitWhenDone_countedDeserializeMessage :
    FitWhenDone BorneOut countedDeserializeMessage := by
  intro data message rest done count left noted
  simp only [LoggedReader.forget, countedDeserializeMessage] at done noted
  split at noted
  · cases noted
  · rename_i someData
    rw [if_neg someData] at done
    exact
      fitWhenDone_countedMessage data message rest done count left noted

/-- In a frame that is decoded every number passed to `resize` is at most the number
of bytes that are left. -/
theorem decoded_lists_borne_out
    {data rest : ByteString} {message : Message}
    (decoded : deserializeMessage data = .done message rest) :
    ∀ count left, (count, left) ∈ resizes data → BorneOut count left := by
  rw [← forget_countedDeserializeMessage] at decoded
  exact fitWhenDone_countedDeserializeMessage data message rest decoded

/-- A message with one member. -/
def memberFrame : ByteString :=
  serializeMessage
    { Message.cleared with membershipListInfo := [Message.cleared.nodeInfo] }

theorem memberFrame_borne_out :
    (resizes memberFrame).map Prod.fst = [0, 1, 0] ∧
      ∀ count left, (count, left) ∈ resizes memberFrame →
        BorneOut count left := by
  have decodes : (deserializeMessage memberFrame).value?.isSome = true := by
    decide +kernel
  refine ⟨by decide +kernel, ?_⟩
  cases outcome : deserializeMessage memberFrame with
  | overrun | refused =>
      rw [outcome] at decodes
      cases decodes
  | done message rest =>
      exact decoded_lists_borne_out outcome

end RdmaKvCache
