import RdmaKvCache.Common.WireMessages
import RdmaKvCache.Library.ResumableParsers

/-!
# Frames in the input of a connection

TCP delivers a stream of bytes.  `handle_read` appends what has arrived to the
input buffer of the connection, and `parse_messages` takes complete frames from
its front: the length of the payload in four bytes, the most significant first,
and the payload.  A payload that is no message is skipped, and a length that is
zero or too large costs the connection.
-/

namespace RdmaKvCache

open ByteOrders CheckedReaders ResumableParsers

/-! ## Parsing -/

def maxMessageSize : UInt32 :=
  16 * 1024 * 1024

/-- What `ConnectionState` keeps of the frame that is being read. -/
structure FramePhase where
  readingHeader : Bool := true
  expectedPayloadLength : UInt32 := 0
  deriving DecidableEq

def InvalidLength (length : UInt32) : Prop :=
  length = 0 ∨ maxMessageSize < length

instance (length : UInt32) : Decidable (InvalidLength length) :=
  inferInstanceAs (Decidable (_ ∨ _))

/-- The first four bytes, from network byte order. -/
def headerLength (buffer : ByteString) : UInt32 :=
  UInt32.ofNat (ofBigEndian (buffer.take 4))

/-- What is pushed to the event queue for a payload. -/
def payloadEvent (fd : Int32) (payload : ByteString) : Option Event :=
  (deserializeMessage payload).value?.map fun message => ⟨fd, message⟩

/-- One phase of the loop of `parse_messages`.  After a header the loop goes on
with the payload, after a payload with the next header. -/
def parsePhase (fd : Int32) (phase : FramePhase) (buffer : ByteString) :
    Verdict FramePhase UInt8 Event :=
  if phase.readingHeader then
    if buffer.length < 4 then
      .waits
    else if InvalidLength (headerLength buffer) then
      .rejects
    else
      .advances ⟨false, headerLength buffer⟩ (buffer.drop 4) []
  else
    let length := phase.expectedPayloadLength.toNat
    if buffer.length < length then
      .waits
    else
      .advances {} (buffer.drop length)
        (payloadEvent fd (buffer.take length)).toList

/-- A header and a payload shorten the buffer; a payload that is awaited is
followed by a header. -/
def phaseMeasure (phase : FramePhase) (buffer : ByteString) : Nat :=
  2 * buffer.length + if phase.readingHeader then 0 else 1

def parseMessages (fd : Int32) (phase : FramePhase) (buffer : ByteString) :
    Parsed FramePhase UInt8 Event :=
  run (parsePhase fd) phaseMeasure phase buffer

inductive RecvEnd where
  | wouldBlock
  | closedByPeer
  | failed
  deriving DecidableEq

/-- Everything is read before it is parsed.  A connection that ends is removed
with what has arrived. -/
def handleRead
    (fd : Int32) (phase : FramePhase) (buffer : ByteString)
    (received : List ByteString) (last : RecvEnd) :
    Option (Parsed FramePhase UInt8 Event) :=
  match last with
  | .wouldBlock =>
      some (parseMessages fd phase (received.foldl (· ++ ·) buffer))
  | .closedByPeer | .failed => none

/-- A new connection whose input arrives in chunks, each of which is parsed when
it has been appended. -/
def receiveChunks (fd : Int32) (chunks : List ByteString) :
    StreamParsed FramePhase UInt8 Event :=
  feed (parsePhase fd) phaseMeasure 0 {} [] chunks

theorem handleRead_wouldBlock
    (fd : Int32) (phase : FramePhase) (buffer : ByteString)
    (received : List ByteString) :
    handleRead fd phase buffer received .wouldBlock =
      some (parseMessages fd phase (buffer ++ received.flatten)) := by
  have appended :
      received.foldl (· ++ ·) buffer = buffer ++ received.flatten := by
    induction received generalizing buffer with
    | nil =>
        exact (List.append_nil buffer).symm
    | cons piece received inductionHypothesis =>
        rw [List.foldl_cons, inductionHypothesis, List.flatten_cons,
          List.append_assoc]
  rw [handleRead, appended]

/-! ## One phase -/

section Phases

variable {fd : Int32} {phase : FramePhase} {buffer : ByteString}

theorem parsePhase_header_waits
    (reading : phase.readingHeader = true) (short : buffer.length < 4) :
    parsePhase fd phase buffer = .waits := by
  simp only [parsePhase, reading, short, if_true]

theorem parsePhase_header_rejects
    (reading : phase.readingHeader = true) (enough : 4 ≤ buffer.length)
    (invalid : InvalidLength (headerLength buffer)) :
    parsePhase fd phase buffer = .rejects := by
  have notShort : ¬ buffer.length < 4 := Nat.not_lt_of_le enough
  simp only [parsePhase, reading, notShort, invalid, if_true, if_false]

theorem parsePhase_header_advances
    (reading : phase.readingHeader = true) (enough : 4 ≤ buffer.length)
    (valid : ¬ InvalidLength (headerLength buffer)) :
    parsePhase fd phase buffer =
      .advances ⟨false, headerLength buffer⟩ (buffer.drop 4) [] := by
  have notShort : ¬ buffer.length < 4 := Nat.not_lt_of_le enough
  simp only [parsePhase, reading, notShort, valid, if_true, if_false]

theorem parsePhase_payload_waits
    (reading : phase.readingHeader = false)
    (short : buffer.length < phase.expectedPayloadLength.toNat) :
    parsePhase fd phase buffer = .waits := by
  simp only [parsePhase, reading, short, Bool.false_eq_true, if_true,
    if_false]

theorem parsePhase_payload_advances
    (reading : phase.readingHeader = false)
    (enough : phase.expectedPayloadLength.toNat ≤ buffer.length) :
    parsePhase fd phase buffer =
      .advances {} (buffer.drop phase.expectedPayloadLength.toNat)
        (payloadEvent fd
          (buffer.take phase.expectedPayloadLength.toNat)).toList := by
  have notShort : ¬ buffer.length < phase.expectedPayloadLength.toNat :=
    Nat.not_lt_of_le enough
  simp only [parsePhase, reading, notShort, Bool.false_eq_true, if_false]

theorem parsePhase_cases
    (fd : Int32) (phase : FramePhase) (buffer : ByteString) :
    parsePhase fd phase buffer = .waits ∨
      (phase.readingHeader = true ∧ 4 ≤ buffer.length ∧
        InvalidLength (headerLength buffer)) ∨
      (phase.readingHeader = true ∧ 4 ≤ buffer.length ∧
        ¬ InvalidLength (headerLength buffer)) ∨
      (phase.readingHeader = false ∧
        phase.expectedPayloadLength.toNat ≤ buffer.length) := by
  cases reading : phase.readingHeader with
  | true =>
      by_cases short : buffer.length < 4
      · exact .inl (parsePhase_header_waits reading short)
      · have enough : 4 ≤ buffer.length := Nat.le_of_not_lt short
        by_cases invalid : InvalidLength (headerLength buffer)
        · exact .inr (.inl ⟨rfl, enough, invalid⟩)
        · exact .inr (.inr (.inl ⟨rfl, enough, invalid⟩))
  | false =>
      by_cases short : buffer.length < phase.expectedPayloadLength.toNat
      · exact .inl (parsePhase_payload_waits reading short)
      · exact .inr (.inr (.inr ⟨rfl, Nat.le_of_not_lt short⟩))

/-- The parser advances over a valid header or over a whole payload. -/
theorem parsePhase_eq_advances
    {next : FramePhase} {rest : ByteString} {outputs : List Event}
    (advances : parsePhase fd phase buffer = .advances next rest outputs) :
    (phase.readingHeader = true ∧ 4 ≤ buffer.length ∧
        ¬ InvalidLength (headerLength buffer)) ∨
      (phase.readingHeader = false ∧
        phase.expectedPayloadLength.toNat ≤ buffer.length) := by
  rcases parsePhase_cases fd phase buffer with
    waits | ⟨reading, enough, invalid⟩ | header | payload
  · rw [waits] at advances
    cases advances
  · rw [parsePhase_header_rejects reading enough invalid] at advances
    cases advances
  · exact .inl header
  · exact .inr payload

theorem parsePhase_eq_rejects
    (rejects : parsePhase fd phase buffer = .rejects) :
    phase.readingHeader = true ∧ 4 ≤ buffer.length ∧
      InvalidLength (headerLength buffer) := by
  rcases parsePhase_cases fd phase buffer with
    waits | invalid | ⟨reading, enough, valid⟩ | ⟨reading, enough⟩
  · rw [waits] at rejects
    cases rejects
  · exact invalid
  · rw [parsePhase_header_advances reading enough valid] at rejects
    cases rejects
  · rw [parsePhase_payload_advances reading enough] at rejects
    cases rejects

end Phases

theorem headerLength_append
    {buffer : ByteString} (enough : 4 ≤ buffer.length) (more : ByteString) :
    headerLength (buffer ++ more) = headerLength buffer := by
  rw [headerLength, List.take_append_of_le_length enough, headerLength]

theorem le_length_append {count : Nat} {buffer : ByteString}
    (enough : count ≤ buffer.length) (more : ByteString) :
    count ≤ (buffer ++ more).length := by
  rw [List.length_append]
  exact Nat.le_add_right_of_le enough

theorem stable_parsePhase (fd : Int32) :
    Stable (parsePhase fd) phaseMeasure where
  decreases := by
    intro phase buffer next rest outputs advances
    rcases parsePhase_eq_advances advances with
      ⟨reading, enough, valid⟩ | ⟨reading, enough⟩
    · rw [parsePhase_header_advances reading enough valid] at advances
      cases advances
      simp only [phaseMeasure, reading, List.length_drop, if_true,
        Bool.false_eq_true, if_false]
      omega
    · rw [parsePhase_payload_advances reading enough] at advances
      cases advances
      simp only [phaseMeasure, reading, List.length_drop, if_true,
        Bool.false_eq_true, if_false]
      omega
  advances_append := by
    intro phase buffer next rest outputs advances more
    rcases parsePhase_eq_advances advances with
      ⟨reading, enough, valid⟩ | ⟨reading, enough⟩
    · rw [parsePhase_header_advances reading enough valid] at advances
      cases advances
      rw [← headerLength_append enough more] at valid
      rw [parsePhase_header_advances reading (le_length_append enough more)
          valid,
        headerLength_append enough, List.drop_append_of_le_length enough]
    · rw [parsePhase_payload_advances reading enough] at advances
      cases advances
      rw [parsePhase_payload_advances reading (le_length_append enough more),
        List.drop_append_of_le_length enough,
        List.take_append_of_le_length enough]
  rejects_append := by
    intro phase buffer rejects more
    obtain ⟨reading, enough, invalid⟩ := parsePhase_eq_rejects rejects
    rw [← headerLength_append enough more] at invalid
    exact
      parsePhase_header_rejects reading (le_length_append enough more) invalid

/-! ## Frames -/

def ValidPayload (payload : ByteString) : Prop :=
  0 < payload.length ∧ payload.length ≤ maxMessageSize.toNat

instance (payload : ByteString) : Decidable (ValidPayload payload) :=
  inferInstanceAs (Decidable (_ ∧ _))

/-- The length, converted by `htonl`, and the payload. -/
def frame (payload : ByteString) : ByteString :=
  writeUint32 (UInt32.ofNat payload.length) ++ payload

theorem headerLength_write (length : UInt32) (rest : ByteString) :
    headerLength (writeUint32 length ++ rest) = length := by
  have four : (writeUint32 length).length = 4 := length_writeUint32 length
  have bound : length.toNat < 256 ^ 4 := length.toNat_lt
  rw [headerLength, List.take_append_of_le_length (Nat.le_of_eq four.symm),
    List.take_of_length_le (Nat.le_of_eq four), writeUint32,
    ofBigEndian_bigEndian, Nat.mod_eq_of_lt bound, UInt32.ofNat_toNat]

theorem write_headerLength
    {buffer : ByteString} (enough : 4 ≤ buffer.length) :
    writeUint32 (headerLength buffer) ++ buffer.drop 4 = buffer := by
  have four : (buffer.take 4).length = 4 := List.length_take_of_le enough
  have stored := bigEndian_ofBigEndian (buffer.take 4)
  rw [four] at stored
  rw [headerLength, writeUint32, uint32_ofBigEndian_toNat (Nat.le_of_eq four),
    stored, List.take_append_drop]

theorem validPayload_size
    {payload : ByteString} (valid : ValidPayload payload) :
    FitsSize payload.length :=
  Nat.lt_of_le_of_lt valid.2 (UInt32.toNat_lt maxMessageSize)

theorem validPayload_iff {payload : ByteString} (fits : FitsSize payload.length) :
    ValidPayload payload ↔
      ¬ InvalidLength (UInt32.ofNat payload.length) := by
  have size := toNat_size fits
  rw [InvalidLength, not_or, UInt32.lt_iff_toNat_lt, size, Nat.not_lt,
    ValidPayload, Nat.pos_iff_ne_zero, ← UInt32.toNat_inj, size]
  rfl

section Headers

variable (fd : Int32) {length : UInt32}

theorem four_le_length (length : UInt32) (rest : ByteString) :
    4 ≤ (writeUint32 length ++ rest).length := by
  rw [List.length_append, length_writeUint32]
  exact Nat.le_add_right 4 _

theorem parse_invalid (invalid : InvalidLength length) (rest : ByteString) :
    parseMessages fd {} (writeUint32 length ++ rest) =
      ⟨[], .rejected (writeUint32 length ++ rest)⟩ := by
  apply run_rejects
  apply parsePhase_header_rejects rfl (four_le_length length rest)
  rwa [headerLength_write]

theorem parse_header (valid : ¬ InvalidLength length) (rest : ByteString) :
    parseMessages fd {} (writeUint32 length ++ rest) =
      parseMessages fd ⟨false, length⟩ rest := by
  have header := headerLength_write length rest
  rw [← header] at valid
  have advances :
      parsePhase fd {} (writeUint32 length ++ rest) =
        .advances ⟨false, length⟩ rest [] := by
    rw [parsePhase_header_advances rfl (four_le_length length rest) valid,
      header, List.drop_left' (length_writeUint32 length)]
  exact (stable_parsePhase fd).run_advances advances

theorem parse_incomplete {rest : ByteString} (cut : rest.length < length.toNat) :
    parseMessages fd ⟨false, length⟩ rest =
      ⟨[], .waiting ⟨false, length⟩ rest⟩ := by
  apply run_waits
  exact parsePhase_payload_waits rfl cut

theorem parse_short {buffer : ByteString} (short : buffer.length < 4) :
    parseMessages fd {} buffer = ⟨[], .waiting {} buffer⟩ := by
  apply run_waits
  exact parsePhase_header_waits rfl short

theorem parse_payload
    {payload : ByteString} (whole : payload.length = length.toNat)
    (rest : ByteString) :
    parseMessages fd ⟨false, length⟩ (payload ++ rest) =
      (parseMessages fd {} rest).after (payloadEvent fd payload).toList := by
  have enough : length.toNat ≤ (payload ++ rest).length :=
    le_length_append (Nat.le_of_eq whole.symm) rest
  have advances :
      parsePhase fd ⟨false, length⟩ (payload ++ rest) =
        .advances {} rest (payloadEvent fd payload).toList := by
    rw [parsePhase_payload_advances rfl enough, List.drop_left' whole,
      List.take_left' whole]
  exact (stable_parsePhase fd).run_advances advances

/-- A frame is taken from the front and its message is handed on. -/
theorem parse_frame
    {payload : ByteString} (valid : ValidPayload payload)
    (rest : ByteString) :
    parseMessages fd {} (frame payload ++ rest) =
      (parseMessages fd {} rest).after (payloadEvent fd payload).toList := by
  have fits : FitsSize payload.length := validPayload_size valid
  have accepted := (validPayload_iff fits).mp valid
  rw [frame, List.append_assoc, parse_header fd accepted]
  exact parse_payload fd (toNat_size fits).symm rest

end Headers

/-- How a stream can start. -/
inductive StreamStart : ByteString → Prop where
  | short (stream : ByteString) :
      stream.length < 4 → StreamStart stream
  | invalid (length : UInt32) (rest : ByteString) :
      InvalidLength length → StreamStart (writeUint32 length ++ rest)
  | incomplete (length : UInt32) (rest : ByteString) :
      ¬ InvalidLength length → rest.length < length.toNat →
        StreamStart (writeUint32 length ++ rest)
  | complete (payload rest : ByteString) :
      ValidPayload payload → StreamStart (frame payload ++ rest)

theorem streamStart (stream : ByteString) : StreamStart stream := by
  by_cases short : stream.length < 4
  · exact .short stream short
  · have enough : 4 ≤ stream.length := Nat.le_of_not_lt short
    have header := write_headerLength enough
    generalize headerLength stream = length at header
    generalize stream.drop 4 = rest at header
    subst header
    by_cases invalid : InvalidLength length
    · exact .invalid length rest invalid
    · by_cases cut : rest.length < length.toNat
      · exact .incomplete length rest invalid cut
      · have taken : (rest.take length.toNat).length = length.toNat :=
          List.length_take_of_le (Nat.le_of_not_lt cut)
        have same :
            UInt32.ofNat (rest.take length.toNat).length = length := by
          rw [taken, UInt32.ofNat_toNat]
        have fits : FitsSize (rest.take length.toNat).length := by
          rw [taken]
          exact length.toNat_lt
        have valid : ValidPayload (rest.take length.toNat) := by
          rw [validPayload_iff fits, same]
          exact invalid
        have complete :=
          StreamStart.complete _ (rest.drop length.toNat) valid
        rwa [frame, same, List.append_assoc, List.take_append_drop] at complete

/-! ## Streams -/

/-- How parsing ends when `rest` is what remains behind the complete frames. -/
def endingOf (rest : ByteString) : Ending FramePhase UInt8 :=
  if rest.length < 4 then
    .waiting {} rest
  else if InvalidLength (headerLength rest) then
    .rejected rest
  else
    .waiting ⟨false, headerLength rest⟩ (rest.drop 4)

/-- The complete frames at the start of a stream, as many as there are. -/
structure CompleteFrames
    (stream : ByteString) (payloads : List ByteString) (rest : ByteString) :
    Prop where
  valid : ∀ payload ∈ payloads, ValidPayload payload
  split : stream = (payloads.map frame).flatten ++ rest
  maximal :
    ∀ others remaining,
      (∀ payload ∈ others, ValidPayload payload) →
        stream = (others.map frame).flatten ++ remaining →
          others <+: payloads

theorem frame_injective
    {payload other rest remaining : ByteString}
    (valid : ValidPayload payload) (validOther : ValidPayload other)
    (same : frame payload ++ rest = frame other ++ remaining) :
    payload = other ∧ rest = remaining := by
  obtain ⟨samePayload, _, sameRest⟩ :=
    reads_string.unique ⟨validPayload_size valid, rfl⟩
      ⟨validPayload_size validOther, rfl⟩ same
  exact ⟨samePayload, sameRest⟩

/-- Nothing that starts with a complete frame is left. -/
def Unframed (rest : ByteString) : Prop :=
  ∀ payload remaining, ValidPayload payload →
    rest ≠ frame payload ++ remaining

theorem completeFrames_cons
    {payload stream rest : ByteString} {payloads : List ByteString}
    (valid : ValidPayload payload)
    (frames : CompleteFrames stream payloads rest) :
    CompleteFrames (frame payload ++ stream) (payload :: payloads) rest where
  valid := List.forall_mem_cons.mpr ⟨valid, frames.valid⟩
  split := by
    rw [List.map_cons, List.flatten_cons, List.append_assoc, ← frames.split]
  maximal := by
    intro others remaining validOthers split
    cases others with
    | nil =>
        exact List.nil_prefix
    | cons other others =>
        obtain ⟨validOther, validLater⟩ := List.forall_mem_cons.mp validOthers
        rw [List.map_cons, List.flatten_cons, List.append_assoc] at split
        obtain ⟨rfl, behind⟩ := frame_injective valid validOther split
        exact
          List.cons_prefix_cons.mpr
            ⟨rfl, frames.maximal others remaining validLater behind⟩

theorem completeFrames_nil
    {rest : ByteString} (unframed : Unframed rest) :
    CompleteFrames rest [] rest where
  valid := List.forall_mem_nil _
  split := rfl
  maximal := by
    intro others remaining validOthers split
    cases others with
    | nil =>
        exact List.nil_prefix
    | cons other others =>
        rw [List.map_cons, List.flatten_cons, List.append_assoc] at split
        exact (unframed other _ (validOthers other List.mem_cons_self) split).elim

theorem endingOf_header (length : UInt32) (rest : ByteString) :
    endingOf (writeUint32 length ++ rest) =
      if InvalidLength length then .rejected (writeUint32 length ++ rest)
      else .waiting ⟨false, length⟩ rest := by
  have notShort : ¬ (writeUint32 length ++ rest).length < 4 :=
    Nat.not_lt_of_le (four_le_length length rest)
  rw [endingOf, if_neg notShort, headerLength_write,
    List.drop_left' (length_writeUint32 length)]

theorem unframed_of_invalid
    {length : UInt32} (invalid : InvalidLength length) (rest : ByteString) :
    Unframed (writeUint32 length ++ rest) := by
  intro payload remaining valid same
  have header := congrArg headerLength same
  rw [frame, List.append_assoc, headerLength_write, headerLength_write]
    at header
  rw [header] at invalid
  exact (validPayload_iff (validPayload_size valid)).mp valid invalid

theorem unframed_of_incomplete
    {length : UInt32} {rest : ByteString} (cut : rest.length < length.toNat) :
    Unframed (writeUint32 length ++ rest) := by
  intro payload remaining valid same
  have header := congrArg headerLength same
  rw [frame, List.append_assoc, headerLength_write, headerLength_write]
    at header
  have lengths := congrArg List.length same
  simp only [frame, List.length_append, length_writeUint32] at lengths
  rw [header, toNat_size (validPayload_size valid)] at cut
  omega

theorem unframed_of_short
    {rest : ByteString} (short : rest.length < 4) : Unframed rest := by
  rintro payload remaining _ rfl
  rw [frame, List.append_assoc] at short
  exact Nat.not_lt_of_le (four_le_length _ _) short

/-- Parsing a whole stream yields the messages of its complete frames. -/
theorem parse_stream (fd : Int32) (stream : ByteString) :
    ∃ payloads rest,
      CompleteFrames stream payloads rest ∧
        parseMessages fd {} stream =
          ⟨payloads.filterMap (payloadEvent fd), endingOf rest⟩ := by
  generalize size : stream.length = bound
  induction bound using Nat.strongRecOn generalizing stream with
  | ind bound inductionHypothesis =>
      subst size
      cases streamStart stream with
      | short _ short =>
          refine ⟨[], stream, completeFrames_nil (unframed_of_short short), ?_⟩
          rw [parse_short fd short, endingOf, if_pos short, List.filterMap_nil]
      | invalid length rest invalid =>
          refine
            ⟨[], _, completeFrames_nil (unframed_of_invalid invalid rest), ?_⟩
          rw [parse_invalid fd invalid, endingOf_header, if_pos invalid,
            List.filterMap_nil]
      | incomplete length rest valid cut =>
          refine
            ⟨[], _, completeFrames_nil (unframed_of_incomplete cut), ?_⟩
          rw [parse_header fd valid, parse_incomplete fd cut, endingOf_header,
            if_neg valid, List.filterMap_nil]
      | complete payload rest valid =>
          have shorter : rest.length < (frame payload ++ rest).length := by
            simp only [frame, List.length_append, length_writeUint32]
            omega
          obtain ⟨payloads, remaining, frames, parsed⟩ :=
            inductionHypothesis rest.length shorter rest rfl
          refine
            ⟨payload :: payloads, remaining, completeFrames_cons valid frames,
              ?_⟩
          rw [parse_frame fd valid, parsed, Parsed.after]
          cases event : payloadEvent fd payload with
          | none =>
              rw [List.filterMap_cons_none event]
              rfl
          | some event =>
              rw [List.filterMap_cons_some ‹_›]
              rfl

theorem receiveChunks_eq (fd : Int32) (chunks : List ByteString) :
    receiveChunks fd chunks =
      ⟨(parseMessages fd {} chunks.flatten).outputs,
        (parseMessages fd {} chunks.flatten).ending.located
          chunks.flatten.length⟩ := by
  have whole : receiveChunks fd chunks = receiveChunks fd [chunks.flatten] := by
    apply (stable_parsePhase fd).feed_eq_flatten
    exact parsePhase_header_waits rfl (by decide)
  rw [whole, receiveChunks, feed_singleton, List.nil_append, Nat.zero_add]
  rfl

/-- What a connection hands to the event queue, whether and where it is removed
and the state it is left in depend on the stream alone, and the events are those
of the complete frames at its start. -/
theorem receiveChunks_flatten (fd : Int32) (chunks : List ByteString) :
    receiveChunks fd chunks = receiveChunks fd [chunks.flatten] ∧
      ∃ payloads rest,
        CompleteFrames chunks.flatten payloads rest ∧
          (receiveChunks fd chunks).outputs =
            payloads.filterMap (payloadEvent fd) ∧
          (receiveChunks fd chunks).ending =
            (endingOf rest).located chunks.flatten.length := by
  have single : [chunks.flatten].flatten = chunks.flatten := by
    rw [List.flatten_cons, List.flatten_nil, List.append_nil]
  obtain ⟨payloads, rest, frames, parsed⟩ := parse_stream fd chunks.flatten
  rw [receiveChunks_eq fd chunks, receiveChunks_eq fd [chunks.flatten], single,
    parsed]
  exact ⟨rfl, payloads, rest, frames, rfl, rfl⟩

end RdmaKvCache
