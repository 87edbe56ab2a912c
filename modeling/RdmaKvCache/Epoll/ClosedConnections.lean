import RdmaKvCache.Epoll.InputFrames

/-!
# Connections that are closed by the peer

The event loop removes a connection on a hang-up before it looks for input, and
`handle_read` removes it at the end of the stream before it parses.  Either way the
bytes that come with the wake-up are lost, and with them the frames they complete.
-/

namespace RdmaKvCache

open CheckedReaders ResumableParsers

/-- What `epoll_wait` reports of a connection, and what `recv` returns if it is
called then. -/
structure WakeUp where
  /-- `EPOLLERR` or `EPOLLHUP`. -/
  hangup : Bool := false
  readable : Bool := true
  received : List ByteString
  last : RecvEnd

def WakeUp.bytes (wakeUp : WakeUp) : ByteString :=
  wakeUp.received.flatten

/-- The phase and the input buffer of the connection until it is removed, and what
is in the event queue, which has room. -/
structure InputConnection where
  input : Option (FramePhase × ByteString) := some ({}, [])
  pushed : List Event := []

namespace InputConnection

def afterParsing
    (connection : InputConnection) (parsed : Parsed FramePhase UInt8 Event) :
    InputConnection where
  input :=
    match parsed.ending with
    | .waiting phase buffer => some (phase, buffer)
    | .rejected _ => none
  pushed := connection.pushed ++ parsed.outputs

def handleError (connection : InputConnection) : InputConnection :=
  { connection with input := none }

/-- The body of the event loop for a connection. -/
def dispatch
    (fd : Int32) (connection : InputConnection) (wakeUp : WakeUp) :
    InputConnection :=
  match connection.input with
  | none => connection
  | some (phase, buffer) =>
      if wakeUp.hangup then
        connection.handleError
      else if wakeUp.readable then
        match handleRead fd phase buffer wakeUp.received wakeUp.last with
        | none => { connection with input := none }
        | some parsed => connection.afterParsing parsed
      else
        connection

def dispatchAll
    (fd : Int32) (connection : InputConnection) (wakeUps : List WakeUp) :
    InputConnection :=
  wakeUps.foldl (dispatch fd) connection

end InputConnection

/-- The wake-up neither ends the connection nor leaves something to be read. -/
structure WakeUp.Drains (wakeUp : WakeUp) : Prop where
  noHangup : wakeUp.hangup = false
  drained : wakeUp.readable = true → wakeUp.last = .wouldBlock
  nothingElse : wakeUp.readable = false → wakeUp.received = []

/-- With the wake-up the connection is closed by the peer.  On a hang-up the bytes
are those that could still be read. -/
def WakeUp.Closes (wakeUp : WakeUp) : Prop :=
  wakeUp.hangup = true ∨
    wakeUp.readable = true ∧ wakeUp.last = .closedByPeer

/-- A way the stream can come in until the peer closes the connection. -/
structure Spread
    (stream : ByteString) (earlier : List WakeUp) (closing : WakeUp) :
    Prop where
  drains : ∀ wakeUp ∈ earlier, wakeUp.Drains
  closes : closing.Closes
  stream_eq : (earlier.map WakeUp.bytes).flatten ++ closing.bytes = stream

/-! ## Wake-ups -/

namespace InputConnection

/-- The connection has parsed these bytes. -/
structure HasParsed
    (fd : Int32) (connection : InputConnection) (bytes : ByteString) :
    Prop where
  pushed : connection.pushed = (parseMessages fd {} bytes).outputs
  input :
    connection.input =
      match (parseMessages fd {} bytes).ending with
      | .waiting phase buffer => some (phase, buffer)
      | .rejected _ => none

variable {fd : Int32} {connection : InputConnection} {bytes : ByteString}

/-- Parsing goes on with what it has left. -/
theorem parseMessages_append (fd : Int32) (bytes more : ByteString) :
    parseMessages fd {} (bytes ++ more) =
      match (parseMessages fd {} bytes).ending with
      | .rejected rest =>
          ⟨(parseMessages fd {} bytes).outputs, .rejected (rest ++ more)⟩
      | .waiting phase rest =>
          (parseMessages fd phase (rest ++ more)).after
            (parseMessages fd {} bytes).outputs := by
  have goesOn := (stable_parsePhase fd).run_append {} bytes more
  cases ending : (parseMessages fd {} bytes).ending with
  | rejected rest =>
      rw [parseMessages] at ending
      rw [ending] at goesOn
      exact goesOn
  | waiting phase rest =>
      rw [parseMessages] at ending
      rw [ending] at goesOn
      exact goesOn

theorem hasParsed_nil (fd : Int32) : HasParsed fd {} [] := by
  have nothing : parseMessages fd {} [] = ⟨[], .waiting {} []⟩ :=
    parse_short fd (by decide)
  constructor
  · rw [nothing]
  · rw [nothing]

theorem HasParsed.dispatch
    {wakeUp : WakeUp} (parsed : HasParsed fd connection bytes)
    (drains : wakeUp.Drains) :
    HasParsed fd (connection.dispatch fd wakeUp) (bytes ++ wakeUp.bytes) := by
  have goesOn := parseMessages_append fd bytes wakeUp.bytes
  have input := parsed.input
  rw [InputConnection.dispatch]
  cases ending : (parseMessages fd {} bytes).ending with
  | rejected rest =>
      rw [ending] at goesOn input
      rw [input]
      constructor
      · rw [goesOn]
        exact parsed.pushed
      · rw [goesOn]
        exact input
  | waiting phase buffer =>
      rw [ending] at goesOn input
      rw [input]
      simp only [drains.noHangup, Bool.false_eq_true, if_false]
      cases readable : wakeUp.readable with
      | false =>
          have nothing : wakeUp.bytes = [] := by
            rw [WakeUp.bytes, drains.nothingElse readable, List.flatten_nil]
          rw [nothing, List.append_nil]
          exact parsed
      | true =>
          rw [drains.drained readable, handleRead_wouldBlock]
          simp only [if_true]
          constructor
          · rw [goesOn, afterParsing, parsed.pushed]
            rfl
          · rw [goesOn]
            rfl

theorem hasParsed_dispatchAll
    {wakeUps : List WakeUp} (parsed : HasParsed fd connection bytes)
    (drains : ∀ wakeUp ∈ wakeUps, wakeUp.Drains) :
    HasParsed fd (connection.dispatchAll fd wakeUps)
      (bytes ++ (wakeUps.map WakeUp.bytes).flatten) := by
  induction wakeUps generalizing connection bytes with
  | nil =>
      rw [List.map_nil, List.flatten_nil, List.append_nil]
      exact parsed
  | cons wakeUp rest inductionHypothesis =>
      obtain ⟨drainsFirst, drainsRest⟩ := List.forall_mem_cons.mp drains
      have later :=
        inductionHypothesis (parsed.dispatch drainsFirst) drainsRest
      rw [List.map_cons, List.flatten_cons, ← List.append_assoc]
      exact later

/-- The connection is removed with what it has not parsed. -/
theorem dispatch_closing
    {closing : WakeUp} (closes : closing.Closes) :
    (connection.dispatch fd closing).input = none ∧
      (connection.dispatch fd closing).pushed = connection.pushed := by
  rw [InputConnection.dispatch]
  cases input : connection.input with
  | none =>
      exact ⟨input, rfl⟩
  | some state =>
      obtain ⟨phase, buffer⟩ := state
      rcases closes with hangup | ⟨readable, closed⟩
      · simp only [hangup, if_true]
        exact ⟨rfl, rfl⟩
      · simp only [readable, closed, handleRead, if_true]
        split
        · exact ⟨rfl, rfl⟩
        · exact ⟨rfl, rfl⟩

/-- What has been pushed when the peer has closed the connection comes from the
bytes of the earlier wake-ups. -/
theorem dispatchAll_closing
    {stream : ByteString} {earlier : List WakeUp} {closing : WakeUp}
    (spread : Spread stream earlier closing) :
    (dispatchAll fd {} (earlier ++ [closing])).input = none ∧
      (dispatchAll fd {} (earlier ++ [closing])).pushed =
        (parseMessages fd {} (earlier.map WakeUp.bytes).flatten).outputs := by
  have parsed := hasParsed_dispatchAll (hasParsed_nil fd) spread.drains
  rw [List.nil_append] at parsed
  rw [dispatchAll, List.foldl_append]
  obtain ⟨input, pushed⟩ := dispatch_closing spread.closes
  exact ⟨input, pushed.trans parsed.pushed⟩

end InputConnection

/-! ## Delivery -/

theorem completeFrames_flatten
    {payloads : List ByteString}
    (valid : ∀ payload ∈ payloads, ValidPayload payload) :
    CompleteFrames (payloads.map frame).flatten payloads [] := by
  induction payloads with
  | nil =>
      exact completeFrames_nil (unframed_of_short (by decide))
  | cons payload rest inductionHypothesis =>
      obtain ⟨validFirst, validRest⟩ := List.forall_mem_cons.mp valid
      rw [List.map_cons, List.flatten_cons]
      exact completeFrames_cons validFirst (inductionHypothesis validRest)

/-- Part of a stream of frames has all of their payloads only if nothing is
missing. -/
theorem CompleteFrames.of_prefix
    {payloads others : List ByteString} {bytes missing rest : ByteString}
    (valid : ∀ payload ∈ payloads, ValidPayload payload)
    (split : bytes ++ missing = (payloads.map frame).flatten)
    (frames : CompleteFrames bytes others rest) :
    ∃ lost, payloads = others ++ lost ∧ (lost = [] ↔ missing = []) := by
  have whole : (payloads.map frame).flatten =
      (others.map frame).flatten ++ (rest ++ missing) := by
    rw [← split, frames.split, List.append_assoc]
  obtain ⟨lost, isLost⟩ :=
    (completeFrames_flatten valid).maximal others (rest ++ missing)
      frames.valid whole
  refine ⟨lost, isLost.symm, ?_⟩
  constructor
  · intro noneLost
    rw [noneLost, List.append_nil] at isLost
    rw [isLost] at whole
    exact (List.append_eq_nil_iff.mp (List.self_eq_append_right.mp whole)).2
  · intro noneMissing
    rw [noneMissing, List.append_nil] at split
    have among : payloads <+: others := by
      apply frames.maximal payloads [] valid
      rw [split, List.append_nil]
    have lengths := among.length_le
    rw [← isLost, List.length_append] at lengths
    exact List.eq_nil_of_length_eq_zero (by omega)

/-- All messages are pushed, in order, before the connection is removed, exactly if
no bytes come with the wake-up that closes it. -/
theorem frames_delivered_iff
    {fd : Int32} {payloads : List ByteString} {earlier : List WakeUp}
    {closing : WakeUp}
    (valid : ∀ payload ∈ payloads, ValidPayload payload)
    (decodable : ∀ payload ∈ payloads, (payloadEvent fd payload).isSome)
    (spread : Spread (payloads.map frame).flatten earlier closing) :
    (InputConnection.dispatchAll fd {} (earlier ++ [closing])).input = none ∧
        (InputConnection.dispatchAll fd {} (earlier ++ [closing])).pushed =
          payloads.filterMap (payloadEvent fd) ↔
      closing.bytes = [] := by
  obtain ⟨removed, pushed⟩ := InputConnection.dispatchAll_closing spread
  obtain ⟨others, rest, frames, parsed⟩ :=
    parse_stream fd (earlier.map WakeUp.bytes).flatten
  obtain ⟨lost, isLost, noneLost⟩ :=
    frames.of_prefix valid spread.stream_eq
  rw [← noneLost, pushed, parsed]
  constructor
  · intro delivered
    have same := delivered.2
    rw [isLost, List.filterMap_append] at same
    have noEvents := List.self_eq_append_right.mp same
    rw [List.filterMap_eq_nil_iff] at noEvents
    apply List.eq_nil_iff_forall_not_mem.mpr
    intro payload isPayload
    have event := decodable payload
      (isLost ▸ List.mem_append_right others isPayload)
    rw [noEvents payload isPayload] at event
    cases event
  · intro nothingLost
    rw [isLost, nothingLost, List.append_nil]
    exact ⟨removed, rfl⟩

/-! ## One message -/

def samplePayload : ByteString :=
  serializeMessage .cleared

theorem validPayload_samplePayload : ValidPayload samplePayload := by
  decide +kernel

theorem decodable_samplePayload :
    (payloadEvent 4 samplePayload).isSome := by
  decide +kernel

def sampleArrival : WakeUp where
  received := [frame samplePayload]
  last := .wouldBlock

theorem drains_sampleArrival : sampleArrival.Drains where
  noHangup := rfl
  drained := fun _ => rfl
  nothingElse := fun unreadable => by cases unreadable

/-- The frame comes first and the end of the stream later. -/
theorem frames_delivered_samplePayload :
    (InputConnection.dispatchAll 4 {}
        ([sampleArrival] ++
          [{ received := [], last := .closedByPeer }])).pushed =
      [samplePayload].filterMap (payloadEvent 4) := by
  have spread :
      Spread ([samplePayload].map frame).flatten [sampleArrival]
        { received := [], last := .closedByPeer } :=
    { drains := List.forall_mem_singleton.mpr drains_sampleArrival
      closes := Or.inr ⟨rfl, rfl⟩
      stream_eq := by
        rw [WakeUp.bytes, List.flatten_nil, List.append_nil]
        rfl }
  have delivered :=
    (frames_delivered_iff
      (List.forall_mem_singleton.mpr validPayload_samplePayload)
      (List.forall_mem_singleton.mpr decodable_samplePayload) spread).mpr
  exact (delivered rfl).2

/-- The frame and the end of the stream come with one wake-up. -/
theorem samplePayload_lost :
    Spread ([samplePayload].map frame).flatten []
        { received := [frame samplePayload], last := .closedByPeer } ∧
      ValidPayload samplePayload ∧ (payloadEvent 4 samplePayload).isSome ∧
      (InputConnection.dispatchAll 4 {}
          [{ received := [frame samplePayload],
             last := .closedByPeer }]).input = none ∧
      (InputConnection.dispatchAll 4 {}
          [{ received := [frame samplePayload],
             last := .closedByPeer }]).pushed ≠
        [samplePayload].filterMap (payloadEvent 4) := by
  refine
    ⟨⟨List.forall_mem_nil _, Or.inr ⟨rfl, rfl⟩, rfl⟩,
      validPayload_samplePayload, decodable_samplePayload, rfl, ?_⟩
  intro same
  have event := decodable_samplePayload
  have none : payloadEvent 4 samplePayload = none := by
    have noEvents := List.filterMap_eq_nil_iff.mp same.symm
    exact noEvents samplePayload List.mem_cons_self
  rw [none] at event
  cases event

end RdmaKvCache
