import RdmaKvCache.Epoll.ClosedConnections
import RdmaKvCache.Epoll.OutputBuffers
import RdmaKvCache.Library.FifoChannels

/-!
# Message channels

One direction of a connection between two processes.  Workers of the sender
enqueue messages, its I/O thread sends what the socket takes, and the I/O thread
of the receiver reads what has arrived and hands on the messages in it.  TCP keeps
the bytes and their order and delivers them when it likes.

Whatever else the two processes do, such a connection is a channel that keeps the
order, until one of them removes it.
-/

namespace RdmaKvCache

open CheckedReaders FifoChannels LabelledRuns ResumableParsers

/-! ## One direction of a connection -/

/-- The bytes that are read on a wake-up. -/
def WakeUp.taken (wakeUp : WakeUp) : ByteString :=
  if wakeUp.hangup = false ∧ wakeUp.readable = true then wakeUp.bytes else []

/-- `output` is the output side of the connection as it last was, `network` what
`send` has accepted and nobody has read. -/
structure MessageChannel where
  sender : EpollWorker
  output : OutputState := {}
  network : ByteString := []
  receiver : InputConnection := {}

inductive ChannelAction where
  | sender (action : EpollAction)
  | wakeUp (wakeUp : WakeUp)

namespace MessageChannel

/-- A connection that gets the number of a removed one is another channel. -/
def sendStep (fd : Int32) (channel : MessageChannel) (next : EpollWorker) :
    Option MessageChannel :=
  match channel.sender.connections.lookup fd, next.connections.lookup fd with
  | _, none => some { channel with sender := next }
  | none, some _ => none
  | some before, some after =>
      some
        { channel with
          sender := next
          output := after
          network :=
            channel.network ++ after.accepted.drop before.accepted.length }

/-- The sender does anything with any of its connections, or the receiver wakes up
with some of what is on its way. -/
def step (fd peerFd : Int32) (channel : MessageChannel) :
    ChannelAction → Option MessageChannel
  | .sender action =>
      (channel.sender.step action).bind (channel.sendStep fd)
  | .wakeUp wakeUp =>
      if channel.receiver.input ≠ none ∧ wakeUp.taken <+: channel.network then
        some
          { channel with
            network := channel.network.drop wakeUp.taken.length
            receiver := channel.receiver.dispatch peerFd wakeUp }
      else
        none

/-- What the receiver hands on for these messages. -/
def arrivals (peerFd : Int32) (messages : List Message) : List Event :=
  messages.map fun message => ⟨peerFd, message.overTheWire⟩

/-- The channel without the bytes. -/
def fifo (peerFd : Int32) (channel : MessageChannel) : Channel Event where
  received := channel.receiver.pushed
  pending :=
    (arrivals peerFd channel.output.enqueued).drop
      channel.receiver.pushed.length

end MessageChannel

/-- The message has an encoding, and the receiver takes frames of its length. -/
structure Deliverable (message : Message) : Prop where
  fits : message.Fits
  valid : ValidPayload (serializeMessage message)

/-! ## What the sender does to the connection -/

namespace EpollWorker

variable {worker next : EpollWorker} {fd : Int32} {before after : OutputState}

/-- The later output side of a connection has the same beginnings. -/
structure OutputGrows (before after : OutputState) : Prop where
  accepted : before.accepted <+: after.accepted
  enqueued : before.enqueued <+: after.enqueued

theorem OutputGrows.refl (state : OutputState) : OutputGrows state state where
  accepted := List.prefix_refl _
  enqueued := List.prefix_refl _

/-- A step that changes one connection leaves the others. -/
theorem outputGrows_insert
    {other : Int32} {old changed : OutputState}
    (connections :
      next.connections = worker.connections.insert other changed)
    (wasThere : worker.connections.lookup other = some old)
    (grows : OutputGrows old changed)
    (isBefore : worker.connections.lookup fd = some before)
    (isAfter : next.connections.lookup fd = some after) :
    OutputGrows before after := by
  rw [connections] at isAfter
  by_cases same : fd = other
  · subst same
    rw [isBefore] at wasThere
    rw [AList.lookup_insert] at isAfter
    cases wasThere
    cases isAfter
    exact grows
  · rw [AList.lookup_insert_ne same, isBefore] at isAfter
    cases isAfter
    exact .refl before

theorem outputGrows_same
    (connections : next.connections = worker.connections)
    (isBefore : worker.connections.lookup fd = some before)
    (isAfter : next.connections.lookup fd = some after) :
    OutputGrows before after := by
  rw [connections, isBefore] at isAfter
  cases isAfter
  exact .refl before

theorem outputGrows_written
    {other : Int32} (written : Written worker other next)
    (isBefore : worker.connections.lookup fd = some before)
    (isAfter : next.connections.lookup fd = some after) :
    OutputGrows before after := by
  cases written with
  | absent _ | nothing _ _ _ =>
      exact outputGrows_same rfl isBefore isAfter
  | sentAll state present
  | blocked state _ _ present _ _
  | broken state _ _ present _ =>
      refine outputGrows_insert rfl present ?_ isBefore isAfter
      exact ⟨List.prefix_append _ _, List.prefix_refl _⟩

/-- A connection only ever has more sent and more enqueued. -/
theorem outputGrows_step
    {action : EpollAction} (taken : worker.step action = some next)
    (kept : worker.WellKept)
    (isBefore : worker.connections.lookup fd = some before)
    (isAfter : next.connections.lookup fd = some after) :
    OutputGrows before after := by
  cases action with
  | enqueueResponse other response =>
      cases taken
      cases present : worker.connections.lookup other with
      | none =>
          rw [enqueueResponse_absent present] at isAfter
          exact outputGrows_same rfl isBefore isAfter
      | some state =>
          refine
            outputGrows_insert (connections_enqueueResponse present response)
              present ?_ isBefore isAfter
          exact ⟨List.prefix_refl _, List.prefix_append _ _⟩
  | handleWrite other results =>
      simp only [step, Option.ite_none_right_eq_some] at taken
      exact
        outputGrows_written (written_of_handleWrite taken.2) isBefore isAfter
  | removeConnection other =>
      simp only [step, Option.ite_none_right_eq_some] at taken
      obtain ⟨_, ⟨⟩⟩ := taken
      exact outputGrows_same rfl isBefore isAfter
  | continueIo =>
      cases continued_of_continueIo taken with
      | disarmed _ _ | unregistered _ _ _ =>
          exact outputGrows_same rfl isBefore isAfter
      | erased other _ _ =>
          have different : fd ≠ other := by
            intro same
            subst same
            rw [AList.lookup_erase] at isAfter
            cases isAfter
          rw [AList.lookup_erase_ne different, isBefore] at isAfter
          cases isAfter
          exact .refl before
  | addToEpoll other =>
      simp only [step, Option.ite_none_right_eq_some] at taken
      obtain ⟨_, ⟨⟩⟩ := taken
      exact outputGrows_same rfl isBefore isAfter
  | addToConnections other =>
      simp only [step, Option.ite_none_right_eq_some] at taken
      obtain ⟨added, ⟨⟩⟩ := taken
      have different : fd ≠ other := by
        intro same
        subst same
        rw [kept.adding_absent fd added] at isBefore
        cases isBefore
      rw [AList.lookup_insert_ne different, isBefore] at isAfter
      cases isAfter
      exact .refl before

end EpollWorker

/-! ## What the receiver makes of part of a stream -/

section Arrivals

variable {fd : Int32} {messages : List Message}

theorem payloadEvent_serializeMessage
    {message : Message} (deliverable : Deliverable message) :
    payloadEvent fd (serializeMessage message) =
      some ⟨fd, message.overTheWire⟩ := by
  have carried := Message.carried_overTheWire deliverable.fits
  have read :=
    reads_deserializeMessage.read_append (encodes_serializeMessage carried) []
  rw [List.append_nil, serializeMessage_overTheWire] at read
  rw [payloadEvent, read]
  rfl

theorem frames_eq (messages : List Message) :
    EpollWorker.frames messages =
      ((messages.map serializeMessage).map frame).flatten := by
  rw [EpollWorker.frames, List.map_map, List.flatMap_def]
  rfl

theorem filterMap_payloadEvent
    (fd : Int32) (deliverable : ∀ message ∈ messages, Deliverable message) :
    (messages.map serializeMessage).filterMap (payloadEvent fd) =
      MessageChannel.arrivals fd messages := by
  induction messages with
  | nil =>
      rfl
  | cons message rest inductionHypothesis =>
      obtain ⟨first, others⟩ := List.forall_mem_cons.mp deliverable
      rw [List.map_cons,
        List.filterMap_cons_some (payloadEvent_serializeMessage first),
        inductionHypothesis others]
      rfl

/-- No part of a stream of frames is rejected. -/
theorem endingOf_ne_rejected
    {payloads : List ByteString} {rest missing remaining : ByteString}
    (valid : ∀ payload ∈ payloads, ValidPayload payload)
    (split : rest ++ missing = (payloads.map frame).flatten) :
    endingOf rest ≠ .rejected remaining := by
  unfold endingOf
  by_cases short : rest.length < 4
  · rw [if_pos short]
    intro same
    cases same
  · rw [if_neg short]
    have enough : 4 ≤ rest.length := Nat.le_of_not_lt short
    cases payloads with
    | nil =>
        have nothing := (List.append_eq_nil_iff.mp split).1
        rw [nothing] at enough
        exact (Nat.not_succ_le_zero _ enough).elim
    | cons payload others =>
        have validFirst := valid payload List.mem_cons_self
        have header := congrArg headerLength split
        rw [headerLength_append enough, List.map_cons, List.flatten_cons,
          frame, List.append_assoc, headerLength_write] at header
        have accepted :=
          (validPayload_iff (validPayload_size validFirst)).mp validFirst
        rw [header, if_neg accepted]
        intro same
        cases same

/-- The messages whose frames have come in whole are handed on. -/
theorem parse_frames
    (fd : Int32) {bytes missing : ByteString}
    (deliverable : ∀ message ∈ messages, Deliverable message)
    (split : bytes ++ missing = EpollWorker.frames messages) :
    (parseMessages fd {} bytes).outputs <+:
        MessageChannel.arrivals fd messages ∧
      (missing = [] →
        (parseMessages fd {} bytes).outputs =
          MessageChannel.arrivals fd messages) ∧
      ∀ remaining, (parseMessages fd {} bytes).ending ≠ .rejected remaining := by
  have valid :
      ∀ payload ∈ messages.map serializeMessage, ValidPayload payload := by
    intro payload member
    obtain ⟨message, listed, rfl⟩ := List.mem_map.mp member
    exact (deliverable message listed).valid
  rw [frames_eq] at split
  obtain ⟨payloads, rest, frames, parsed⟩ := parse_stream fd bytes
  obtain ⟨lost, isLost, noneLost⟩ := frames.of_prefix valid split
  have whole := filterMap_payloadEvent fd deliverable
  rw [isLost, List.filterMap_append] at whole
  rw [parsed, ← whole]
  refine ⟨List.prefix_append _ _, ?_, ?_⟩
  · intro nothingMissing
    rw [noneLost.mpr nothingMissing, List.filterMap_nil, List.append_nil]
  · intro remaining
    have validLost : ∀ payload ∈ lost, ValidPayload payload := by
      intro payload member
      exact valid payload (isLost ▸ List.mem_append_right payloads member)
    rw [isLost, List.map_append, List.flatten_append, frames.split,
      List.append_assoc] at split
    exact endingOf_ne_rejected validLost (List.append_cancel_left split)

end Arrivals

/-! ## Runs of a channel -/

namespace MessageChannel

open EpollWorker InputConnection

variable {fd peerFd : Int32} {channel next : MessageChannel}

theorem sendStep_eq_some
    {worker : EpollWorker} (sent : channel.sendStep fd worker = some next) :
    (worker.connections.lookup fd = none ∧
        next = { channel with sender := worker }) ∨
      ∃ before after,
        channel.sender.connections.lookup fd = some before ∧
          worker.connections.lookup fd = some after ∧
          next =
            { channel with
              sender := worker
              output := after
              network :=
                channel.network ++
                  after.accepted.drop before.accepted.length } := by
  unfold sendStep at sent
  split at sent
  · rename_i isAfter
    cases sent
    exact Or.inl ⟨isAfter, rfl⟩
  · cases sent
  · rename_i before after isBefore isAfter
    cases sent
    exact Or.inr ⟨before, after, isBefore, isAfter, rfl⟩

theorem taken_of_drains {wakeUp : WakeUp} (drains : wakeUp.Drains) :
    wakeUp.taken = wakeUp.bytes := by
  unfold WakeUp.taken
  cases readable : wakeUp.readable with
  | true =>
      rw [if_pos ⟨drains.noHangup, rfl⟩]
  | false =>
      rw [WakeUp.bytes, drains.nothingElse readable, List.flatten_nil, ite_self]

/-- A wake-up hands on more, or it is the last one. -/
theorem dispatch_cases
    {connection : InputConnection} {bytes : ByteString} (wakeUp : WakeUp)
    (parsed : HasParsed peerFd connection bytes) :
    HasParsed peerFd (connection.dispatch peerFd wakeUp)
        (bytes ++ wakeUp.taken) ∨
      (connection.dispatch peerFd wakeUp).input = none ∧
        (connection.dispatch peerFd wakeUp).pushed = connection.pushed := by
  by_cases drains :
      wakeUp.hangup = false ∧
        (wakeUp.readable = true → wakeUp.last = .wouldBlock)
  · obtain ⟨noHangup, drained⟩ := drains
    refine Or.inl ?_
    cases readable : wakeUp.readable with
    | true =>
        have drains : wakeUp.Drains :=
          { noHangup := noHangup
            drained := drained
            nothingElse := fun unreadable => by
              rw [readable] at unreadable
              cases unreadable }
        rw [taken_of_drains drains]
        exact parsed.dispatch drains
    | false =>
        have nothing : wakeUp.taken = [] := by
          simp [WakeUp.taken, readable]
        have same : connection.dispatch peerFd wakeUp = connection := by
          unfold InputConnection.dispatch
          cases connection.input <;>
            simp [noHangup, readable]
        rw [nothing, same, List.append_nil]
        exact parsed
  · refine Or.inr ?_
    unfold InputConnection.dispatch
    cases input : connection.input with
    | none =>
        exact ⟨input, rfl⟩
    | some state =>
        cases hangup : wakeUp.hangup with
        | true =>
            exact ⟨rfl, rfl⟩
        | false =>
            cases readable : wakeUp.readable with
            | false =>
                refine (drains ⟨hangup, ?_⟩).elim
                intro isReadable
                rw [readable] at isReadable
                cases isReadable
            | true =>
                cases last : wakeUp.last with
                | wouldBlock =>
                    exact (drains ⟨hangup, fun _ => last⟩).elim
                | closedByPeer | failed =>
                    exact ⟨rfl, rfl⟩

/-- What is known of a channel whatever has happened: what has been sent begins
the frames of the messages, and the receiver has parsed what has come first. -/
structure Carries (fd peerFd : Int32) (channel : MessageChannel) : Prop where
  kept : channel.sender.WellKept
  complete : channel.sender.OutputComplete
  output :
    ∀ state, channel.sender.connections.lookup fd = some state →
      state = channel.output
  accepted : channel.output.accepted <+: frames channel.output.enqueued
  read :
    ∃ parsed dropped,
      parsed ++ dropped ++ channel.network = channel.output.accepted ∧
        channel.receiver.pushed = (parseMessages peerFd {} parsed).outputs ∧
        (channel.receiver.input ≠ none →
          dropped = [] ∧ HasParsed peerFd channel.receiver parsed)

theorem carries_opened
    {setup : List EpollAction} {sender : EpollWorker}
    (prepared : execute EpollWorker.step {} setup = some sender)
    (opened : sender.connections.lookup fd = some {}) :
    Carries fd peerFd { sender := sender } where
  kept := wellKept_of_execute prepared
  complete := outputComplete_of_execute prepared
  output := by
    intro state found
    rw [opened] at found
    exact (Option.some.inj found).symm
  accepted := List.nil_prefix
  read :=
    ⟨[], [], rfl, (hasParsed_nil peerFd).pushed,
      fun _ => ⟨rfl, hasParsed_nil peerFd⟩⟩

theorem Carries.send
    (carries : Carries fd peerFd channel) {action : EpollAction}
    {worker : EpollWorker}
    (taken : channel.sender.step action = some worker)
    (sent : channel.sendStep fd worker = some next) :
    Carries fd peerFd next := by
  have kept := wellKept_step taken carries.kept
  have complete := outputComplete_step taken carries.kept carries.complete
  rcases sendStep_eq_some sent with
    ⟨removed, rfl⟩ | ⟨before, after, isBefore, isAfter, rfl⟩
  · refine ⟨kept, complete, ?_, carries.accepted, carries.read⟩
    intro state found
    rw [removed] at found
    cases found
  · have grows := outputGrows_step taken carries.kept isBefore isAfter
    obtain ⟨parsed, dropped, read, pushed, isOpen⟩ := carries.read
    refine ⟨kept, complete, ?_, ?_, parsed, dropped, ?_, pushed, isOpen⟩
    · intro state found
      rw [isAfter] at found
      exact (Option.some.inj found).symm
    · rw [← complete fd after isAfter, List.append_assoc]
      exact List.prefix_append _ _
    · rw [← List.append_assoc, read, ← carries.output before isBefore]
      exact List.prefix_iff_eq_append.mp grows.accepted

theorem Carries.wake
    (carries : Carries fd peerFd channel) {wakeUp : WakeUp}
    (isOpen : channel.receiver.input ≠ none)
    (arrived : wakeUp.taken <+: channel.network) :
    Carries fd peerFd
      { channel with
        network := channel.network.drop wakeUp.taken.length
        receiver := channel.receiver.dispatch peerFd wakeUp } := by
  obtain ⟨parsed, dropped, read, pushed, whileOpen⟩ := carries.read
  obtain ⟨nothingDropped, hasParsed⟩ := whileOpen isOpen
  subst nothingDropped
  rw [List.append_nil] at read
  have network := List.prefix_iff_eq_append.mp arrived
  refine ⟨carries.kept, carries.complete, carries.output, carries.accepted, ?_⟩
  rcases dispatch_cases wakeUp hasParsed with more | ⟨removed, same⟩
  · refine ⟨parsed ++ wakeUp.taken, [], ?_, more.pushed, fun _ => ⟨rfl, more⟩⟩
    rw [List.append_nil, List.append_assoc, network, read]
  · refine ⟨parsed, wakeUp.taken, ?_, same.trans pushed, ?_⟩
    · rw [List.append_assoc, network, read]
    · intro notRemoved
      exact (notRemoved removed).elim

theorem Carries.step
    (carries : Carries fd peerFd channel) {action : ChannelAction}
    (taken : channel.step fd peerFd action = some next) :
    Carries fd peerFd next := by
  cases action with
  | sender action =>
      obtain ⟨worker, stepped, sent⟩ := Option.bind_eq_some_iff.mp taken
      exact carries.send stepped sent
  | wakeUp wakeUp =>
      simp only [MessageChannel.step, Option.ite_none_right_eq_some] at taken
      obtain ⟨⟨isOpen, arrived⟩, ⟨⟩⟩ := taken
      exact carries.wake isOpen arrived

/-- A run from the time at which the connection is made. -/
structure ChannelRun (fd peerFd : Int32) where
  setup : List EpollAction
  sender : EpollWorker
  prepared : execute EpollWorker.step {} setup = some sender
  opened : sender.connections.lookup fd = some {}
  actions : List ChannelAction
  final : MessageChannel
  run :
    execute (step fd peerFd) { sender := sender } actions = some final

theorem ChannelRun.carries (run : ChannelRun fd peerFd) :
    Carries fd peerFd run.final :=
  invariant_of_execute (fun _ _ _ taken carries => carries.step taken) run.run
    (carries_opened run.prepared run.opened)

/-! ## The channel keeps the order -/

theorem Carries.pushed
    (carries : Carries fd peerFd channel)
    (deliverable :
      ∀ message ∈ channel.output.enqueued, Deliverable message) :
    channel.receiver.pushed <+: arrivals peerFd channel.output.enqueued := by
  obtain ⟨parsed, dropped, read, pushed, _⟩ := carries.read
  obtain ⟨unsent, split⟩ := carries.accepted
  rw [← read, List.append_assoc, List.append_assoc] at split
  rw [pushed]
  exact (parse_frames peerFd deliverable split).1

theorem Carries.fifo_sent
    (carries : Carries fd peerFd channel)
    (deliverable :
      ∀ message ∈ channel.output.enqueued, Deliverable message) :
    (channel.fifo peerFd).sent =
      arrivals peerFd channel.output.enqueued :=
  List.prefix_iff_eq_append.mp (carries.pushed deliverable)

/-- Parsing more hands on more. -/
theorem outputs_prefix (bytes more : ByteString) :
    (parseMessages peerFd {} bytes).outputs <+:
      (parseMessages peerFd {} (bytes ++ more)).outputs := by
  rw [parseMessages_append]
  cases (parseMessages peerFd {} bytes).ending with
  | rejected _ =>
      exact List.prefix_refl _
  | waiting _ _ =>
      exact List.prefix_append _ _

theorem Carries.histories
    (carries : Carries fd peerFd channel) {action : ChannelAction}
    (taken : channel.step fd peerFd action = some next) :
    channel.receiver.pushed <+: next.receiver.pushed ∧
      channel.output.enqueued <+: next.output.enqueued := by
  cases action with
  | sender action =>
      obtain ⟨worker, stepped, sent⟩ := Option.bind_eq_some_iff.mp taken
      rcases sendStep_eq_some sent with
        ⟨_, rfl⟩ | ⟨before, after, isBefore, isAfter, rfl⟩
      · exact ⟨List.prefix_refl _, List.prefix_refl _⟩
      · refine ⟨List.prefix_refl _, ?_⟩
        rw [← carries.output before isBefore]
        exact
          (outputGrows_step stepped carries.kept isBefore isAfter).enqueued
  | wakeUp wakeUp =>
      simp only [MessageChannel.step, Option.ite_none_right_eq_some] at taken
      obtain ⟨⟨isOpen, _⟩, ⟨⟩⟩ := taken
      obtain ⟨parsed, _, _, _, whileOpen⟩ := carries.read
      obtain ⟨_, hasParsed⟩ := whileOpen isOpen
      refine ⟨?_, List.prefix_refl _⟩
      rcases dispatch_cases wakeUp hasParsed with more | ⟨_, same⟩
      · rw [hasParsed.pushed, more.pushed]
        exact outputs_prefix parsed wakeUp.taken
      · exact same ▸ List.prefix_refl _

/-- Whatever the sender and the receiver do, a step is one of a channel that keeps
the order. -/
theorem Carries.steps
    (carries : Carries fd peerFd channel) {action : ChannelAction}
    (taken : channel.step fd peerFd action = some next)
    (deliverable : ∀ message ∈ next.output.enqueued, Deliverable message) :
    Steps (channel.fifo peerFd) (next.fifo peerFd) := by
  obtain ⟨received, enqueued⟩ := carries.histories taken
  rw [Channel.steps_iff_extends]
  refine ⟨received, ?_⟩
  rw [carries.fifo_sent fun message listed =>
      deliverable message (enqueued.subset listed),
    (carries.step taken).fifo_sent deliverable]
  exact enqueued.map _

/-- As long as all messages enqueued on a connection can be delivered, it is a
channel that keeps the order: what has been enqueued was sent on it, and what was
handed on has been received from it. -/
theorem channel_refines_fifo
    (run : ChannelRun fd peerFd)
    (deliverable :
      ∀ message ∈ run.final.output.enqueued, Deliverable message) :
    Steps {} (run.final.fifo peerFd) ∧
      (run.final.fifo peerFd).received = run.final.receiver.pushed ∧
      (run.final.fifo peerFd).sent =
        arrivals peerFd run.final.output.enqueued ∧
      ∀ action next,
        run.final.step fd peerFd action = some next →
          (∀ message ∈ next.output.enqueued, Deliverable message) →
            Steps (run.final.fifo peerFd) (next.fifo peerFd) := by
  have carries := run.carries
  refine ⟨?_, rfl, carries.fifo_sent deliverable, ?_⟩
  · rw [Channel.steps_iff_extends]
    exact ⟨List.nil_prefix, List.nil_prefix⟩
  · intro action next taken
    exact carries.steps taken

/-! ## Nothing is lost while both processes keep the connection -/

/-- The receiver has parsed everything that it was sent and has arrived. -/
def Intact (peerFd : Int32) (channel : MessageChannel) : Prop :=
  ∃ parsed,
    parsed ++ channel.network = channel.output.accepted ∧
      HasParsed peerFd channel.receiver parsed

/-- The wake-up neither ends the connection nor leaves bytes unread. -/
def KeepsOpen (_ : MessageChannel) : ChannelAction → Prop
  | .sender _ => True
  | .wakeUp wakeUp => wakeUp.Drains

theorem Intact.step
    (carries : Carries fd peerFd channel) (intact : Intact peerFd channel)
    {action : ChannelAction}
    (taken : channel.step fd peerFd action = some next)
    (keepsOpen : KeepsOpen channel action) :
    Intact peerFd next := by
  obtain ⟨parsed, read, hasParsed⟩ := intact
  cases action with
  | sender action =>
      obtain ⟨worker, stepped, sent⟩ := Option.bind_eq_some_iff.mp taken
      rcases sendStep_eq_some sent with
        ⟨_, rfl⟩ | ⟨before, after, isBefore, isAfter, rfl⟩
      · exact ⟨parsed, read, hasParsed⟩
      · have grows := outputGrows_step stepped carries.kept isBefore isAfter
        refine ⟨parsed, ?_, hasParsed⟩
        rw [← List.append_assoc, read, ← carries.output before isBefore]
        exact List.prefix_iff_eq_append.mp grows.accepted
  | wakeUp wakeUp =>
      simp only [MessageChannel.step, Option.ite_none_right_eq_some] at taken
      obtain ⟨⟨_, arrived⟩, ⟨⟩⟩ := taken
      refine ⟨parsed ++ wakeUp.taken, ?_, ?_⟩
      · rw [List.append_assoc, List.prefix_iff_eq_append.mp arrived, read]
      · rw [taken_of_drains keepsOpen]
        exact hasParsed.dispatch keepsOpen

theorem ChannelRun.intact
    (run : ChannelRun fd peerFd)
    (keepsOpen :
      Meets (MessageChannel.step fd peerFd) KeepsOpen { sender := run.sender }
        run.actions) :
    Intact peerFd run.final := by
  have preserved :
      ∀ channel action next,
        MessageChannel.step fd peerFd channel action = some next →
          KeepsOpen channel action →
            Carries fd peerFd channel ∧ Intact peerFd channel →
              Carries fd peerFd next ∧ Intact peerFd next := by
    rintro channel action next taken keeps ⟨carries, intact⟩
    exact ⟨carries.step taken, intact.step carries taken keeps⟩
  have start :
      Carries fd peerFd { sender := run.sender } ∧
        Intact peerFd { sender := run.sender } :=
    ⟨carries_opened run.prepared run.opened, [], rfl, hasParsed_nil peerFd⟩
  exact (invariant_of_meets preserved run.run keepsOpen start).2

/-- Unless a wake-up ends it, the receiver keeps the connection, and when nothing is
left to be sent and nothing is on its way, it has handed on every message. -/
theorem channel_delivers
    (run : ChannelRun fd peerFd)
    (keepsOpen :
      Meets (MessageChannel.step fd peerFd) KeepsOpen { sender := run.sender }
        run.actions)
    (deliverable :
      ∀ message ∈ run.final.output.enqueued, Deliverable message) :
    run.final.receiver.input ≠ none ∧
      ∀ state,
        run.final.sender.connections.lookup fd = some state →
          ¬ run.final.sender.Removes fd → state.outputBuffer = [] →
            run.final.network = [] →
              run.final.receiver.pushed = arrivals peerFd state.enqueued := by
  have carries := run.carries
  obtain ⟨parsed, read, hasParsed⟩ := run.intact keepsOpen
  obtain ⟨unsent, split⟩ := carries.accepted
  constructor
  · rw [← read, List.append_assoc] at split
    have notRejected := (parse_frames peerFd deliverable split).2.2
    rw [hasParsed.input]
    cases ending : (parseMessages peerFd {} parsed).ending with
    | rejected remaining =>
        exact (notRejected remaining ending).elim
    | waiting phase buffer =>
        exact Option.some_ne_none _
  · intro state present notRemoved nothingLeft arrived
    have whole := carries.complete fd state present
    rw [unsent_of_not_removes notRemoved, nothingLeft, List.append_nil,
      List.append_nil] at whole
    cases carries.output state present
    rw [← read, arrived, List.append_nil] at whole
    have parsedAll : parsed ++ [] = frames run.final.output.enqueued := by
      rw [List.append_nil]
      exact whole
    rw [hasParsed.pushed]
    exact (parse_frames peerFd deliverable parsedAll).2.1 rfl

/-! ## One connection -/

/-- The frame of a message is sent and read in two pieces. -/
def sampleActions : List ChannelAction :=
  let bytes := frame (serializeMessage .cleared)
  [.sender (.enqueueResponse 7 .cleared),
    .sender (.handleWrite 7 [.accepted 9, .wouldBlock]),
    .wakeUp { received := [bytes.take 9], last := .wouldBlock },
    .sender (.handleWrite 7 [.accepted (bytes.length - 9)]),
    .wakeUp { received := [bytes.drop 9], last := .wouldBlock }]

def sampleSetup : List EpollAction :=
  [.addToEpoll 7, .addToConnections 7]

theorem deliverable_cleared : Deliverable .cleared where
  fits := by
    refine (Message.fits_iff _).mpr ⟨?_, ?_, ?_, ?_, ?_, ?_, ?_, ?_, ?_⟩
    case refine_4 =>
      exact (RequestInfo.fits_iff _).mpr (by decide +kernel)
    case refine_5 =>
      exact (NodeInfo.fits_iff _).mpr (by decide +kernel)
    case refine_7 =>
      exact List.forall_mem_nil _
    all_goals decide +kernel
  valid := by
    decide +kernel

/-- In the end one message has been enqueued and nothing is left of it to be sent
or read. -/
theorem exists_sampleRun :
    ∃ run : ChannelRun 7 4,
      run.actions = sampleActions ∧
        run.final.output.enqueued = [.cleared] ∧
        run.final.network = [] ∧
        ¬ run.final.sender.Removes 7 ∧
        ∃ state,
          run.final.sender.connections.lookup 7 = some state ∧
            state.outputBuffer = [] ∧ state.enqueued = [.cleared] := by
  have opened :
      (execute EpollWorker.step {} sampleSetup).bind
          (fun sender => sender.connections.lookup 7) =
        some {} := by
    decide +kernel
  obtain ⟨sender, prepared, found⟩ := Option.bind_eq_some_iff.mp opened
  have reached :
      ((execute EpollWorker.step {} sampleSetup).bind fun sender =>
          (execute (step 7 4) { sender := sender } sampleActions).bind
            fun final =>
              (final.sender.connections.lookup 7).map fun state =>
                (final.output.enqueued, final.network, final.sender.ioTask,
                  state.outputBuffer, state.enqueued)) =
        some ([.cleared], [], .disarming 7, [], [.cleared]) := by
    decide +kernel
  rw [prepared, Option.bind_some] at reached
  obtain ⟨final, run, facts⟩ := Option.bind_eq_some_iff.mp reached
  obtain ⟨state, present, same⟩ := Option.map_eq_some_iff.mp facts
  simp only [Prod.mk.injEq] at same
  obtain ⟨enqueued, network, task, empty, enqueuedThere⟩ := same
  refine
    ⟨⟨sampleSetup, sender, prepared, found, sampleActions, final, run⟩, rfl,
      enqueued, network, ?_, state, present, empty, enqueuedThere⟩
  intro removed
  rw [EpollWorker.Removes, task] at removed
  cases removed

theorem channel_refines_fifo_sample :
    ∃ run : ChannelRun 7 4,
      run.actions = sampleActions ∧
        Steps {} (run.final.fifo 4) ∧
        (run.final.fifo 4).sent = [⟨4, .cleared⟩] := by
  obtain ⟨run, actions, enqueued, _⟩ := exists_sampleRun
  have deliverable :
      ∀ message ∈ run.final.output.enqueued, Deliverable message := by
    rw [enqueued]
    exact List.forall_mem_singleton.mpr deliverable_cleared
  obtain ⟨steps, _, sent, _⟩ := channel_refines_fifo run deliverable
  rw [enqueued] at sent
  exact ⟨run, actions, steps, sent⟩

theorem channel_delivers_sample :
    ∃ run : ChannelRun 7 4,
      run.actions = sampleActions ∧
        run.final.receiver.pushed = [⟨4, .cleared⟩] := by
  obtain
    ⟨run, actions, enqueued, network, notRemoved, state, present, empty,
      isEnqueued⟩ :=
    exists_sampleRun
  have deliverable :
      ∀ message ∈ run.final.output.enqueued, Deliverable message := by
    rw [enqueued]
    exact List.forall_mem_singleton.mpr deliverable_cleared
  have keepsOpen :
      Meets (MessageChannel.step 7 4) KeepsOpen { sender := run.sender }
        run.actions := by
    rw [actions]
    have drains (piece : ByteString) :
        WakeUp.Drains { received := [piece], last := .wouldBlock } :=
      ⟨rfl, fun _ => rfl, fun unreadable => by cases unreadable⟩
    exact
      ⟨trivial, fun _ _ => ⟨trivial, fun _ _ => ⟨drains _, fun _ _ =>
        ⟨trivial, fun _ _ => ⟨drains _, fun _ _ => trivial⟩⟩⟩⟩⟩
  obtain ⟨_, delivered⟩ := channel_delivers run keepsOpen deliverable
  have pushed := delivered state present notRemoved empty network
  rw [isEnqueued] at pushed
  exact ⟨run, actions, pushed⟩

end MessageChannel

end RdmaKvCache
