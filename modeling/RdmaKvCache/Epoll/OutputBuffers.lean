import RdmaKvCache.Epoll.InputFrames
import RdmaKvCache.Library.LabelledRuns

/-!
# Output buffers

Workers append framed messages to the output buffer of a connection, and the
I/O thread sends what is there when the socket can be written.  Everything
except the registration with epoll happens under the mutex of the connections.

A step below is a section that runs under that mutex or a call of `epoll_ctl`
outside of it.  No byte is lost or sent twice, but a connection can be left with
output for which nobody waits.
-/

namespace RdmaKvCache

open LabelledRuns

/-! ## Connections -/

/-- The output side of a `ConnectionState`, with the messages appended to it and
the bytes that `send` has accepted. -/
structure OutputState where
  outputBuffer : ByteString := []
  enqueued : List Message := []
  accepted : ByteString := []
  deriving DecidableEq

inductive EpollEvents where
  | input
  | inputOutput
  deriving DecidableEq

/-- Where the I/O thread is between two steps, with the bytes that it could not
send before it began to remove a connection. -/
inductive IoTask where
  | idle
  | disarming (fd : Int32)
  | removing (fd : Int32) (unsent : ByteString)
  | erasing (fd : Int32) (unsent : ByteString)
  deriving DecidableEq

def IoTask.removed : IoTask → Option Int32
  | .removing fd _ | .erasing fd _ => some fd
  | .idle | .disarming _ => none

def IoTask.erased : IoTask → Option Int32
  | .erasing fd _ => some fd
  | .idle | .disarming _ | .removing _ _ => none

/-- `adding` lists the sockets that are registered with epoll and not yet among
the connections. -/
structure EpollWorker where
  connections : UnorderedMap Int32 OutputState := ∅
  epoll : UnorderedMap Int32 EpollEvents := ∅
  adding : List Int32 := []
  ioTask : IoTask := .idle

inductive SendResult where
  | accepted (count : Nat)
  | wouldBlock
  | failed
  deriving DecidableEq

inductive SendEnding where
  | sentAll
  | blocked
  | broken
  deriving DecidableEq

structure SendOutcome where
  accepted : ByteString
  unsent : ByteString
  ending : SendEnding
  deriving DecidableEq

/-- Send until everything is accepted or `send` fails; `none` when the results
are not those of one loop. -/
def sendLoop (unsent : ByteString) :
    List SendResult → Option SendOutcome
  | [] =>
      if unsent = [] then some ⟨[], [], .sentAll⟩ else none
  | .accepted count :: results =>
      if 0 < count ∧ count ≤ unsent.length then
        (sendLoop (unsent.drop count) results).map fun outcome =>
          { outcome with accepted := unsent.take count ++ outcome.accepted }
      else
        none
  | .wouldBlock :: results =>
      if unsent ≠ [] ∧ results = [] then some ⟨[], unsent, .blocked⟩ else none
  | .failed :: results =>
      if unsent ≠ [] ∧ results = [] then some ⟨[], unsent, .broken⟩ else none

inductive EpollAction where
  | enqueueResponse (fd : Int32) (response : Message)
  | handleWrite (fd : Int32) (results : List SendResult)
  | removeConnection (fd : Int32)
  | continueIo
  | addToEpoll (fd : Int32)
  | addToConnections (fd : Int32)

namespace EpollWorker

/-- A registration that is not there cannot be changed. -/
def modifyEpoll (worker : EpollWorker) (fd : Int32) (events : EpollEvents) :
    EpollWorker :=
  { worker with
    epoll :=
      match worker.epoll.lookup fd with
      | none => worker.epoll
      | some _ => worker.epoll.insert fd events }

/-- The section of `enqueue_response`; the registration is changed under the
mutex. -/
def enqueueResponse (worker : EpollWorker) (fd : Int32) (response : Message) :
    EpollWorker :=
  match worker.connections.lookup fd with
  | none => worker
  | some state =>
      let appended : OutputState :=
        { state with
          outputBuffer :=
            state.outputBuffer ++ frame (serializeMessage response)
          enqueued := state.enqueued ++ [response] }
      let queued :=
        { worker with connections := worker.connections.insert fd appended }
      if state.outputBuffer = [] then
        queued.modifyEpoll fd .inputOutput
      else
        queued

/-- The section of `handle_write`, with the results of `send`. -/
def handleWrite
    (worker : EpollWorker) (fd : Int32) (results : List SendResult) :
    Option EpollWorker :=
  match worker.connections.lookup fd with
  | none => if results = [] then some worker else none
  | some state =>
      if state.outputBuffer = [] then
        if results = [] then some { worker with ioTask := .disarming fd }
        else none
      else
        (sendLoop state.outputBuffer results).map fun outcome =>
          let moved : OutputState :=
            { state with
              outputBuffer := []
              accepted := state.accepted ++ outcome.accepted }
          match outcome.ending with
          | .sentAll =>
              { worker with
                connections := worker.connections.insert fd moved
                ioTask :=
                  if moved.outputBuffer = [] then .disarming fd else .idle }
          | .blocked =>
              { worker with
                connections :=
                  worker.connections.insert fd
                    { moved with
                      outputBuffer := outcome.unsent ++ moved.outputBuffer } }
          | .broken =>
              { worker with
                connections := worker.connections.insert fd moved
                ioTask := .removing fd outcome.unsent }

/-- What the I/O thread does next, outside of the sections above. -/
def continueIo (worker : EpollWorker) : Option EpollWorker :=
  match worker.ioTask with
  | .idle => none
  | .disarming fd =>
      some { worker.modifyEpoll fd .input with ioTask := .idle }
  | .removing fd unsent =>
      some
        { worker with
          epoll := worker.epoll.erase fd
          ioTask := .erasing fd unsent }
  | .erasing fd _ =>
      some
        { worker with
          connections := worker.connections.erase fd
          ioTask := .idle }

/-- The I/O thread writes and removes connections.  The socket of a new
connection has a number that no open one has. -/
def step (worker : EpollWorker) : EpollAction → Option EpollWorker
  | .enqueueResponse fd response => some (worker.enqueueResponse fd response)
  | .handleWrite fd results =>
      if worker.ioTask = .idle then worker.handleWrite fd results else none
  | .removeConnection fd =>
      if worker.ioTask = .idle ∧ worker.connections.lookup fd ≠ none then
        some { worker with ioTask := .removing fd [] }
      else
        none
  | .continueIo => worker.continueIo
  | .addToEpoll fd =>
      if worker.connections.lookup fd = none ∧ fd ∉ worker.adding then
        some
          { worker with
            epoll := worker.epoll.insert fd .input
            adding := fd :: worker.adding }
      else
        none
  | .addToConnections fd =>
      if fd ∈ worker.adding then
        some
          { worker with
            connections := worker.connections.insert fd {}
            adding := worker.adding.filter (· ≠ fd) }
      else
        none

/-! ## What each section does -/

theorem sendLoop_spec
    {data : ByteString} {results : List SendResult} {outcome : SendOutcome}
    (sent : sendLoop data results = some outcome) :
    outcome.accepted ++ outcome.unsent = data ∧
      (outcome.ending = .sentAll → outcome.unsent = []) := by
  induction results generalizing data outcome with
  | nil =>
      simp only [sendLoop, Option.ite_none_right_eq_some] at sent
      obtain ⟨rfl, ⟨⟩⟩ := sent
      exact ⟨rfl, fun _ => rfl⟩
  | cons result results inductionHypothesis =>
      cases result with
      | accepted count =>
          simp only [sendLoop, Option.ite_none_right_eq_some] at sent
          obtain ⟨later, sentLater, rfl⟩ := Option.map_eq_some_iff.mp sent.2
          obtain ⟨split, complete⟩ := inductionHypothesis sentLater
          refine ⟨?_, complete⟩
          rw [List.append_assoc, split, List.take_append_drop]
      | wouldBlock | failed =>
          simp only [sendLoop, Option.ite_none_right_eq_some] at sent
          obtain ⟨-, ⟨⟩⟩ := sent
          exact ⟨rfl, fun ending => by cases ending⟩

theorem lookup_modifyEpoll
    (worker : EpollWorker) (fd other : Int32) (events : EpollEvents) :
    (worker.modifyEpoll fd events).epoll.lookup other =
      if other = fd then (worker.epoll.lookup fd).map fun _ => events
      else worker.epoll.lookup other := by
  cases registered : worker.epoll.lookup fd with
  | none =>
      simp only [modifyEpoll, registered]
      split
      · rw [‹other = fd›, registered, Option.map_none]
      · rfl
  | some _ =>
      simp only [modifyEpoll, registered]
      split
      · rw [‹other = fd›, AList.lookup_insert, Option.map_some]
      · exact AList.lookup_insert_ne ‹other ≠ fd›

theorem enqueueResponse_absent
    {worker : EpollWorker} {fd : Int32}
    (absent : worker.connections.lookup fd = none) (response : Message) :
    worker.enqueueResponse fd response = worker := by
  simp only [enqueueResponse, absent]

theorem connections_enqueueResponse
    {worker : EpollWorker} {fd : Int32} {state : OutputState}
    (present : worker.connections.lookup fd = some state)
    (response : Message) :
    (worker.enqueueResponse fd response).connections =
      worker.connections.insert fd
        { state with
          outputBuffer :=
            state.outputBuffer ++ frame (serializeMessage response)
          enqueued := state.enqueued ++ [response] } := by
  simp only [enqueueResponse, present]
  split <;> rfl

theorem epoll_enqueueResponse
    {worker : EpollWorker} {fd : Int32} {state : OutputState}
    (present : worker.connections.lookup fd = some state)
    (response : Message) :
    (worker.enqueueResponse fd response).epoll =
      if state.outputBuffer = [] then
        (worker.modifyEpoll fd .inputOutput).epoll
      else
        worker.epoll := by
  simp only [enqueueResponse, present]
  split <;> rfl

@[simp]
theorem ioTask_enqueueResponse
    (worker : EpollWorker) (fd : Int32) (response : Message) :
    (worker.enqueueResponse fd response).ioTask = worker.ioTask := by
  rw [enqueueResponse]
  split
  · rfl
  · split <;> rfl

@[simp]
theorem adding_enqueueResponse
    (worker : EpollWorker) (fd : Int32) (response : Message) :
    (worker.enqueueResponse fd response).adding = worker.adding := by
  rw [enqueueResponse]
  split
  · rfl
  · split <;> rfl

/-- What a section of the I/O thread that may send leaves behind. -/
inductive Written (worker : EpollWorker) (fd : Int32) : EpollWorker → Prop where
  | absent :
      worker.connections.lookup fd = none → Written worker fd worker
  | nothing (state : OutputState) :
      worker.connections.lookup fd = some state → state.outputBuffer = [] →
        Written worker fd { worker with ioTask := .disarming fd }
  | sentAll (state : OutputState) :
      worker.connections.lookup fd = some state →
        Written worker fd
          { worker with
            connections :=
              worker.connections.insert fd
                { state with
                  outputBuffer := []
                  accepted := state.accepted ++ state.outputBuffer }
            ioTask := .disarming fd }
  | blocked (state : OutputState) (accepted unsent : ByteString) :
      worker.connections.lookup fd = some state →
      state.outputBuffer ≠ [] → accepted ++ unsent = state.outputBuffer →
        Written worker fd
          { worker with
            connections :=
              worker.connections.insert fd
                { state with
                  outputBuffer := unsent
                  accepted := state.accepted ++ accepted } }
  | broken (state : OutputState) (accepted unsent : ByteString) :
      worker.connections.lookup fd = some state →
      accepted ++ unsent = state.outputBuffer →
        Written worker fd
          { worker with
            connections :=
              worker.connections.insert fd
                { state with
                  outputBuffer := []
                  accepted := state.accepted ++ accepted }
            ioTask := .removing fd unsent }

theorem written_of_handleWrite
    {worker next : EpollWorker} {fd : Int32} {results : List SendResult}
    (written : worker.handleWrite fd results = some next) :
    Written worker fd next := by
  rw [handleWrite] at written
  cases present : worker.connections.lookup fd with
  | none =>
      simp only [present, Option.ite_none_right_eq_some] at written
      cases written.2
      exact .absent present
  | some state =>
      simp only [present] at written
      by_cases empty : state.outputBuffer = []
      · simp only [empty, if_true, Option.ite_none_right_eq_some] at written
        cases written.2
        exact .nothing state present empty
      · simp only [empty, if_false] at written
        obtain ⟨outcome, sent, rfl⟩ := Option.map_eq_some_iff.mp written
        obtain ⟨split, complete⟩ := sendLoop_spec sent
        cases ending : outcome.ending with
        | sentAll =>
            rw [complete ending, List.append_nil] at split
            simp only [if_true, split]
            exact .sentAll state present
        | blocked =>
            simp only [List.append_nil]
            exact .blocked state _ _ present empty split
        | broken =>
            exact .broken state _ _ present split

/-! ## Which connections exist -/

/-- The I/O thread is in `remove_connection`. -/
def Removes (worker : EpollWorker) (fd : Int32) : Prop :=
  worker.ioTask.removed = some fd

/-- The I/O thread is in `remove_connection`, and the registration is gone. -/
def Erases (worker : EpollWorker) (fd : Int32) : Prop :=
  worker.ioTask.erased = some fd

/-- Only while a connection is removed a registration is gone. -/
theorem not_erases
    {worker : EpollWorker} (nothing : worker.ioTask.erased = none)
    (fd : Int32) : ¬ worker.Erases fd := by
  intro erased
  rw [Erases, nothing] at erased
  cases erased

theorem erases_of_erasing
    {worker : EpollWorker} {fd other : Int32} {bytes : ByteString}
    (task : worker.ioTask = .erasing fd bytes) (erased : worker.Erases other) :
    other = fd := by
  rw [Erases, task] at erased
  cases erased
  rfl

/-- What the I/O thread does next, by what it is doing. -/
inductive Continued (worker : EpollWorker) : EpollWorker → Prop where
  | disarmed (fd : Int32) (task : worker.ioTask = .disarming fd) :
      Continued worker { worker.modifyEpoll fd .input with ioTask := .idle }
  | unregistered (fd : Int32) (bytes : ByteString)
      (task : worker.ioTask = .removing fd bytes) :
      Continued worker
        { worker with
          epoll := worker.epoll.erase fd
          ioTask := .erasing fd bytes }
  | erased (fd : Int32) (bytes : ByteString)
      (task : worker.ioTask = .erasing fd bytes) :
      Continued worker
        { worker with
          connections := worker.connections.erase fd
          ioTask := .idle }

theorem continued_of_continueIo
    {worker next : EpollWorker} (taken : worker.continueIo = some next) :
    Continued worker next := by
  rw [continueIo] at taken
  cases task : worker.ioTask with
  | idle =>
      rw [task] at taken
      cases taken
  | disarming fd =>
      rw [task] at taken
      cases taken
      exact .disarmed fd task
  | removing fd bytes =>
      rw [task] at taken
      cases taken
      exact .unregistered fd bytes task
  | erasing fd bytes =>
      rw [task] at taken
      cases taken
      exact .erased fd bytes task

structure WellKept (worker : EpollWorker) : Prop where
  adding_absent : ∀ fd ∈ worker.adding, worker.connections.lookup fd = none
  removed_present :
    ∀ fd, worker.Removes fd → worker.connections.lookup fd ≠ none
  registered :
    ∀ fd, worker.connections.lookup fd ≠ none ∨ fd ∈ worker.adding →
      ¬ worker.Erases fd → worker.epoll.lookup fd ≠ none

theorem lookup_insert_eq_none
    {connections : UnorderedMap Int32 OutputState} {fd : Int32}
    {state : OutputState} (present : connections.lookup fd = some state)
    (changed : OutputState) (other : Int32) :
    (connections.insert fd changed).lookup other = none ↔
      connections.lookup other = none := by
  by_cases same : other = fd
  · rw [same, AList.lookup_insert, present]
    simp only [reduceCtorEq]
  · rw [AList.lookup_insert_ne same]

theorem lookup_modifyEpoll_eq_none
    (worker : EpollWorker) (fd other : Int32) (events : EpollEvents) :
    (worker.modifyEpoll fd events).epoll.lookup other = none ↔
      worker.epoll.lookup other = none := by
  rw [lookup_modifyEpoll]
  split
  · rw [‹other = fd›, Option.map_eq_none_iff]
  · rfl

/-- Only the keys matter. -/
theorem WellKept.of_same_keys
    {worker next : EpollWorker} (kept : worker.WellKept)
    (adding : next.adding = worker.adding)
    (connections :
      ∀ fd, next.connections.lookup fd = none ↔
        worker.connections.lookup fd = none)
    (epoll :
      ∀ fd, next.epoll.lookup fd = none ↔ worker.epoll.lookup fd = none)
    (removes :
      ∀ fd, next.Removes fd → worker.connections.lookup fd ≠ none)
    (erases : ∀ fd, worker.Erases fd → next.Erases fd) :
    next.WellKept where
  adding_absent := by
    intro fd added
    rw [adding] at added
    exact (connections fd).mpr (kept.adding_absent fd added)
  removed_present := by
    intro fd removed absent
    exact removes fd removed ((connections fd).mp absent)
  registered := by
    intro fd known notErased unregistered
    rw [adding, Ne, connections] at known
    exact
      kept.registered fd known (fun erased => notErased (erases fd erased))
        ((epoll fd).mp unregistered)

theorem wellKept_enqueueResponse
    {worker : EpollWorker} (fd : Int32) (response : Message)
    (kept : worker.WellKept) :
    (worker.enqueueResponse fd response).WellKept := by
  cases present : worker.connections.lookup fd with
  | none =>
      rw [enqueueResponse_absent present]
      exact kept
  | some state =>
      have sameTask := worker.ioTask_enqueueResponse fd response
      apply kept.of_same_keys (worker.adding_enqueueResponse fd response)
      · intro other
        rw [connections_enqueueResponse present]
        exact lookup_insert_eq_none present _ other
      · intro other
        rw [epoll_enqueueResponse present]
        split
        · exact worker.lookup_modifyEpoll_eq_none fd other .inputOutput
        · rfl
      · intro other removed
        rw [Removes, sameTask] at removed
        exact kept.removed_present other removed
      · intro other erased
        rwa [Erases, sameTask]

theorem wellKept_written
    {worker next : EpollWorker} {fd : Int32}
    (idle : worker.ioTask = .idle) (written : Written worker fd next)
    (kept : worker.WellKept) :
    next.WellKept := by
  have notErased (other : Int32) (erased : worker.Erases other) :
      next.Erases other :=
    (not_erases (congrArg IoTask.erased idle) other erased).elim
  cases written with
  | absent _ =>
      exact kept
  | nothing state present _ =>
      refine kept.of_same_keys rfl ?_ ?_ ?_ notErased
      · exact fun _ => Iff.rfl
      · exact fun _ => Iff.rfl
      · intro other removed
        cases removed
  | sentAll state present =>
      refine kept.of_same_keys rfl ?_ ?_ ?_ notErased
      · exact lookup_insert_eq_none present _
      · exact fun _ => Iff.rfl
      · intro other removed
        cases removed
  | blocked state accepted unsent present _ _ =>
      refine kept.of_same_keys rfl ?_ ?_ ?_ notErased
      · exact lookup_insert_eq_none present _
      · exact fun _ => Iff.rfl
      · intro other removed
        exact kept.removed_present other removed
  | broken state accepted unsent present _ =>
      refine kept.of_same_keys rfl ?_ ?_ ?_ notErased
      · exact lookup_insert_eq_none present _
      · exact fun _ => Iff.rfl
      · intro other removed
        cases removed
        rw [present]
        exact Option.some_ne_none state

theorem wellKept_continueIo
    {worker next : EpollWorker} (taken : worker.continueIo = some next)
    (kept : worker.WellKept) :
    next.WellKept := by
  cases continued_of_continueIo taken with
  | disarmed fd task =>
      have notErased := not_erases (congrArg IoTask.erased task)
      refine kept.of_same_keys rfl (fun _ => Iff.rfl) ?_ ?_ ?_
      · exact fun other => worker.lookup_modifyEpoll_eq_none fd other .input
      · intro other removed
        cases removed
      · exact fun other erased => (notErased other erased).elim
  | unregistered fd bytes task =>
      have notErased := not_erases (congrArg IoTask.erased task)
      refine ⟨kept.adding_absent, ?_, ?_⟩
      · intro other removed
        cases removed
        exact kept.removed_present fd (congrArg IoTask.removed task)
      · intro other known remains
        have different : other ≠ fd := by
          intro same
          subst same
          exact remains rfl
        rw [AList.lookup_erase_ne different]
        exact kept.registered other known (notErased other)
  | erased fd bytes task =>
      have erasedPresent : worker.connections.lookup fd ≠ none :=
        kept.removed_present fd (congrArg IoTask.removed task)
      refine ⟨?_, ?_, ?_⟩
      · intro other added
        by_cases same : other = fd
        · rw [same]
          exact AList.lookup_erase fd worker.connections
        · rw [AList.lookup_erase_ne same]
          exact kept.adding_absent other added
      · intro other removed
        cases removed
      · intro other known _
        have different : other ≠ fd := by
          intro same
          subst same
          rcases known with present | added
          · exact present (AList.lookup_erase other worker.connections)
          · exact erasedPresent (kept.adding_absent other added)
        rw [AList.lookup_erase_ne different] at known
        apply kept.registered other known
        exact fun erased => different (erases_of_erasing task erased)

theorem wellKept_step
    {worker next : EpollWorker} {action : EpollAction}
    (taken : worker.step action = some next)
    (kept : worker.WellKept) :
    next.WellKept := by
  cases action with
  | enqueueResponse fd response =>
      cases taken
      exact wellKept_enqueueResponse fd response kept
  | handleWrite fd results =>
      simp only [step, Option.ite_none_right_eq_some] at taken
      exact
        wellKept_written taken.1 (written_of_handleWrite taken.2) kept
  | removeConnection fd =>
      simp only [step, Option.ite_none_right_eq_some] at taken
      obtain ⟨⟨idle, present⟩, ⟨⟩⟩ := taken
      refine
        kept.of_same_keys rfl (fun _ => Iff.rfl) (fun _ => Iff.rfl) ?_ ?_
      · intro other removed
        cases removed
        exact present
      · intro other erased
        exact (not_erases (congrArg IoTask.erased idle) other erased).elim
  | continueIo =>
      exact wellKept_continueIo taken kept
  | addToEpoll fd =>
      simp only [step, Option.ite_none_right_eq_some] at taken
      obtain ⟨⟨absent, _⟩, ⟨⟩⟩ := taken
      refine ⟨?_, kept.removed_present, ?_⟩
      · intro other added
        rcases List.mem_cons.mp added with rfl | added
        · exact absent
        · exact kept.adding_absent other added
      · intro other known notErased
        by_cases same : other = fd
        · rw [same, AList.lookup_insert]
          exact Option.some_ne_none _
        · rw [AList.lookup_insert_ne same]
          apply kept.registered other ?_ notErased
          exact known.imp_right fun added =>
            (List.mem_cons.mp added).resolve_left same
  | addToConnections fd =>
      simp only [step, Option.ite_none_right_eq_some] at taken
      obtain ⟨added, ⟨⟩⟩ := taken
      refine ⟨?_, ?_, ?_⟩
      · intro other remains
        have remaining := List.mem_filter.mp remains
        have different : other ≠ fd := of_decide_eq_true remaining.2
        rw [AList.lookup_insert_ne different]
        exact kept.adding_absent other remaining.1
      · intro other removed
        have present := kept.removed_present other removed
        have different : other ≠ fd := by
          intro same
          subst same
          exact present (kept.adding_absent other added)
        rwa [AList.lookup_insert_ne different]
      · intro other known notErased
        by_cases same : other = fd
        · subst same
          exact kept.registered other (.inr added) notErased
        · rw [AList.lookup_insert_ne same] at known
          apply kept.registered other ?_ notErased
          exact known.imp_right fun remains =>
            List.mem_of_mem_filter remains

/-! ## Order and integrity -/

/-- The frames of messages, in their order. -/
def frames (messages : List Message) : ByteString :=
  messages.flatMap fun message => frame (serializeMessage message)

/-- The bytes that are lost when the connection is removed after an error. -/
def unsent (worker : EpollWorker) (fd : Int32) : ByteString :=
  match worker.ioTask with
  | .idle | .disarming _ => []
  | .removing removed bytes | .erasing removed bytes =>
      if removed = fd then bytes else []

/-- What was sent, what was to be sent when sending failed and what is still to
be sent are the frames of all messages. -/
def OutputComplete (worker : EpollWorker) : Prop :=
  ∀ fd state, worker.connections.lookup fd = some state →
    state.accepted ++ worker.unsent fd ++ state.outputBuffer =
      frames state.enqueued

theorem frames_concat (messages : List Message) (last : Message) :
    frames (messages ++ [last]) =
      frames messages ++ frame (serializeMessage last) := by
  simp only [frames, List.flatMap_append, List.flatMap_cons, List.flatMap_nil,
    List.append_nil]

/-- It is enough to look at the connection that a step changes. -/
theorem outputComplete_insert
    {worker next : EpollWorker} {fd : Int32} {changed : OutputState}
    (connections :
      next.connections = worker.connections.insert fd changed)
    (others :
      ∀ other, other ≠ fd → next.unsent other = worker.unsent other)
    (complete : worker.OutputComplete)
    (changedComplete :
      changed.accepted ++ next.unsent fd ++ changed.outputBuffer =
        frames changed.enqueued) :
    next.OutputComplete := by
  intro other state found
  rw [connections] at found
  by_cases same : other = fd
  · subst same
    rw [AList.lookup_insert] at found
    cases found
    exact changedComplete
  · rw [AList.lookup_insert_ne same] at found
    rw [others other same]
    exact complete other state found

theorem unsent_congr
    {worker next : EpollWorker} (same : next.ioTask = worker.ioTask)
    (fd : Int32) :
    next.unsent fd = worker.unsent fd := by
  rw [unsent, same, unsent]

theorem outputComplete_enqueueResponse
    {worker : EpollWorker} (fd : Int32) (response : Message)
    (complete : worker.OutputComplete) :
    (worker.enqueueResponse fd response).OutputComplete := by
  have sameTask := worker.ioTask_enqueueResponse fd response
  cases present : worker.connections.lookup fd with
  | none =>
      rw [enqueueResponse_absent present]
      exact complete
  | some state =>
      apply
        outputComplete_insert (connections_enqueueResponse present response)
          (fun other _ => unsent_congr sameTask other) complete
      rw [unsent_congr sameTask, frames_concat, ← complete fd state present]
      simp only [List.append_assoc]

theorem outputComplete_written
    {worker next : EpollWorker} {fd : Int32}
    (idle : worker.ioTask = .idle) (written : Written worker fd next)
    (complete : worker.OutputComplete) :
    next.OutputComplete := by
  have nothingUnsent (other : Int32) : worker.unsent other = [] := by
    rw [unsent, idle]
  have before {state : OutputState}
      (present : worker.connections.lookup fd = some state) :
      state.accepted ++ state.outputBuffer = frames state.enqueued := by
    have whole := complete fd state present
    rwa [nothingUnsent, List.append_nil] at whole
  cases written with
  | absent _ =>
      exact complete
  | nothing state present _ =>
      intro other found lookup
      have whole := complete other found lookup
      rwa [nothingUnsent] at whole
  | sentAll state present =>
      refine outputComplete_insert rfl ?_ complete ?_
      · intro other _
        exact (nothingUnsent other).symm
      · rw [← before present]
        simp [unsent]
  | blocked state accepted unsent present _ split =>
      refine outputComplete_insert rfl (fun _ _ => rfl) complete ?_
      have nothing := nothingUnsent fd
      change
        state.accepted ++ accepted ++ worker.unsent fd ++ unsent =
          frames state.enqueued
      rw [nothing, List.append_nil, List.append_assoc, split, before present]
  | broken state accepted unsent present split =>
      refine outputComplete_insert rfl ?_ complete ?_
      · intro other different
        rw [nothingUnsent]
        exact if_neg different.symm
      · rw [← before present, ← split]
        simp [EpollWorker.unsent]

theorem outputComplete_continueIo
    {worker next : EpollWorker} (taken : worker.continueIo = some next)
    (complete : worker.OutputComplete) :
    next.OutputComplete := by
  rw [continueIo] at taken
  intro other state found
  cases task : worker.ioTask with
  | idle =>
      simp [task] at taken
  | disarming fd | removing fd bytes =>
      simp only [task, Option.some.injEq] at taken
      subst taken
      have whole := complete other state found
      rwa [unsent, task] at whole
  | erasing fd bytes =>
      simp only [task, Option.some.injEq] at taken
      subst taken
      have different : other ≠ fd := by
        intro same
        subst same
        rw [AList.lookup_erase] at found
        cases found
      rw [AList.lookup_erase_ne different] at found
      have whole := complete other state found
      simpa only [unsent, task, if_neg different.symm] using whole

theorem unsent_of_not_removes
    {worker : EpollWorker} {fd : Int32} (kept : ¬ worker.Removes fd) :
    worker.unsent fd = [] := by
  rw [unsent]
  split
  · rfl
  · rfl
  · rename_i removed bytes task
    exact if_neg fun same => kept (by rw [Removes, task, same]; rfl)
  · rename_i removed bytes task
    exact if_neg fun same => kept (by rw [Removes, task, same]; rfl)

theorem outputComplete_step
    {worker next : EpollWorker} {action : EpollAction}
    (taken : worker.step action = some next)
    (kept : worker.WellKept) (complete : worker.OutputComplete) :
    next.OutputComplete := by
  cases action with
  | enqueueResponse fd response =>
      cases taken
      exact outputComplete_enqueueResponse fd response complete
  | handleWrite fd results =>
      simp only [step, Option.ite_none_right_eq_some] at taken
      exact
        outputComplete_written taken.1 (written_of_handleWrite taken.2)
          complete
  | removeConnection fd =>
      simp only [step, Option.ite_none_right_eq_some] at taken
      obtain ⟨⟨idle, -⟩, ⟨⟩⟩ := taken
      intro other state found
      have whole := complete other state found
      simpa [unsent, idle] using whole
  | continueIo =>
      exact outputComplete_continueIo taken complete
  | addToEpoll fd =>
      simp only [step, Option.ite_none_right_eq_some] at taken
      obtain ⟨-, ⟨⟩⟩ := taken
      exact complete
  | addToConnections fd =>
      simp only [step, Option.ite_none_right_eq_some] at taken
      obtain ⟨added, ⟨⟩⟩ := taken
      refine outputComplete_insert rfl (fun _ _ => rfl) complete ?_
      have notRemoved : ¬ worker.Removes fd := fun removed =>
        kept.removed_present fd removed (kept.adding_absent fd added)
      have nothing := unsent_of_not_removes notRemoved
      change [] ++ worker.unsent fd ++ [] = frames []
      rw [nothing]
      rfl

theorem wellKept_start : WellKept {} where
  adding_absent := by
    intro fd added
    cases added
  removed_present := by
    intro fd removed
    cases removed
  registered := by
    rintro fd (present | added)
    · exact absurd rfl present
    · cases added

theorem outputComplete_start : OutputComplete {} := by
  intro fd state found
  cases found

theorem wellKept_of_execute
    {actions : List EpollAction} {final : EpollWorker}
    (run : execute step {} actions = some final) :
    final.WellKept :=
  invariant_of_execute (fun _ _ _ taken => wellKept_step taken) run
    wellKept_start

theorem outputComplete_of_execute
    {actions : List EpollAction} {final : EpollWorker}
    (run : execute step {} actions = some final) :
    final.OutputComplete := by
  have preserved :
      ∀ worker action next, step worker action = some next →
        worker.WellKept ∧ worker.OutputComplete →
          next.WellKept ∧ next.OutputComplete := by
    rintro worker action next taken ⟨kept, complete⟩
    exact
      ⟨wellKept_step taken kept, outputComplete_step taken kept complete⟩
  exact
    (invariant_of_execute preserved run
      ⟨wellKept_start, outputComplete_start⟩).2

/-- Until a connection is removed, what `send` has accepted and what is still in
the output buffer are the frames of all messages enqueued, in their order. -/
theorem output_eq_frames
    {actions : List EpollAction} {final : EpollWorker} {fd : Int32}
    {state : OutputState}
    (run : execute step {} actions = some final)
    (present : final.connections.lookup fd = some state)
    (keptOpen : ¬ final.Removes fd) :
    state.accepted ++ state.outputBuffer = frames state.enqueued := by
  have complete := outputComplete_of_execute run fd state present
  rwa [unsent_of_not_removes keptOpen, List.append_nil] at complete

/-- A response is sent in part, and another one is enqueued behind it. -/
def partlySent : List EpollAction :=
  [.addToEpoll 7, .addToConnections 7, .enqueueResponse 7 .cleared,
    .handleWrite 7 [.accepted 1, .accepted 9, .wouldBlock],
    .enqueueResponse 7 messageWithDescriptor]

theorem output_eq_frames_partlySent :
    ∃ final state,
      execute step {} partlySent = some final ∧
        final.connections.lookup 7 = some state ∧ ¬ final.Removes 7 ∧
          state.accepted.length = 10 ∧
            state.accepted ++ state.outputBuffer =
              frames [.cleared, messageWithDescriptor] := by
  obtain ⟨final, run⟩ :=
    Option.isSome_iff_exists.mp
      (show (execute step {} partlySent).isSome by decide +kernel)
  have facts :
      (execute step {} partlySent).bind (fun worker =>
          (worker.connections.lookup 7).map fun state =>
            (worker.ioTask, state.accepted.length, state.enqueued)) =
        some (.idle, 10, [.cleared, messageWithDescriptor]) := by
    decide +kernel
  rw [run, Option.bind_some, Option.map_eq_some_iff] at facts
  obtain ⟨state, present, same⟩ := facts
  simp only [Prod.mk.injEq] at same
  obtain ⟨idle, length, enqueued⟩ := same
  have keptOpen : ¬ final.Removes 7 := by
    intro removed
    rw [Removes, idle] at removed
    cases removed
  have whole := output_eq_frames run present keptOpen
  rw [enqueued] at whole
  exact ⟨final, state, run, present, keptOpen, length, whole⟩

end EpollWorker

end RdmaKvCache
