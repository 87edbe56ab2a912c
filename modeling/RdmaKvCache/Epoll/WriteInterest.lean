import RdmaKvCache.Epoll.OutputBuffers

/-!
# Waiting for a socket to be written

`enqueue_response` asks epoll to report that the socket can be written, under
the mutex, when the output buffer was empty.  `handle_write` takes the request
back when it has sent everything, after it has released the mutex.  A response
that is enqueued in between asks in vain, and it and all later ones are stuck.
-/

namespace RdmaKvCache

open LabelledRuns

namespace EpollWorker

/-- Output is waited for, and a request is taken back only when there is no
output. -/
structure OutputAwaited (worker : EpollWorker) : Prop where
  awaited :
    ∀ fd state, worker.connections.lookup fd = some state →
      state.outputBuffer ≠ [] → ¬ worker.Erases fd →
        worker.epoll.lookup fd = some .inputOutput
  disarming_empty :
    ∀ fd state, worker.ioTask = .disarming fd →
      worker.connections.lookup fd = some state → state.outputBuffer = []

/-- No response is enqueued for a connection while the I/O thread is about to
take back its request to write to it. -/
def EnqueuedInTime (worker : EpollWorker) : EpollAction → Prop
  | .enqueueResponse fd _ => worker.ioTask ≠ .disarming fd
  | _ => True

theorem outputAwaited_enqueueResponse
    {worker : EpollWorker} {fd : Int32} {response : Message}
    (inTime : worker.ioTask ≠ .disarming fd)
    (kept : worker.WellKept) (holds : worker.OutputAwaited) :
    (worker.enqueueResponse fd response).OutputAwaited := by
  have sameTask := worker.ioTask_enqueueResponse fd response
  cases present : worker.connections.lookup fd with
  | none =>
      rw [enqueueResponse_absent present]
      exact holds
  | some state =>
      have connections := connections_enqueueResponse present response
      have epoll := epoll_enqueueResponse present response
      constructor
      · intro other changed found pending notErased
        rw [Erases, sameTask] at notErased
        rw [connections] at found
        rw [epoll]
        by_cases same : other = fd
        · subst same
          have registered :=
            kept.registered other
              (.inl (by rw [present]; exact Option.some_ne_none state))
              notErased
          obtain ⟨events, registered⟩ := Option.ne_none_iff_exists'.mp registered
          split
          · rw [lookup_modifyEpoll, if_pos rfl, registered, Option.map_some]
          · exact holds.awaited other state present ‹_› notErased
        · rw [AList.lookup_insert_ne same] at found
          have before := holds.awaited other changed found pending notErased
          split
          · rwa [lookup_modifyEpoll, if_neg same]
          · exact before
      · intro other changed disarming found
        rw [sameTask] at disarming
        have different : other ≠ fd := by
          intro same
          subst same
          exact inTime disarming
        rw [connections, AList.lookup_insert_ne different] at found
        exact holds.disarming_empty other changed disarming found

theorem outputAwaited_insert
    {worker next : EpollWorker} {fd : Int32} {changed : OutputState}
    (holds : worker.OutputAwaited)
    (connections :
      next.connections = worker.connections.insert fd changed)
    (epoll : next.epoll = worker.epoll)
    (erases : ∀ other, worker.Erases other → next.Erases other)
    (disarming :
      ∀ other, next.ioTask = .disarming other →
        other = fd ∧ changed.outputBuffer = [])
    (changedAwaited :
      changed.outputBuffer ≠ [] → worker.epoll.lookup fd = some .inputOutput) :
    next.OutputAwaited := by
  constructor
  · intro other state found pending notErased
    rw [connections] at found
    rw [epoll]
    by_cases same : other = fd
    · subst same
      rw [AList.lookup_insert] at found
      cases found
      exact changedAwaited pending
    · rw [AList.lookup_insert_ne same] at found
      exact
        holds.awaited other state found pending fun erased =>
          notErased (erases other erased)
  · intro other state task found
    obtain ⟨rfl, empty⟩ := disarming other task
    rw [connections, AList.lookup_insert] at found
    cases found
    exact empty

theorem outputAwaited_written
    {worker next : EpollWorker} {fd : Int32}
    (idle : worker.ioTask = .idle) (written : Written worker fd next)
    (holds : worker.OutputAwaited) :
    next.OutputAwaited := by
  have notErased := not_erases (congrArg IoTask.erased idle)
  cases written with
  | absent _ =>
      exact holds
  | nothing state present empty =>
      constructor
      · intro other found lookup pending _
        exact holds.awaited other found lookup pending (notErased other)
      · rintro other found ⟨⟩ lookup
        rw [present] at lookup
        cases lookup
        exact empty
  | sentAll state present =>
      refine outputAwaited_insert holds rfl rfl ?_ ?_ ?_
      · exact fun other erased => (notErased other erased).elim
      · intro other same
        cases same
        exact ⟨rfl, rfl⟩
      · exact fun pending => (pending rfl).elim
  | blocked state accepted unsent present pending _ =>
      refine outputAwaited_insert holds rfl rfl ?_ ?_ ?_
      · exact fun other erased => (notErased other erased).elim
      · intro other task
        rw [idle] at task
        cases task
      · intro _
        exact holds.awaited fd state present pending (notErased fd)
  | broken state accepted unsent present _ =>
      refine outputAwaited_insert holds rfl rfl ?_ ?_ ?_
      · exact fun other erased => (notErased other erased).elim
      · intro other same
        cases same
      · exact fun pending => (pending rfl).elim

theorem outputAwaited_continueIo
    {worker next : EpollWorker} (taken : worker.continueIo = some next)
    (holds : worker.OutputAwaited) :
    next.OutputAwaited := by
  cases continued_of_continueIo taken with
  | disarmed fd task =>
      have notErased := not_erases (congrArg IoTask.erased task)
      constructor
      · intro other state found pending _
        have different : other ≠ fd := by
          intro same
          subst same
          exact pending (holds.disarming_empty other state task found)
        have before :=
          holds.awaited other state found pending (notErased other)
        exact
          (worker.lookup_modifyEpoll fd other .input).trans
            ((if_neg different).trans before)
      · intro other state same
        cases same
  | unregistered fd bytes task =>
      have notErased := not_erases (congrArg IoTask.erased task)
      constructor
      · intro other state found pending remains
        have different : other ≠ fd := by
          intro same
          subst same
          exact remains rfl
        rw [AList.lookup_erase_ne different]
        exact holds.awaited other state found pending (notErased other)
      · intro other state same
        cases same
  | erased fd bytes task =>
      constructor
      · intro other state found pending _
        have different : other ≠ fd := by
          intro same
          subst same
          rw [AList.lookup_erase] at found
          cases found
        rw [AList.lookup_erase_ne different] at found
        apply holds.awaited other state found pending
        exact fun erased => different (erases_of_erasing task erased)
      · intro other state same
        cases same

theorem outputAwaited_step
    {worker next : EpollWorker} {action : EpollAction}
    (taken : worker.step action = some next)
    (inTime : worker.EnqueuedInTime action)
    (kept : worker.WellKept) (holds : worker.OutputAwaited) :
    next.OutputAwaited := by
  cases action with
  | enqueueResponse fd response =>
      cases taken
      exact outputAwaited_enqueueResponse inTime kept holds
  | handleWrite fd results =>
      simp only [step, Option.ite_none_right_eq_some] at taken
      exact
        outputAwaited_written taken.1 (written_of_handleWrite taken.2) holds
  | removeConnection fd =>
      simp only [step, Option.ite_none_right_eq_some] at taken
      obtain ⟨⟨idle, -⟩, ⟨⟩⟩ := taken
      constructor
      · intro other state found pending _
        exact
          holds.awaited other state found pending
            (not_erases (congrArg IoTask.erased idle) other)
      · intro other state same
        cases same
  | continueIo =>
      exact outputAwaited_continueIo taken holds
  | addToEpoll fd =>
      simp only [step, Option.ite_none_right_eq_some] at taken
      obtain ⟨⟨absent, _⟩, ⟨⟩⟩ := taken
      refine ⟨?_, holds.disarming_empty⟩
      intro other state found pending notErased
      have different : other ≠ fd := by
        intro same
        subst same
        rw [absent] at found
        cases found
      rw [AList.lookup_insert_ne different]
      exact holds.awaited other state found pending notErased
  | addToConnections fd =>
      simp only [step, Option.ite_none_right_eq_some] at taken
      obtain ⟨_, ⟨⟩⟩ := taken
      constructor
      · intro other state found pending notErased
        by_cases same : other = fd
        · rw [same, AList.lookup_insert] at found
          cases found
          exact (pending rfl).elim
        · rw [AList.lookup_insert_ne same] at found
          exact holds.awaited other state found pending notErased
      · intro other state task found
        by_cases same : other = fd
        · rw [same, AList.lookup_insert] at found
          cases found
          rfl
        · rw [AList.lookup_insert_ne same] at found
          exact holds.disarming_empty other state task found

theorem outputAwaited_start : OutputAwaited {} where
  awaited := by
    intro fd state found
    cases found
  disarming_empty := by
    intro fd state same
    cases same

/-- When no response is enqueued while a request to write is being taken back,
there is such a request whenever there is output and no call is in progress. -/
theorem output_awaited
    {actions : List EpollAction} {final : EpollWorker} {fd : Int32}
    {state : OutputState}
    (run : execute step {} actions = some final)
    (inTime : Meets step EnqueuedInTime {} actions)
    (idle : final.ioTask = .idle)
    (present : final.connections.lookup fd = some state)
    (pending : state.outputBuffer ≠ []) :
    final.epoll.lookup fd = some .inputOutput := by
  have preserved :
      ∀ worker action next, step worker action = some next →
        worker.EnqueuedInTime action →
          worker.WellKept ∧ worker.OutputAwaited →
            next.WellKept ∧ next.OutputAwaited := by
    rintro worker action next taken enqueuedInTime ⟨kept, holds⟩
    exact
      ⟨wellKept_step taken kept,
        outputAwaited_step taken enqueuedInTime kept holds⟩
  have holds :=
    invariant_of_meets preserved run inTime
      ⟨wellKept_start, outputAwaited_start⟩
  exact
    holds.2.awaited fd state present pending
      (not_erases (congrArg IoTask.erased idle) fd)

/-- A response that is enqueued out of time is stuck: the connection has output,
and epoll does not report that it can be sent. -/
theorem stuck_of_enqueued_while_disarming
    {actions : List EpollAction} {worker : EpollWorker} {fd : Int32}
    {state : OutputState} (ran : execute step {} actions = some worker)
    (disarming : worker.ioTask = .disarming fd)
    (present : worker.connections.lookup fd = some state)
    (response : Message) :
    ∃ next stuck,
      execute step worker [.enqueueResponse fd response, .continueIo] =
          some next ∧
        next.ioTask = .idle ∧ next.connections.lookup fd = some stuck ∧
          stuck.outputBuffer ≠ [] ∧ next.epoll.lookup fd = some .input := by
  have kept : worker.WellKept :=
    LabelledRuns.invariant_of_execute
      (fun _ _ _ taken kept => wellKept_step taken kept) ran wellKept_start
  have keptQueued := wellKept_enqueueResponse fd response kept
  have disarmingQueued := worker.ioTask_enqueueResponse fd response
  have queued := connections_enqueueResponse present response
  rw [disarming] at disarmingQueued
  have run :
      execute step worker [.enqueueResponse fd response, .continueIo] =
        some
          { (worker.enqueueResponse fd response).modifyEpoll fd .input with
            ioTask := .idle } := by
    simp only [execute, step, Option.bind_some, continueIo, disarmingQueued]
  have stuck :
      (worker.enqueueResponse fd response).connections.lookup fd =
        some
          { state with
            outputBuffer :=
              state.outputBuffer ++ frame (serializeMessage response)
            enqueued := state.enqueued ++ [response] } := by
    rw [queued, AList.lookup_insert]
  refine ⟨_, _, run, rfl, stuck, ?_, ?_⟩
  · intro empty
    have length := congrArg List.length empty
    simp only [frame, List.length_append, length_writeUint32,
      List.length_nil] at length
    omega
  · have registered :
        (worker.enqueueResponse fd response).epoll.lookup fd ≠ none := by
      apply keptQueued.registered fd
      · left
        rw [stuck]
        exact Option.some_ne_none _
      · exact not_erases (congrArg IoTask.erased disarmingQueued) fd
    obtain ⟨events, registered⟩ := Option.ne_none_iff_exists'.mp registered
    rw [lookup_modifyEpoll, if_pos rfl, registered, Option.map_some]

instance (worker : EpollWorker) (action : EpollAction) :
    Decidable (worker.EnqueuedInTime action) :=
  match action with
  | .enqueueResponse fd _ =>
      inferInstanceAs (Decidable (worker.ioTask ≠ .disarming fd))
  | .handleWrite _ _ | .removeConnection _ | .continueIo | .addToEpoll _
  | .addToConnections _ => .isTrue trivial

/-- What can be seen of a connection from outside. -/
def outputSeen (worker : EpollWorker) (fd : Int32) :
    Option (IoTask × ByteString × Option EpollEvents) :=
  (worker.connections.lookup fd).map fun state =>
    (worker.ioTask, state.outputBuffer, worker.epoll.lookup fd)

theorem outputSeen_eq_some
    {worker : EpollWorker} {fd : Int32} {task : IoTask} {output : ByteString}
    {events : Option EpollEvents}
    (seen : worker.outputSeen fd = some (task, output, events)) :
    worker.ioTask = task ∧
      (∃ state, worker.connections.lookup fd = some state ∧
        state.outputBuffer = output) ∧
      worker.epoll.lookup fd = events := by
  obtain ⟨state, present, same⟩ := Option.map_eq_some_iff.mp seen
  simp only [Prod.mk.injEq] at same
  exact ⟨same.1, ⟨state, present, same.2.1⟩, same.2.2⟩

/-- A response is sent in two parts.  The next one is enqueued when the request
to write has been taken back. -/
def enqueuedInTime : List EpollAction :=
  [.addToEpoll 7, .addToConnections 7, .enqueueResponse 7 .cleared,
    .handleWrite 7 [.accepted 9, .wouldBlock], .handleWrite 7 [.accepted 199],
    .continueIo, .enqueueResponse 7 .cleared]

theorem output_awaited_enqueuedInTime :
    ∃ final state,
      execute step {} enqueuedInTime = some final ∧
        Meets step EnqueuedInTime {} enqueuedInTime ∧
          final.ioTask = .idle ∧
            final.connections.lookup 7 = some state ∧
              state.outputBuffer ≠ [] ∧
                final.epoll.lookup 7 = some .inputOutput := by
  obtain ⟨final, run⟩ :=
    Option.isSome_iff_exists.mp
      (show (execute step {} enqueuedInTime).isSome by decide +kernel)
  have inTime : Meets step EnqueuedInTime {} enqueuedInTime := by
    decide +kernel
  have seen :
      (execute step {} enqueuedInTime).bind (outputSeen · 7) =
        some
          (.idle, frame (serializeMessage .cleared), some .inputOutput) := by
    decide +kernel
  rw [run, Option.bind_some] at seen
  obtain ⟨idle, ⟨state, present, output⟩, -⟩ := outputSeen_eq_some seen
  have pending : state.outputBuffer ≠ [] := by
    rw [output]
    decide +kernel
  exact
    ⟨final, state, run, inTime, idle, present, pending,
      output_awaited run inTime idle present pending⟩

/-- The next response is enqueued before the request is taken back. -/
def enqueuedOutOfTime : List EpollAction :=
  [.addToEpoll 7, .addToConnections 7, .enqueueResponse 7 .cleared,
    .handleWrite 7 [.accepted 208], .enqueueResponse 7 .cleared, .continueIo]

theorem enqueued_while_disarming_stuck :
    ∃ worker next stuck,
      execute step {} (enqueuedOutOfTime.take 4) = some worker ∧
        execute step worker [.enqueueResponse 7 .cleared, .continueIo] =
          some next ∧
        next.ioTask = .idle ∧ next.connections.lookup 7 = some stuck ∧
          stuck.outputBuffer ≠ [] ∧ next.epoll.lookup 7 = some .input := by
  obtain ⟨worker, ran⟩ :=
    Option.isSome_iff_exists.mp
      (show (execute step {} (enqueuedOutOfTime.take 4)).isSome by
        decide +kernel)
  have seen :
      (execute step {} (enqueuedOutOfTime.take 4)).bind (outputSeen · 7) =
        some (.disarming 7, [], some .inputOutput) := by
    decide +kernel
  rw [ran, Option.bind_some] at seen
  obtain ⟨disarming, ⟨state, present, _⟩, _⟩ := outputSeen_eq_some seen
  obtain ⟨next, stuck, isStuck⟩ :=
    stuck_of_enqueued_while_disarming ran disarming present .cleared
  exact ⟨worker, next, stuck, ran, isStuck⟩

theorem enqueuedOutOfTime_stuck :
    (execute step {} enqueuedOutOfTime).bind (outputSeen · 7) =
      some (.idle, frame (serializeMessage .cleared), some .input) := by
  decide +kernel

end EpollWorker

end RdmaKvCache
