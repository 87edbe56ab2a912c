import RdmaKvCache.Orchestrator.RequestOutcomes

/-!
# Runs of the orchestrator

The worker handles any sequence of client and node messages.  The messages that
end a tracked request are recorded, and the first one of each request says how
it should have ended.

Requests end as they should exactly in the runs in which

* a `REQUEST_FAILED` message about a tracked request finds no response for it;
* a `DECODE_COMPLETE` message about a tracked request comes after another
  message that ended it, because it is dropped;
* no `PREFILL_COMPLETE_ORCHESTRATOR` message comes after a request has ended.
-/

namespace RdmaKvCache

/-- The message ends its request. -/
def Message.isTerminal (message : Message) : Bool :=
  decide (message.type = .decodeComplete ∨ message.type = .requestFailed)

namespace WorkerOrchestrator

/-- The request has ended as the message says, and only once. -/
structure Concluded (worker : WorkerOrchestrator) (first : Message) :
    Prop where
  noSlot :
    ∀ nodeId,
      worker.requestRouter.slotOf nodeId first.requestInfo.requestId = none
  status_eq :
    worker.requestTracker.getStatus first.requestInfo.requestId =
      some (if first.type = .decodeComplete then .completed else .failed)
  answered :
    ∃ clientFd response,
      worker.requestTracker.getClientFd first.requestInfo.requestId =
          some clientFd ∧
        worker.terminalResponses first.requestInfo.requestId =
          [(clientFd, response)] ∧
        if first.type = .decodeComplete then
          response.type = .clientResponse ∧
            response.responseText = first.responseText
        else response.type = .requestFailed

def isTracked (worker : WorkerOrchestrator) (requestId : ByteString) : Bool :=
  (worker.requestTracker.getClientFd requestId).isSome

end WorkerOrchestrator

structure OrchestratorRun where
  worker : WorkerOrchestrator
  terminals : List Message := []

structure OrchestratorAction where
  event : Event
  input : ProcessInput

namespace OrchestratorRun

/-- No client asks for a request that is being tracked. -/
def step (run : OrchestratorRun) (action : OrchestratorAction) :
    Option OrchestratorRun :=
  let message := action.event.message
  let tracked := run.worker.isTracked message.requestInfo.requestId
  if message.type = .clientRequest ∧ tracked = true then none else
    (run.worker.processEvent action.event action.input).map fun worker =>
      { worker := worker
        terminals :=
          if tracked && message.isTerminal then run.terminals ++ [message]
          else run.terminals }

/-- The first message that ended the request. -/
def firstTerminal (run : OrchestratorRun) (requestId : ByteString) :
    Option Message :=
  run.terminals.find? fun message =>
    decide (message.requestInfo.requestId = requestId)

/-- Every request that has ended has ended as its first terminal message
says. -/
def AllConcluded (run : OrchestratorRun) : Prop :=
  ∀ requestId first,
    run.firstTerminal requestId = some first → run.worker.Concluded first

/-- The message finds its request in a state in which its handler does what it
should. -/
def InTime (run : OrchestratorRun) (action : OrchestratorAction) : Prop :=
  run.worker.isTracked action.event.message.requestInfo.requestId = true →
    (action.event.message.type = .requestFailed →
        run.worker.terminalResponses
          action.event.message.requestInfo.requestId = []) ∧
      (action.event.message.type = .decodeComplete →
        (run.firstTerminal
          action.event.message.requestInfo.requestId).isSome = true) ∧
      (action.event.message.type = .prefillCompleteOrchestrator →
        run.firstTerminal action.event.message.requestInfo.requestId = none)

instance (run : OrchestratorRun) (action : OrchestratorAction) :
    Decidable (run.InTime action) :=
  inferInstanceAs (Decidable (_ → _ ∧ _ ∧ _))

/-! ## One step -/

structure Invariant (run : OrchestratorRun) : Prop where
  consistent : ∀ requestId, run.worker.Consistent requestId
  allConcluded : run.AllConcluded

theorem firstTerminal_requestId
    {run : OrchestratorRun} {requestId : ByteString} {first : Message}
    (found : run.firstTerminal requestId = some first) :
    first.requestInfo.requestId = requestId := by
  have same := List.find?_some found
  exact of_decide_eq_true same

/-- What one step does to the worker and to the record. -/
theorem step_cases
    {run next : OrchestratorRun} {action : OrchestratorAction}
    (taken : run.step action = some next) :
    (action.event.message.type = .clientRequest →
        run.worker.isTracked action.event.message.requestInfo.requestId =
          false) ∧
      run.worker.processEvent action.event action.input = some next.worker ∧
      next.terminals =
        if run.worker.isTracked action.event.message.requestInfo.requestId &&
            action.event.message.isTerminal then
          run.terminals ++ [action.event.message]
        else run.terminals := by
  unfold step at taken
  simp only at taken
  split at taken
  · cases taken
  · rename_i fresh
    obtain ⟨worker, processed, rfl⟩ := Option.map_eq_some_iff.mp taken
    refine ⟨?_, processed, rfl⟩
    intro isRequest
    exact Bool.not_eq_true _ ▸ fun tracked => fresh ⟨isRequest, tracked⟩

/-- Only a terminal message about a tracked request is recorded. -/
theorem firstTerminal_of_unrecorded
    {run next : OrchestratorRun} {action : OrchestratorAction}
    (taken : run.step action = some next)
    (unrecorded :
      (run.worker.isTracked action.event.message.requestInfo.requestId &&
        action.event.message.isTerminal) = false)
    (requestId : ByteString) :
    next.firstTerminal requestId = run.firstTerminal requestId := by
  obtain ⟨_, _, terminals⟩ := step_cases taken
  rw [firstTerminal, terminals, unrecorded]
  rfl

theorem firstTerminal_of_other
    {run next : OrchestratorRun} {action : OrchestratorAction}
    (taken : run.step action = some next) {requestId : ByteString}
    (other : requestId ≠ action.event.message.requestInfo.requestId) :
    next.firstTerminal requestId = run.firstTerminal requestId := by
  obtain ⟨_, _, terminals⟩ := step_cases taken
  unfold firstTerminal
  rw [terminals]
  split
  · rw [List.find?_append]
    simp [Ne.symm other]
  · rfl

theorem firstTerminal_of_terminal
    {run next : OrchestratorRun} {action : OrchestratorAction}
    (taken : run.step action = some next)
    (tracked :
      run.worker.isTracked action.event.message.requestInfo.requestId = true)
    (terminal : action.event.message.isTerminal = true) :
    next.firstTerminal action.event.message.requestInfo.requestId =
      (run.firstTerminal action.event.message.requestInfo.requestId).or
        (some action.event.message) := by
  obtain ⟨_, _, terminals⟩ := step_cases taken
  unfold firstTerminal
  rw [terminals, tracked, terminal]
  simp [List.find?_append]

/-- A request that ended stays tracked. -/
theorem isTracked_of_concluded
    {worker : WorkerOrchestrator} {first : Message}
    (concluded : worker.Concluded first) :
    worker.isTracked first.requestInfo.requestId = true := by
  obtain ⟨clientFd, _, client, _⟩ := concluded.answered
  rw [WorkerOrchestrator.isTracked, client]
  rfl

end OrchestratorRun

namespace WorkerOrchestrator

variable {worker next : WorkerOrchestrator}

theorem processEvent_of_requestFailed
    {event : Event} {input : ProcessInput}
    (isFailed : event.message.type = .requestFailed) :
    worker.processEvent event input =
      some (worker.handleRequestFailed event.message input) := by
  rw [processEvent, isFailed]

theorem processEvent_of_decodeComplete
    {event : Event} {input : ProcessInput}
    (isComplete : event.message.type = .decodeComplete) :
    worker.processEvent event input = some worker := by
  rw [processEvent, isComplete]

theorem processEvent_of_prefillComplete
    {event : Event} {input : ProcessInput}
    (isPrefill : event.message.type = .prefillCompleteOrchestrator) :
    worker.processEvent event input =
      some (worker.handlePrefillCompleteOrchestrator event.message input) := by
  rw [processEvent, isPrefill]

theorem Concluded.of_sameRequest
    {first : Message} (concluded : worker.Concluded first)
    (same : worker.SameRequest next first.requestInfo.requestId) :
    next.Concluded first where
  noSlot := by
    intro nodeId
    rw [same.slotOf_eq]
    exact concluded.noSlot nodeId
  status_eq := same.status_eq.trans concluded.status_eq
  answered := by
    rw [same.clientFd_eq, same.responses_eq]
    exact concluded.answered

/-- The number of responses to a request that has ended is one. -/
theorem Concluded.length_eq
    {first : Message} (concluded : worker.Concluded first) :
    (worker.terminalResponses first.requestInfo.requestId).length = 1 := by
  obtain ⟨_, _, _, responses, _⟩ := concluded.answered
  rw [responses]
  rfl

theorem length_responseTo
    {requestId : ByteString} (tracked : worker.isTracked requestId = true)
    (response : Message) :
    (worker.responseTo requestId response).length = 1 := by
  obtain ⟨clientFd, client⟩ := Option.isSome_iff_exists.mp tracked
  simp [responseTo, client]

/-- A failure that is the first response to a tracked request concludes it. -/
theorem concluded_of_finished
    {message response : Message}
    (finished :
      worker.Finished next message.requestInfo.requestId .failed
        (worker.responseTo message.requestInfo.requestId response))
    (tracked : worker.isTracked message.requestInfo.requestId = true)
    (unanswered :
      worker.terminalResponses message.requestInfo.requestId = [])
    (failed : message.type = .requestFailed)
    (failure : response.type = .requestFailed) :
    next.Concluded message := by
  obtain ⟨clientFd, client⟩ := Option.isSome_iff_exists.mp tracked
  have status :
      (worker.requestTracker.getStatus
        message.requestInfo.requestId).isSome = true := by
    rw [RequestTrackerOrchestrator.getStatus_isSome, client]
    rfl
  obtain ⟨earlier, status⟩ := Option.isSome_iff_exists.mp status
  constructor
  · exact finished.noSlot
  · rw [finished.status_eq, status, failed]
    rfl
  · refine ⟨clientFd, response, finished.clientFd_eq.trans client, ?_, ?_⟩
    · rw [finished.responses_eq, unanswered, responseTo, client]
      rfl
    · rw [failed]
      exact failure

end WorkerOrchestrator

namespace OrchestratorRun

open WorkerOrchestrator

variable {run next : OrchestratorRun} {action : OrchestratorAction}

theorem getClientFd_of_untracked
    {worker : WorkerOrchestrator} {requestId : ByteString}
    (untracked : worker.isTracked requestId = false) :
    worker.requestTracker.getClientFd requestId = none := by
  unfold isTracked at untracked
  simpa using untracked

theorem Invariant.consistent_step
    (holds : run.Invariant) (taken : run.step action = some next)
    (requestId : ByteString) : next.worker.Consistent requestId := by
  obtain ⟨fresh, processed, _⟩ := step_cases taken
  exact
    processEvent_consistent processed
      (fun isRequest => getClientFd_of_untracked (fresh isRequest))
      (holds.consistent requestId)

/-- An untracked request has not ended. -/
theorem Invariant.firstTerminal_of_untracked
    (holds : run.Invariant) {requestId : ByteString}
    (untracked : run.worker.isTracked requestId = false) :
    run.firstTerminal requestId = none := by
  cases found : run.firstTerminal requestId with
  | none =>
      rfl
  | some first =>
      have tracked := isTracked_of_concluded (holds.allConcluded _ _ found)
      rw [firstTerminal_requestId found, untracked] at tracked
      cases tracked

/-- A request without a response has not ended. -/
theorem Invariant.firstTerminal_of_unanswered
    (holds : run.Invariant) {requestId : ByteString}
    (unanswered : run.worker.terminalResponses requestId = []) :
    run.firstTerminal requestId = none := by
  cases found : run.firstTerminal requestId with
  | none =>
      rfl
  | some first =>
      have once := (holds.allConcluded _ _ found).length_eq
      rw [firstTerminal_requestId found, unanswered] at once
      cases once

/-- A concluded request that nothing happens to stays concluded. -/
theorem Invariant.concluded_of_sameRequest
    (holds : run.Invariant) {requestId : ByteString} {first : Message}
    (same : run.worker.SameRequest next.worker requestId)
    (found : run.firstTerminal requestId = some first) :
    next.worker.Concluded first := by
  have concluded := holds.allConcluded _ _ found
  have about := firstTerminal_requestId found
  subst requestId
  exact concluded.of_sameRequest same

/-- After a step in time, the request the message is about has ended as it
should, if it has ended. -/
theorem Invariant.concluded_about
    (holds : run.Invariant) (taken : run.step action = some next)
    (inTime : run.InTime action)
    (tracked :
      run.worker.isTracked action.event.message.requestInfo.requestId = true)
    {first : Message}
    (found :
      next.firstTerminal action.event.message.requestInfo.requestId =
        some first) :
    next.worker.Concluded first := by
  obtain ⟨fresh, processed, _⟩ := step_cases taken
  obtain ⟨unanswered, ended, running⟩ := inTime tracked
  have unrecorded (notTerminal : action.event.message.isTerminal = false) :
      run.firstTerminal action.event.message.requestInfo.requestId =
        some first := by
    rw [← found]
    exact
      (firstTerminal_of_unrecorded taken
        (by rw [notTerminal, Bool.and_false]) _).symm
  unfold processEvent at processed
  split at processed
  · rename_i isRequest
    rw [fresh isRequest] at tracked
    cases tracked
  · rename_i isRegistration
    exact
      holds.concluded_of_sameRequest
        (handleProcessRdmaRegistration_sameRequest processed _)
        (unrecorded (by simp [Message.isTerminal, isRegistration]))
  · rename_i isReady
    exact
      holds.concluded_of_sameRequest (handleReady_sameRequest processed _)
        (unrecorded (by simp [Message.isTerminal, isReady]))
  · rename_i isFailed
    have none := unanswered isFailed
    rw [firstTerminal_of_terminal taken tracked
        (by simp [Message.isTerminal, isFailed]),
      holds.firstTerminal_of_unanswered none] at found
    cases found
    rw [← Option.some.inj processed]
    exact
      concluded_of_finished
        (handleRequestFailed_finished _ action.input (holds.consistent _))
        tracked none isFailed rfl
  · rename_i isPrefill
    have found := unrecorded (by simp [Message.isTerminal, isPrefill])
    rw [running isPrefill] at found
    cases found
  · rename_i _ _ _ notFailed _
    have found :
        run.firstTerminal action.event.message.requestInfo.requestId =
          some first := by
      by_cases isComplete : action.event.message.type = .decodeComplete
      · obtain ⟨earlier, present⟩ :=
          Option.isSome_iff_exists.mp (ended isComplete)
        rw [firstTerminal_of_terminal taken tracked
            (by simp [Message.isTerminal, isComplete]), present] at found
        rw [present]
        exact found
      · exact
          unrecorded (decide_eq_false (not_or.mpr ⟨isComplete, notFailed⟩))
    rw [← Option.some.inj processed]
    exact holds.allConcluded _ _ found

/-- A step in time keeps every ended request concluded. -/
theorem Invariant.step
    (holds : run.Invariant) (taken : run.step action = some next)
    (inTime : run.InTime action) : next.Invariant where
  consistent := holds.consistent_step taken
  allConcluded := by
    intro requestId first found
    obtain ⟨_, processed, _⟩ := step_cases taken
    by_cases about : requestId = action.event.message.requestInfo.requestId
    · subst requestId
      cases tracked :
          run.worker.isTracked
            action.event.message.requestInfo.requestId with
      | false =>
          rw [firstTerminal_of_unrecorded taken
              (by rw [tracked, Bool.false_and]),
            holds.firstTerminal_of_untracked tracked] at found
          cases found
      | true =>
          exact holds.concluded_about taken inTime tracked found
    · rw [firstTerminal_of_other taken about] at found
      exact
        holds.concluded_of_sameRequest
          (processEvent_sameRequest processed about) found

/-- After a step that is not in time, some request has not ended as it
should. -/
theorem Invariant.inTime_of_allConcluded
    (holds : run.Invariant) (taken : run.step action = some next)
    (concluded : next.AllConcluded) : run.InTime action := by
  intro tracked
  obtain ⟨_, processed, _⟩ := step_cases taken
  have consistent := holds.consistent action.event.message.requestInfo.requestId
  refine ⟨?_, ?_, ?_⟩
  · intro isFailed
    rw [processEvent_of_requestFailed isFailed] at processed
    have finished :=
      handleRequestFailed_finished action.event.message action.input consistent
    rw [Option.some.inj processed] at finished
    have found :=
      firstTerminal_of_terminal taken tracked
        (decide_eq_true (Or.inr isFailed))
    obtain ⟨first, ended⟩ :
        ∃ first,
          next.firstTerminal action.event.message.requestInfo.requestId =
            some first := by
      rw [found]
      cases run.firstTerminal action.event.message.requestInfo.requestId with
      | none =>
          exact ⟨action.event.message, rfl⟩
      | some first =>
          exact ⟨first, rfl⟩
    have once := (concluded _ _ ended).length_eq
    rw [firstTerminal_requestId ended, finished.responses_eq,
      List.length_append, length_responseTo tracked] at once
    exact List.eq_nil_of_length_eq_zero (by omega)
  · intro isComplete
    rw [processEvent_of_decodeComplete isComplete] at processed
    by_contra missing
    have found :=
      firstTerminal_of_terminal taken tracked
        (decide_eq_true (Or.inl isComplete))
    rw [Option.not_isSome_iff_eq_none.mp missing] at found
    obtain ⟨clientFd, response, _, responses, answer⟩ :=
      (concluded _ _ found).answered
    rw [if_pos isComplete] at answer
    rw [← Option.some.inj processed] at responses
    have failure :=
      consistent.failures (clientFd, response)
        (by rw [responses]; exact List.mem_singleton_self _)
    rw [answer.1] at failure
    cases failure
  · intro isPrefill
    rw [processEvent_of_prefillComplete isPrefill] at processed
    by_contra present
    obtain ⟨first, ended⟩ :=
      Option.ne_none_iff_exists'.mp present
    have before := holds.allConcluded _ _ ended
    have after : next.worker.Concluded first := by
      apply concluded
      rw [firstTerminal_of_unrecorded taken]
      · exact ended
      · simp [Message.isTerminal, isPrefill]
    have about := firstTerminal_requestId ended
    rw [← Option.some.inj processed] at after
    rcases
        handlePrefillCompleteOrchestrator_cases action.event.message
          action.input consistent with
      ⟨_, status⟩ | finished
    · have ended := after.status_eq
      rw [about, status] at ended
      obtain ⟨_, _, changed⟩ := Option.map_eq_some_iff.mp ended
      split at changed <;> cases changed
    · have once := after.length_eq
      rw [about, finished.responses_eq, List.length_append,
        length_responseTo tracked, ← about, before.length_eq] at once
      omega

/-! ## Runs -/

/-- A new orchestrator. -/
def start
    (orchestratorId nodeId : ByteString)
    (expectedPrefillNodes expectedDecodeNodes : Int32) : OrchestratorRun where
  worker :=
    .start orchestratorId nodeId expectedPrefillNodes expectedDecodeNodes

theorem Invariant.start
    (orchestratorId nodeId : ByteString)
    (expectedPrefillNodes expectedDecodeNodes : Int32) :
    (start orchestratorId nodeId expectedPrefillNodes
      expectedDecodeNodes).Invariant where
  consistent := by
    intro requestId
    constructor
    · intro nodeId slotId holds
      cases holds
    · intro _
      exact ⟨rfl, rfl⟩
    · intro sending member
      cases member
  allConcluded := by
    intro requestId first found
    cases found

end OrchestratorRun

open OrchestratorRun in
/-- In every run, the requests that end do so as their first terminal message
says and only once exactly if every message comes in time. -/
theorem requests_concluded_throughout_iff
    {orchestratorId nodeId : ByteString}
    {expectedPrefillNodes expectedDecodeNodes : Int32}
    {actions : List OrchestratorAction} {final : OrchestratorRun}
    (run :
      LabelledRuns.execute step
        (start orchestratorId nodeId expectedPrefillNodes expectedDecodeNodes)
        actions = some final) :
    LabelledRuns.Throughout step AllConcluded
        (start orchestratorId nodeId expectedPrefillNodes expectedDecodeNodes)
        actions ↔
      LabelledRuns.Meets step InTime
        (start orchestratorId nodeId expectedPrefillNodes expectedDecodeNodes)
        actions :=
  LabelledRuns.throughout_iff_meets
    (fun _ _ _ taken inTime holds => Invariant.step holds taken inTime)
    (fun _ holds => holds.allConcluded)
    (fun _ _ _ taken holds concluded =>
      holds.inTime_of_allConcluded taken concluded)
    run (Invariant.start _ _ _ _)

/-! ## A cluster of two nodes -/

namespace OrchestratorRun

/-- A message about request `10`, sent on the connection `fd`. -/
def sampleMessage (fd : Int32) (type : MessageType) : OrchestratorAction where
  event :=
    { clientFd := fd
      message :=
        .about ⟨.cleared, 0⟩ type []
          { Message.cleared.requestInfo with requestId := [10] } }
  input :=
    { prefillNodes := [.healthy [1] .prefill]
      decodeNodes := [.healthy [2] .decode]
      requestMemory := Message.cleared.requestInfo
      origin := fun _ => ⟨.cleared, 0⟩ }

def sampleRegistration (fd : Int32) (node : NodeInfo) :
    OrchestratorAction where
  event :=
    { clientFd := fd
      message :=
        { Message.sent ⟨.cleared, 0⟩ .rdmaProcessRegistration node.nodeId with
          nodeInfo := node } }
  input :=
    { allNodes := [.healthy [1] .prefill, .healthy [2] .decode]
      requestMemory := Message.cleared.requestInfo
      origin := fun _ => ⟨.cleared, 0⟩ }

/-- Both nodes register and a client asks for request `10`. -/
def requested : List OrchestratorAction :=
  [sampleRegistration 7 (.healthy [1] .prefill),
    sampleRegistration 8 (.healthy [2] .decode),
    sampleMessage 9 .clientRequest]

/-- A completed request keeps its slot and its client waits for ever. -/
theorem decode_complete_is_dropped :
    ∃ final first,
      LabelledRuns.execute step (start [0] [0] 1 1)
          (requested ++ [sampleMessage 8 .decodeComplete]) = some final ∧
        final.firstTerminal [10] = some first ∧
        first.type = .decodeComplete ∧
        final.worker.requestRouter.slotOf [2] [10] = some 0 ∧
        final.worker.requestTracker.getStatus [10] = some .pending ∧
        final.worker.terminalResponses [10] = [] ∧
        ¬ final.worker.Concluded first := by
  have outcome :
      (LabelledRuns.execute step (start [0] [0] 1 1)
          (requested ++ [sampleMessage 8 .decodeComplete])).map
          (fun final =>
            (final.firstTerminal [10],
              final.worker.requestRouter.slotOf [2] [10],
              final.worker.requestTracker.getStatus [10],
              final.worker.terminalResponses [10])) =
        some
          (some (sampleMessage 8 .decodeComplete).event.message, some 0,
            some .pending, []) := by
    decide +kernel
  obtain ⟨final, run, observed⟩ := Option.map_eq_some_iff.mp outcome
  simp only [Prod.mk.injEq] at observed
  obtain ⟨first, slot, status, responses⟩ := observed
  refine ⟨final, _, run, first, rfl, slot, status, responses, ?_⟩
  intro concluded
  have noSlot := concluded.noSlot [2]
  rw [firstTerminal_requestId first, slot] at noSlot
  cases noSlot

/-- A failed request is concluded once and for all when nothing comes after. -/
theorem request_failed_is_answered_once :
    ∃ final,
      LabelledRuns.execute step (start [0] [0] 1 1)
          (requested ++ [sampleMessage 8 .requestFailed]) = some final ∧
        LabelledRuns.Throughout step AllConcluded (start [0] [0] 1 1)
          (requested ++ [sampleMessage 8 .requestFailed]) := by
  have completes :
      (LabelledRuns.execute step (start [0] [0] 1 1)
        (requested ++ [sampleMessage 8 .requestFailed])).isSome = true := by
    decide +kernel
  obtain ⟨final, run⟩ := Option.isSome_iff_exists.mp completes
  exact
    ⟨final, run,
      (requests_concluded_throughout_iff run).mpr (by decide +kernel)⟩

end OrchestratorRun

end RdmaKvCache
