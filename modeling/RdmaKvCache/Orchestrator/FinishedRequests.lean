import RdmaKvCache.Orchestrator.HandlerSections

/-!
# Requests that have finished

Workers take the messages about a request in any order, and each handler writes the
status of the request without looking at the one that is there.  A finished request
is revived by a late `PREFILL_COMPLETE_ORCHESTRATOR`, which is then forwarded to the
decode node, and a failure and a completion overwrite each other.

`handle_decode_complete` is run here beside the handlers that `process_event`
dispatches to.
-/

namespace RdmaKvCache

/-- `COMPLETED` or `FAILED`. -/
def RequestStatus.isFinished : RequestStatus → Bool
  | .completed | .failed => true
  | .pending | .prefilling | .transferring | .decoding | .error
  | .unlisted _ => false

/-! ## The handler of `DECODE_COMPLETE` -/

/-- Where a worker is in `handle_decode_complete`. -/
inductive DecodeCompleteTask where
  | updatingStatus
  | freeingSlot
  | decrementing (nodeIds : List ByteString)
  | lookingUpClient
  | responding (clientFd : Int32)
  | finished
  deriving DecidableEq

/-- The next section of `handle_decode_complete`. -/
def DecodeCompleteTask.advance
    (worker : WorkerOrchestrator) (event : Event) (input : SectionInput) :
    DecodeCompleteTask → Option (SectionEffect × DecodeCompleteTask)
  | .updatingStatus =>
      some
        (.setRequestTracker
          (worker.updateStatus event.message.requestInfo.requestId .completed
            input.process).requestTracker,
          .freeingSlot)
  | .freeingSlot =>
      some
        (.setRouter
          (worker.requestRouter.freeSlot event.message.requestInfo.requestId),
          .decrementing
            [event.message.requestInfo.prefillNodeId,
              event.message.requestInfo.decodeNodeId])
  | .decrementing [] => some (.nothing, .lookingUpClient)
  | .decrementing (nodeId :: nodeIds) =>
      some
        (.setRouter (worker.requestRouter.decrementNodeLoad nodeId),
          .decrementing nodeIds)
  | .lookingUpClient =>
      match
        worker.requestTracker.getClientFd event.message.requestInfo.requestId
      with
      | none => some (.nothing, .finished)
      | some clientFd => some (.nothing, .responding clientFd)
  | .responding clientFd =>
      some
        (.enqueueResponse (.requester event.message.requestInfo.requestId)
          clientFd
          (.createClientResponse (input.process.origin .clientResponse)
            worker.orchestratorId event.message.requestInfo
            event.message.responseText),
          .finished)
  | .finished => none

structure DecodeCompleteCall where
  received : ReceivedEvent
  task : DecodeCompleteTask := .updatingStatus
  deriving DecidableEq

/-! ## Runs -/

/-- The orchestrator with the running calls of `handle_decode_complete`, and what it
does not know: the status with which each tracked request first finished, and the
`PREFILL_COMPLETE` messages that have been enqueued for a finished request. -/
structure FinishingRun where
  system : OrchestratorSystem
  completions : List DecodeCompleteCall := []
  outcomes : ByteString → Option RequestStatus := fun _ => none
  forwarded : List Message := []

inductive FinishingAction where
  | orchestrator (action : OrchestratorSystemAction)
  | handleDecodeComplete (received : ReceivedEvent)
  | advanceCompletion (index : Nat) (input : SectionInput)

namespace OrchestratorSystem

/-- The request is tracked anew in the step to `next`. -/
def tracksAnew (system next : OrchestratorSystem) (requestId : ByteString) :
    Bool :=
  (next.history.tracked.drop system.history.tracked.length).any fun tracked =>
    decide (tracked.1 = requestId)

/-- The responses that are enqueued in the step to `next`. -/
def enqueued (system next : OrchestratorSystem) : List Message :=
  (next.history.sendings.drop system.history.sendings.length).map
    Sending.message

def statusOf (system : OrchestratorSystem) (requestId : ByteString) :
    Option RequestStatus :=
  system.worker.requestTracker.getStatus requestId

end OrchestratorSystem

namespace FinishingRun

def start
    (orchestratorId nodeId : ByteString)
    (expectedPrefillNodes expectedDecodeNodes : Int32)
    (eventQueueSize : UInt64) : FinishingRun where
  system :=
    .start orchestratorId nodeId expectedPrefillNodes expectedDecodeNodes
      eventQueueSize

/-- The orchestrator takes a step. -/
def observe (run : FinishingRun) (next : OrchestratorSystem) : FinishingRun :=
  { run with
    system := next
    outcomes := fun requestId =>
      if run.system.tracksAnew next requestId then none
      else
        (run.outcomes requestId).or
          ((next.statusOf requestId).filter RequestStatus.isFinished)
    forwarded :=
      run.forwarded ++
        (run.system.enqueued next).filter fun message =>
          decide (message.type = .prefillComplete) &&
            (run.outcomes message.requestInfo.requestId).isSome }

def step (run : FinishingRun) : FinishingAction → Option FinishingRun
  | .orchestrator action => (run.system.step action).map run.observe
  | .handleDecodeComplete received =>
      if received ∈ run.system.history.received ∧
          received.event.message.type = .decodeComplete then
        some { run with completions := run.completions ++ [{ received }] }
      else
        none
  | .advanceCompletion index input =>
      run.completions[index]?.bind fun call =>
        (call.task.advance run.system.worker call.received.event input).map
          fun (effect, task) =>
            { run.observe (run.system.apply call.received effect) with
              completions :=
                run.completions.set index { call with task := task } }

/-- Every request that has finished has the status with which it finished, and no
`PREFILL_COMPLETE` has been forwarded for it since. -/
structure FinishedStays (run : FinishingRun) : Prop where
  status :
    ∀ requestId, ∀ outcome ∈ run.outcomes requestId,
      run.system.statusOf requestId = some outcome
  forwarded : run.forwarded = []

end FinishingRun

/-! ## Sections that come in time -/

namespace OrchestratorSystem

/-- The request has not finished, unless with this status. -/
def Overwritable
    (system : OrchestratorSystem) (requestId : ByteString)
    (status : RequestStatus) : Prop :=
  ∀ earlier ∈ system.statusOf requestId,
    earlier.isFinished = true → earlier = status

def Unfinished (system : OrchestratorSystem) (requestId : ByteString) : Prop :=
  ∀ status ∈ system.statusOf requestId, status.isFinished = false

/-- The next section of the handler does not touch a request that has finished
otherwise. -/
def SectionInTime
    (system : OrchestratorSystem) (requestId : ByteString) :
    HandlerTask → Prop
  | .prefillComplete .updatingStatus =>
      system.Overwritable requestId .decoding
  | .prefillComplete (.informing _) => system.Unfinished requestId
  | .failure _ .updatingStatus => system.Overwritable requestId .failed
  | _ => True

def ActionInTime (system : OrchestratorSystem) :
    OrchestratorSystemAction → Prop
  | .advance index _ =>
      ∀ call ∈ system.calls[index]?,
        system.SectionInTime
          call.received.event.message.requestInfo.requestId call.task
  | _ => True

/-- The same of a call of `handle_decode_complete`. -/
def CompletionInTime
    (system : OrchestratorSystem) (call : DecodeCompleteCall) : Prop :=
  call.task = .updatingStatus →
    system.Overwritable call.received.event.message.requestInfo.requestId
      .completed

end OrchestratorSystem

/-- No section overwrites the status of a request that has finished with another
one, and none forwards its `PREFILL_COMPLETE`. -/
def FinishingRun.InTime (run : FinishingRun) : FinishingAction → Prop
  | .orchestrator action => run.system.ActionInTime action
  | .handleDecodeComplete _ => True
  | .advanceCompletion index _ =>
      ∀ call ∈ run.completions[index]?, run.system.CompletionInTime call

instance OrchestratorSystem.decidableOverwritable
    (system : OrchestratorSystem) (requestId : ByteString)
    (status : RequestStatus) :
    Decidable (system.Overwritable requestId status) :=
  inferInstanceAs (Decidable (∀ earlier ∈ _, _ → earlier = status))

instance OrchestratorSystem.decidableUnfinished
    (system : OrchestratorSystem) (requestId : ByteString) :
    Decidable (system.Unfinished requestId) :=
  inferInstanceAs
    (Decidable (∀ status ∈ _, RequestStatus.isFinished status = false))

instance OrchestratorSystem.decidableSectionInTime
    (system : OrchestratorSystem) (requestId : ByteString) :
    ∀ task, Decidable (system.SectionInTime requestId task)
  | .prefillComplete .updatingStatus =>
      inferInstanceAs (Decidable (system.Overwritable requestId .decoding))
  | .prefillComplete (.informing _) =>
      inferInstanceAs (Decidable (system.Unfinished requestId))
  | .failure _ .updatingStatus =>
      inferInstanceAs (Decidable (system.Overwritable requestId .failed))
  | .prefillComplete .lookingUpDecode | .failure _ .freeingSlot
  | .failure _ (.decrementing _) | .failure _ .lookingUpClient
  | .failure _ (.responding _) | .clientRequest _ | .registration _ | .ready _
  | .blocked | .finished => .isTrue trivial

instance OrchestratorSystem.decidableActionInTime
    (system : OrchestratorSystem) :
    ∀ action, Decidable (system.ActionInTime action)
  | .advance _ _ =>
      inferInstanceAs (Decidable (∀ call ∈ _, system.SectionInTime _ _))
  | .accept _ | .removeConnection _ | .receive _ _ | .waitAndPop =>
      .isTrue trivial

instance OrchestratorSystem.decidableCompletionInTime
    (system : OrchestratorSystem) (call : DecodeCompleteCall) :
    Decidable (system.CompletionInTime call) :=
  inferInstanceAs (Decidable (_ → system.Overwritable _ _))

instance FinishingRun.decidableInTime (run : FinishingRun) :
    ∀ action, Decidable (run.InTime action)
  | .orchestrator action =>
      inferInstanceAs (Decidable (run.system.ActionInTime action))
  | .handleDecodeComplete _ => .isTrue trivial
  | .advanceCompletion _ _ =>
      inferInstanceAs (Decidable (∀ call ∈ _, run.system.CompletionInTime call))

/-! ## What a step does to the status of a request -/

/-- The effect concerns neither the request tracker nor the decode node. -/
def SectionEffect.LeavesStatus : SectionEffect → Prop
  | .setRequestTracker _ | .trackRequest _ => False
  | .enqueueResponse _ _ response => response.type ≠ .prefillComplete
  | .nothing | .setRouter _ | .addNode _ | .addNodeFd _
  | .setExchangeTracker _ | .setRunning => True

namespace OrchestratorSystem

variable {system next : OrchestratorSystem} {met : Prop}

/-- What a step does to the request tracker and which responses it enqueues, and
when it comes in time. -/
inductive StatusEffect (met : Prop) (system next : OrchestratorSystem) : Prop
  | quiet
      (tracker : next.worker.requestTracker = system.worker.requestTracker)
      (tracked : next.history.tracked = system.history.tracked)
      (others :
        ∀ message ∈ system.enqueued next, message.type ≠ .prefillComplete)
      (inTime : met)
  | updates
      (requestId : ByteString) (status : RequestStatus) (now : UInt64)
      (tracker :
        next.worker.requestTracker =
          system.worker.requestTracker.updateStatus requestId status now)
      (tracked : next.history.tracked = system.history.tracked)
      (nothing : system.enqueued next = [])
      (inTime : met ↔ system.Overwritable requestId status)
  | tracks
      (requestInfo : RequestInfo) (clientFd : Int32) (connection : Nat)
      (tracker :
        next.worker.requestTracker =
          system.worker.requestTracker.trackRequest requestInfo clientFd)
      (tracked :
        next.history.tracked =
          system.history.tracked ++ [(requestInfo.requestId, connection)])
      (nothing : system.enqueued next = [])
      (inTime : met)
  | forwards
      (message : Message)
      (tracker : next.worker.requestTracker = system.worker.requestTracker)
      (tracked : next.history.tracked = system.history.tracked)
      (forwarded : system.enqueued next = [message])
      (type : message.type = .prefillComplete)
      (inTime : met ↔ system.Unfinished message.requestInfo.requestId)

theorem enqueued_of_same
    (same : next.history.sendings = system.history.sendings) :
    system.enqueued next = [] := by
  rw [enqueued, same, List.drop_length, List.map_nil]

theorem enqueued_enqueueResponse
    (system : OrchestratorSystem) (received : ReceivedEvent)
    (recipient : Recipient) (fd : Int32) (response : Message)
    (calls : List HandlerCall) :
    system.enqueued
        { system.apply received (.enqueueResponse recipient fd response) with
          calls := calls } =
      [response] := by
  simp [enqueued, apply, enqueueResponse, sending]

theorem StatusEffect.ofSame
    (tracker : next.worker.requestTracker = system.worker.requestTracker)
    (tracked : next.history.tracked = system.history.tracked)
    (sendings : next.history.sendings = system.history.sendings)
    (inTime : met) : StatusEffect met system next := by
  refine .quiet tracker tracked ?_ inTime
  intro message member
  rw [enqueued_of_same sendings] at member
  cases member

theorem StatusEffect.ofEffect
    {received : ReceivedEvent} {effect : SectionEffect}
    (calls : List HandlerCall) (inTime : met) (leaves : effect.LeavesStatus) :
    StatusEffect met system
      { system.apply received effect with calls := calls } := by
  cases effect with
  | setRequestTracker tracker =>
      exact leaves.elim
  | trackRequest requestInfo =>
      exact leaves.elim
  | enqueueResponse recipient fd response =>
      refine .quiet rfl rfl ?_ inTime
      intro message member
      rw [enqueued_enqueueResponse, List.mem_singleton] at member
      rw [member]
      exact leaves
  | nothing | setRouter | addNode | addNodeFd | setExchangeTracker
  | setRunning =>
      exact .ofSame rfl rfl rfl inTime

theorem statusEffect_section
    {call : HandlerCall} {input : SectionInput} {effect : SectionEffect}
    {task : HandlerTask} (traceable : system.Traceable)
    (member : call ∈ system.calls) (calls : List HandlerCall)
    (advanced :
      call.task.advance system.worker call.received.event input =
        some (effect, task)) :
    StatusEffect
      (system.SectionInTime
        call.received.event.message.requestInfo.requestId call.task)
      system { system.apply call.received effect with calls := calls } := by
  have listed := traceable.listed call member
  have advances := handlerSection_of_advance advanced
  generalize call.task = current at advances listed ⊢
  cases advances with
  | tracks routing =>
      exact
        .tracks _ call.received.event.clientFd call.received.connection rfl rfl
          (enqueued_of_same rfl) trivial
  | setsDecoding =>
      exact .updates _ _ _ rfl rfl (enqueued_of_same rfl) Iff.rfl
  | setsFailed errorMessage =>
      exact .updates _ _ _ rfl rfl (enqueued_of_same rfl) Iff.rfl
  | informs fd =>
      exact
        .forwards _ rfl rfl (enqueued_enqueueResponse _ _ _ _ _ _) rfl Iff.rfl
  | sends node fd nodes broadcastMsg =>
      have leaves :
          SectionEffect.LeavesStatus
            (.enqueueResponse (.node node.nodeId) fd broadcastMsg) := by
        intro same
        rw [listed broadcastMsg rfl] at same
        cases same
      exact .ofEffect calls trivial leaves
  | refuses | prepares | assigns | responds =>
      exact .ofEffect calls trivial fun same => by cases same
  | _ =>
      exact .ofEffect calls trivial trivial

theorem statusEffect_step
    {action : OrchestratorSystemAction} (traceable : system.Traceable)
    (taken : system.step action = some next) :
    StatusEffect (system.ActionInTime action) system next := by
  cases action with
  | accept fd | removeConnection fd =>
      simp only [step] at taken
      split at taken <;>
        cases taken
      exact .ofSame rfl rfl rfl trivial
  | receive fd message =>
      obtain ⟨connection, -, same⟩ := Option.map_eq_some_iff.mp taken
      rw [← same]
      exact .ofSame rfl rfl rfl trivial
  | waitAndPop =>
      simp only [step] at taken
      split at taken <;>
        cases taken
      exact .ofSame rfl rfl rfl trivial
  | advance index input =>
      obtain ⟨call, effect, task, found, advanced, same⟩ := step_advance taken
      have isEffect :=
        statusEffect_section traceable (List.mem_of_getElem? found)
          (system.calls.set index { call with task := task }) advanced
      simp only [ActionInTime, found, Option.mem_some_iff, forall_eq', same]
      exact isEffect

theorem statusEffect_completion
    {call : DecodeCompleteCall} {input : SectionInput} {effect : SectionEffect}
    {task : DecodeCompleteTask}
    (advanced :
      call.task.advance system.worker call.received.event input =
        some (effect, task)) :
    StatusEffect (system.CompletionInTime call) system
      (system.apply call.received effect) := by
  obtain ⟨received, current⟩ := call
  have other (different : current ≠ .updatingStatus)
      (leaves : effect.LeavesStatus) :
      StatusEffect (system.CompletionInTime ⟨received, current⟩) system
        (system.apply received effect) :=
    .ofEffect (system.apply received effect).calls
      (fun same => absurd same different) leaves
  cases current with
  | updatingStatus =>
      cases advanced
      refine .updates _ _ _ rfl rfl (enqueued_of_same rfl) ?_
      exact ⟨fun inTime => inTime rfl, fun overwritable _ => overwritable⟩
  | freeingSlot =>
      cases advanced
      exact other (fun same => by cases same) trivial
  | decrementing nodeIds =>
      cases nodeIds with
      | nil =>
          cases advanced
          exact other (fun same => by cases same) trivial
      | cons nodeId nodeIds =>
          cases advanced
          exact other (fun same => by cases same) trivial
  | lookingUpClient =>
      simp only [DecodeCompleteTask.advance] at advanced
      split at advanced <;>
        cases advanced <;>
        exact other (fun same => by cases same) trivial
  | responding clientFd =>
      cases advanced
      exact other (fun same => by cases same) fun same => by cases same
  | finished =>
      cases advanced

/-! ## The status of a request after a step -/

theorem statusOf_updates
    {requestId : ByteString} {status : RequestStatus} {now : UInt64}
    (tracker :
      next.worker.requestTracker =
        system.worker.requestTracker.updateStatus requestId status now)
    (tested : ByteString) :
    next.statusOf tested =
      if tested = requestId then
        (system.statusOf requestId).map fun _ => status
      else system.statusOf tested := by
  rw [statusOf, tracker]
  exact RequestTrackerOrchestrator.getStatus_updateStatus _ _ _ _ _

theorem tracksAnew_of_same
    (tracked : next.history.tracked = system.history.tracked)
    (requestId : ByteString) : system.tracksAnew next requestId = false := by
  rw [tracksAnew, tracked, List.drop_length, List.any_nil]

end OrchestratorSystem

namespace FinishingRun

open OrchestratorSystem

variable {run : FinishingRun} {next : OrchestratorSystem} {met : Prop}

/-- The outcomes are the statuses of the requests that have finished. -/
structure Recorded (run : FinishingRun) : Prop where
  outcomes :
    ∀ requestId,
      run.outcomes requestId =
        (run.system.statusOf requestId).filter RequestStatus.isFinished
  forwarded : run.forwarded = []
  traceable : run.system.Traceable

theorem Recorded.finishedStays (recorded : run.Recorded) :
    run.FinishedStays where
  status := by
    intro requestId outcome isOutcome
    rw [recorded.outcomes, Option.mem_def, Option.filter_eq_some_iff]
      at isOutcome
    exact isOutcome.1
  forwarded := recorded.forwarded

theorem Recorded.outcome_eq_none_iff
    (recorded : run.Recorded) (requestId : ByteString) :
    run.outcomes requestId = none ↔ run.system.Unfinished requestId := by
  rw [recorded.outcomes, Unfinished, Option.filter_eq_none_iff]
  simp

theorem observe_outcomes_of_same
    (tracked : next.history.tracked = run.system.history.tracked)
    (requestId : ByteString) :
    (run.observe next).outcomes requestId =
      (run.outcomes requestId).or
        ((next.statusOf requestId).filter RequestStatus.isFinished) := by
  have notAnew := tracksAnew_of_same tracked requestId
  simp only [observe, notAnew, Bool.false_eq_true, if_false]

/-- A status that may be written leaves the outcome or is the first one. -/
theorem outcome_of_overwritable
    {requestId : ByteString} {status : RequestStatus}
    (overwritable : run.system.Overwritable requestId status) :
    ((run.system.statusOf requestId).filter RequestStatus.isFinished).or
        (((run.system.statusOf requestId).map fun _ => status).filter
          RequestStatus.isFinished) =
      ((run.system.statusOf requestId).map fun _ => status).filter
        RequestStatus.isFinished := by
  rw [Overwritable] at overwritable
  cases earlier : run.system.statusOf requestId with
  | none =>
      rfl
  | some old =>
      cases finished : old.isFinished with
      | false =>
          simp [Option.filter, finished]
      | true =>
          have same : old = status := overwritable old earlier finished
          rw [same] at finished
          simp [Option.filter, finished, same]

theorem Recorded.observe
    (recorded : run.Recorded) (effect : StatusEffect met run.system next)
    (traceable : next.Traceable) (inTime : met) :
    (run.observe next).Recorded := by
  have outcomes := recorded.outcomes
  have unchanged
      (tracker :
        next.worker.requestTracker = run.system.worker.requestTracker)
      (tracked : next.history.tracked = run.system.history.tracked)
      (tested : ByteString) :
      (run.observe next).outcomes tested =
        (next.statusOf tested).filter RequestStatus.isFinished := by
    have same : next.statusOf tested = run.system.statusOf tested := by
      rw [statusOf, tracker]
      rfl
    rw [observe_outcomes_of_same tracked, outcomes, ← same, Option.or_self]
  have nothingForwarded (nothing : run.system.enqueued next = []) :
      (run.observe next).forwarded = [] := by
    rw [FinishingRun.observe, recorded.forwarded, nothing]
    rfl
  cases effect with
  | quiet tracker tracked others =>
      refine ⟨unchanged tracker tracked, ?_, traceable⟩
      simp only [FinishingRun.observe, recorded.forwarded, List.nil_append,
        List.filter_eq_nil_iff]
      intro message member
      simp [others message member]
  | updates requestId status now tracker tracked nothing isInTime =>
      refine ⟨?_, nothingForwarded nothing, traceable⟩
      intro tested
      have written := statusOf_updates tracker tested
      have overwritable := isInTime.mp inTime
      change _ = (next.statusOf tested).filter _
      rw [observe_outcomes_of_same tracked, outcomes, written]
      by_cases same : tested = requestId
      · rw [if_pos same, same]
        exact outcome_of_overwritable overwritable
      · rw [if_neg same, Option.or_self]
  | tracks requestInfo clientFd connection tracker tracked nothing =>
      refine ⟨?_, nothingForwarded nothing, traceable⟩
      intro tested
      have anew :
          run.system.tracksAnew next tested =
            decide (requestInfo.requestId = tested) := by
        simp [tracksAnew, tracked]
      have status : next.statusOf tested =
          if tested = requestInfo.requestId then some .pending
          else run.system.statusOf tested := by
        rw [statusOf, tracker]
        exact RequestTrackerOrchestrator.getStatus_trackRequest _ _ _ _
      simp only [FinishingRun.observe, anew, status, outcomes]
      by_cases same : tested = requestInfo.requestId
      · simp [same, Option.filter, RequestStatus.isFinished]
      · simp [same, Ne.symm same]
  | forwards message tracker tracked forwarded type isInTime =>
      refine ⟨unchanged tracker tracked, ?_, traceable⟩
      have unfinished :=
        (recorded.outcome_eq_none_iff _).mpr (isInTime.mp inTime)
      simp [FinishingRun.observe, recorded.forwarded, forwarded, unfinished]

/-- A step that comes too late breaks the law. -/
theorem Recorded.inTime_of_finishedStays
    (recorded : run.Recorded) (effect : StatusEffect met run.system next)
    (stays : (run.observe next).FinishedStays) : met := by
  cases effect with
  | quiet _ _ _ inTime | tracks _ _ _ _ _ _ inTime =>
      exact inTime
  | updates requestId status now tracker tracked nothing isInTime =>
      apply isInTime.mpr
      intro earlier isEarlier finished
      have outcome : run.outcomes requestId = some earlier := by
        rw [recorded.outcomes, Option.filter_eq_some_iff]
        exact ⟨isEarlier, finished⟩
      have kept : (run.observe next).outcomes requestId = some earlier := by
        rw [observe_outcomes_of_same tracked, outcome, Option.some_or]
      have later := stays.status requestId earlier kept
      have written := statusOf_updates tracker requestId
      rw [if_pos rfl, isEarlier] at written
      exact (Option.some.inj (written.symm.trans later)).symm
  | forwards message tracker tracked forwarded type isInTime =>
      apply isInTime.mpr
      apply (recorded.outcome_eq_none_iff _).mp
      have nothing := stays.forwarded
      simp only [FinishingRun.observe, recorded.forwarded, forwarded,
        List.nil_append, List.filter_eq_nil_iff, List.mem_singleton] at nothing
      have notLate := nothing message rfl
      simpa [type] using notLate

theorem traceable_apply
    {system : OrchestratorSystem} (traceable : system.Traceable)
    (received : ReceivedEvent) (effect : SectionEffect) :
    (system.apply received effect).Traceable := by
  have calls : (system.apply received effect).calls = system.calls := by
    cases effect <;> rfl
  constructor
  · rw [eventQueue_apply, received_apply]
    exact traceable.queued
  · rw [calls, received_apply]
    exact traceable.handled
  · rw [calls]
    exact traceable.dispatched
  · rw [calls]
    exact traceable.listed

theorem Recorded.withCompletions
    (recorded : run.Recorded) (completions : List DecodeCompleteCall) :
    { run with completions := completions }.Recorded where
  outcomes := recorded.outcomes
  forwarded := recorded.forwarded
  traceable := recorded.traceable

theorem Recorded.step
    {after : FinishingRun} {action : FinishingAction}
    (recorded : run.Recorded) (taken : run.step action = some after)
    (inTime : run.InTime action) : after.Recorded := by
  have traceable := recorded.traceable
  cases action with
  | orchestrator action =>
      obtain ⟨next, stepped, same⟩ := Option.map_eq_some_iff.mp taken
      rw [← same]
      exact
        recorded.observe (statusEffect_step traceable stepped)
          (traceable.step stepped) inTime
  | handleDecodeComplete received =>
      simp only [FinishingRun.step] at taken
      split at taken <;>
        cases taken
      exact recorded.withCompletions _
  | advanceCompletion index input =>
      obtain ⟨call, found, continued⟩ := Option.bind_eq_some_iff.mp taken
      obtain ⟨⟨effect, task⟩, advanced, same⟩ :=
        Option.map_eq_some_iff.mp continued
      rw [← same]
      have observed :=
        recorded.observe (statusEffect_completion advanced)
          (traceable_apply traceable call.received effect) (inTime call found)
      exact observed.withCompletions _

theorem Recorded.inTime
    {after : FinishingRun} {action : FinishingAction}
    (recorded : run.Recorded) (taken : run.step action = some after)
    (stays : after.FinishedStays) : run.InTime action := by
  cases action with
  | orchestrator action =>
      obtain ⟨next, stepped, same⟩ := Option.map_eq_some_iff.mp taken
      rw [← same] at stays
      exact
        recorded.inTime_of_finishedStays
          (statusEffect_step recorded.traceable stepped) stays
  | handleDecodeComplete received =>
      trivial
  | advanceCompletion index input =>
      obtain ⟨call, found, continued⟩ := Option.bind_eq_some_iff.mp taken
      obtain ⟨⟨effect, task⟩, advanced, same⟩ :=
        Option.map_eq_some_iff.mp continued
      rw [← same] at stays
      have met :=
        recorded.inTime_of_finishedStays (statusEffect_completion advanced)
          ⟨stays.status, stays.forwarded⟩
      intro other isOther
      cases found.symm.trans isOther
      exact met

theorem recorded_start
    (orchestratorId nodeId : ByteString)
    (expectedPrefillNodes expectedDecodeNodes : Int32)
    (eventQueueSize : UInt64) :
    (start orchestratorId nodeId expectedPrefillNodes expectedDecodeNodes
      eventQueueSize).Recorded where
  outcomes := fun _ => rfl
  forwarded := rfl
  traceable := traceable_start _ _ _ _ _

/-- Finished requests stay finished, and nothing is forwarded for them, throughout a
run exactly if all its sections come in time. -/
theorem finished_stays_iff_inTime
    (orchestratorId nodeId : ByteString)
    (expectedPrefillNodes expectedDecodeNodes : Int32)
    (eventQueueSize : UInt64) {actions : List FinishingAction}
    {final : FinishingRun}
    (run :
      LabelledRuns.execute step
          (start orchestratorId nodeId expectedPrefillNodes
            expectedDecodeNodes eventQueueSize)
          actions =
        some final) :
    LabelledRuns.Throughout step FinishedStays
        (start orchestratorId nodeId expectedPrefillNodes expectedDecodeNodes
          eventQueueSize)
        actions ↔
      LabelledRuns.Meets step InTime
        (start orchestratorId nodeId expectedPrefillNodes expectedDecodeNodes
          eventQueueSize)
        actions := by
  have preserved (state : FinishingRun) (action : FinishingAction)
      (next : FinishingRun) (taken : state.step action = some next)
      (inTime : state.InTime action) (recorded : state.Recorded) :
      next.Recorded :=
    recorded.step taken inTime
  have complete (state : FinishingRun) (action : FinishingAction)
      (next : FinishingRun) (taken : state.step action = some next)
      (recorded : state.Recorded) (stays : next.FinishedStays) :
      state.InTime action :=
    recorded.inTime taken stays
  exact
    LabelledRuns.throughout_iff_meets preserved
      (fun _ recorded => recorded.finishedStays) complete run
      (recorded_start _ _ _ _ _)

/-! ## A request that is decoded and one that fails -/

/-- The orchestrator of one prefill and one decode node. -/
def sampleFinishing : FinishingRun :=
  start [0] [0] 1 1 16

/-- The request `10` is assigned by the handler `2`. -/
def sampleAssigned : List FinishingAction :=
  (sampleRegistered ++ sampleReceived 7 (sampleRequest .clientRequest [10]) ++
    sampleSelected 2 12).map .orchestrator

/-- The handler `index` forwards the `PREFILL_COMPLETE` of the request. -/
def samplePrefilled (index : Nat) : List FinishingAction :=
  (sampleReceived 5 (sampleRequest .prefillCompleteOrchestrator [10]) ++
    sampleSections index 3 [] []).map .orchestrator

/-- The handler `index` sets the status of the request to `FAILED` and frees its
slot. -/
def sampleFailed (index : Nat) : List FinishingAction :=
  (sampleReceived 6 (sampleRequest .requestFailed [10]) ++
    sampleSections index 7 [] []).map .orchestrator

/-- The request is decoded. -/
def sampleDecoded : List FinishingAction :=
  (sampleReceived 6 (sampleRequest .decodeComplete [10])).map .orchestrator ++
    .handleDecodeComplete ⟨⟨6, sampleRequest .decodeComplete [10]⟩, 1⟩ ::
      List.replicate 7 (.advanceCompletion 0 (sampleInput [] []))

/-- What has been recorded of the request `10`, its status, and the number of late
messages. -/
def observed (run : FinishingRun) :
    Option RequestStatus × Option RequestStatus × Nat :=
  (run.outcomes [10], run.system.statusOf [10], run.forwarded.length)

theorem finished_stays_sampleDecoded :
    ∃ final,
      LabelledRuns.execute step sampleFinishing
            (sampleAssigned ++ samplePrefilled 3 ++ sampleDecoded) =
          some final ∧
        final.observed = (some .completed, some .completed, 0) ∧
        LabelledRuns.Throughout step FinishedStays sampleFinishing
          (sampleAssigned ++ samplePrefilled 3 ++ sampleDecoded) := by
  have outcome :
      (LabelledRuns.execute step sampleFinishing
          (sampleAssigned ++ samplePrefilled 3 ++ sampleDecoded)).map
            observed =
        some (some .completed, some .completed, 0) := by
    decide +kernel
  have inTime :
      LabelledRuns.Meets step InTime sampleFinishing
        (sampleAssigned ++ samplePrefilled 3 ++ sampleDecoded) := by
    decide +kernel
  obtain ⟨final, run, isObserved⟩ := Option.map_eq_some_iff.mp outcome
  exact
    ⟨final, run, isObserved,
      (finished_stays_iff_inTime [0] [0] 1 1 16 run).mpr inTime⟩

/-- A late `PREFILL_COMPLETE_ORCHESTRATOR` revives a request that has failed, and is
forwarded. -/
theorem failed_request_revived :
    ∃ final,
      LabelledRuns.execute step sampleFinishing
            (sampleAssigned ++ sampleFailed 3 ++ samplePrefilled 4) =
          some final ∧
        final.observed = (some .failed, some .decoding, 1) ∧
        ¬ final.FinishedStays := by
  have outcome :
      (LabelledRuns.execute step sampleFinishing
          (sampleAssigned ++ sampleFailed 3 ++ samplePrefilled 4)).map
            observed =
        some (some .failed, some .decoding, 1) := by
    decide +kernel
  obtain ⟨final, run, isObserved⟩ := Option.map_eq_some_iff.mp outcome
  refine ⟨final, run, isObserved, ?_⟩
  intro stays
  simp only [observed, Prod.mk.injEq] at isObserved
  obtain ⟨isOutcome, isStatus, -⟩ := isObserved
  have same := stays.status [10] .failed isOutcome
  rw [isStatus] at same
  cases same

end FinishingRun

end RdmaKvCache
