import RdmaKvCache.Library.LabelledRuns
import RdmaKvCache.Orchestrator.SlotHolders
import RdmaKvCache.Orchestrator.Worker

/-!
# How requests end

A request is over for the orchestrator with the first `DECODE_COMPLETE` or
`REQUEST_FAILED` message about it.  From then on it should hold no slot, have
the status the message says and have been answered once.

What the handlers do is stated for one request at a time:

* an event does not change anything about the requests it is not about;
* a failing request gives back its slot and is answered once more;
* no event completes a request, because `DECODE_COMPLETE` is dropped.
-/

namespace RdmaKvCache

/-- The message is about the request and ends it for its client. -/
def Message.answers (response : Message) (requestId : ByteString) : Bool :=
  decide
    ((response.type = .clientResponse ∨ response.type = .requestFailed) ∧
      response.requestInfo.requestId = requestId)

namespace WorkerOrchestrator

def terminalResponses (worker : WorkerOrchestrator) (requestId : ByteString) :
    List (Int32 × Message) :=
  worker.responses.filter fun sending => sending.2.answers requestId

theorem terminalResponses_enqueueResponse
    (worker : WorkerOrchestrator) (fd : Int32) (response : Message)
    (requestId : ByteString) :
    (worker.enqueueResponse fd response).terminalResponses requestId =
      if response.answers requestId then
        worker.terminalResponses requestId ++ [(fd, response)]
      else worker.terminalResponses requestId := by
  unfold terminalResponses enqueueResponse
  rw [List.filter_append]
  by_cases answering : response.answers requestId = true
  · simp [answering]
  · simp [answering]

/-! ## Events about other requests -/

/-- Nothing about the request has changed. -/
structure SameRequest
    (worker next : WorkerOrchestrator) (requestId : ByteString) : Prop where
  slotOf_eq :
    ∀ nodeId,
      next.requestRouter.slotOf nodeId requestId =
        worker.requestRouter.slotOf nodeId requestId
  decodeNodeOf_eq :
    next.requestRouter.decodeNodeOf requestId =
      worker.requestRouter.decodeNodeOf requestId
  status_eq :
    next.requestTracker.getStatus requestId =
      worker.requestTracker.getStatus requestId
  clientFd_eq :
    next.requestTracker.getClientFd requestId =
      worker.requestTracker.getClientFd requestId
  responses_eq :
    next.terminalResponses requestId = worker.terminalResponses requestId

namespace SameRequest

variable {worker middle next : WorkerOrchestrator} {requestId : ByteString}

theorem refl (worker : WorkerOrchestrator) (requestId : ByteString) :
    worker.SameRequest worker requestId :=
  ⟨fun _ => rfl, rfl, rfl, rfl, rfl⟩

theorem trans
    (first : worker.SameRequest middle requestId)
    (second : middle.SameRequest next requestId) :
    worker.SameRequest next requestId where
  slotOf_eq := by
    intro nodeId
    exact (second.slotOf_eq nodeId).trans (first.slotOf_eq nodeId)
  decodeNodeOf_eq := second.decodeNodeOf_eq.trans first.decodeNodeOf_eq
  status_eq := second.status_eq.trans first.status_eq
  clientFd_eq := second.clientFd_eq.trans first.clientFd_eq
  responses_eq := second.responses_eq.trans first.responses_eq

theorem of_sameHolders
    {router : RequestRouter}
    (same : worker.requestRouter.SameHolders router) (requestId : ByteString) :
    worker.SameRequest { worker with requestRouter := router } requestId :=
  ⟨fun nodeId => same.slotOf_eq nodeId requestId,
    same.decodeNodeOf_eq requestId, rfl, rfl, rfl⟩

theorem enqueueResponse
    (worker : WorkerOrchestrator) (fd : Int32) {response : Message}
    (silent : response.answers requestId = false) :
    worker.SameRequest (worker.enqueueResponse fd response) requestId where
  slotOf_eq := fun _ => rfl
  decodeNodeOf_eq := rfl
  status_eq := rfl
  clientFd_eq := rfl
  responses_eq := by
    rw [terminalResponses_enqueueResponse, silent]
    rfl

theorem freeSlot
    (worker : WorkerOrchestrator) {freed : ByteString}
    (other : requestId ≠ freed) :
    worker.SameRequest (worker.freeSlot freed) requestId where
  slotOf_eq := by
    intro nodeId
    simp [WorkerOrchestrator.freeSlot, RequestRouter.slotOf_freeSlot, other]
  decodeNodeOf_eq := by
    simp [WorkerOrchestrator.freeSlot, RequestRouter.decodeNodeOf_freeSlot,
      other]
  status_eq := rfl
  clientFd_eq := rfl
  responses_eq := rfl

theorem incrementNodeLoads
    (worker : WorkerOrchestrator) (prefillNodeId decodeNodeId : ByteString)
    (requestId : ByteString) :
    worker.SameRequest
      (worker.incrementNodeLoads prefillNodeId decodeNodeId) requestId :=
  of_sameHolders
    ((RequestRouter.SameHolders.incrementNodeLoad _ prefillNodeId).trans
      (RequestRouter.SameHolders.incrementNodeLoad _ decodeNodeId))
    requestId

theorem decrementNodeLoads
    (worker : WorkerOrchestrator) (prefillNodeId decodeNodeId : ByteString)
    (requestId : ByteString) :
    worker.SameRequest
      (worker.decrementNodeLoads prefillNodeId decodeNodeId) requestId :=
  of_sameHolders
    ((RequestRouter.SameHolders.decrementNodeLoad _ prefillNodeId).trans
      (RequestRouter.SameHolders.decrementNodeLoad _ decodeNodeId))
    requestId

theorem updateStatus
    (worker : WorkerOrchestrator) {updated : ByteString}
    (other : requestId ≠ updated) (status : RequestStatus)
    (input : ProcessInput) :
    worker.SameRequest (worker.updateStatus updated status input)
      requestId where
  slotOf_eq := fun _ => rfl
  decodeNodeOf_eq := rfl
  status_eq := by
    simp [WorkerOrchestrator.updateStatus,
      RequestTrackerOrchestrator.getStatus_updateStatus, other]
  clientFd_eq := by simp [WorkerOrchestrator.updateStatus]
  responses_eq := rfl

theorem trackRequest
    (worker : WorkerOrchestrator) {requestInfo : RequestInfo}
    (other : requestId ≠ requestInfo.requestId) (clientFd : Int32) :
    worker.SameRequest
      { worker with
        requestTracker :=
          worker.requestTracker.trackRequest requestInfo clientFd }
      requestId where
  slotOf_eq := fun _ => rfl
  decodeNodeOf_eq := rfl
  status_eq := by
    simp [RequestTrackerOrchestrator.getStatus_trackRequest, other]
  clientFd_eq := by
    simp [RequestTrackerOrchestrator.getClientFd_trackRequest, other]
  responses_eq := rfl

theorem finishRequest
    (worker : WorkerOrchestrator) (status : RequestStatus)
    {requestInfo : RequestInfo} {response : Message}
    (other : requestId ≠ requestInfo.requestId)
    (about : response.requestInfo.requestId = requestInfo.requestId)
    (input : ProcessInput) :
    worker.SameRequest
      (worker.finishRequest status requestInfo response input) requestId := by
  have closed :
      worker.SameRequest (worker.closeRequest status requestInfo input)
        requestId :=
    ((updateStatus worker other status input).trans (freeSlot _ other)).trans
      (decrementNodeLoads _ _ _ requestId)
  unfold WorkerOrchestrator.finishRequest
  simp only
  split
  · exact closed
  · refine closed.trans (enqueueResponse _ _ ?_)
    simp [Message.answers, about, Ne.symm other]

end SameRequest

theorem assignRequest_sameRequest
    (worker : WorkerOrchestrator) (clientFd : Int32) (input : ProcessInput)
    {requestInfo : RequestInfo} {requestId : ByteString}
    (other : requestId ≠ requestInfo.requestId) :
    worker.SameRequest (worker.assignRequest clientFd requestInfo input)
      requestId := by
  have tracked := SameRequest.trackRequest worker other clientFd
  rw [assignRequest]
  simp only
  split
  · exact tracked.trans (.freeSlot _ other)
  · split
    · exact
        (tracked.trans (.enqueueResponse _ _ (by rfl))).trans
          (.freeSlot _ other)
    · exact
        ((tracked.trans (.enqueueResponse _ _ (by rfl))).trans
          (.enqueueResponse _ _ (by rfl))).trans
            (.incrementNodeLoads _ _ _ _)

theorem broadcast_sameRequest
    (worker : WorkerOrchestrator) (nodes : List NodeInfo) {message : Message}
    {requestId : ByteString} (silent : message.answers requestId = false) :
    worker.SameRequest (worker.broadcast nodes message) requestId := by
  rw [broadcast]
  refine
    List.foldlRecOn (motive := (worker.SameRequest · requestId)) nodes _
      (.refl worker requestId) ?_
  intro sending same node _
  split
  · exact same
  · exact same.trans (.enqueueResponse sending _ silent)

theorem handleProcessRdmaRegistration_sameRequest
    {worker next : WorkerOrchestrator} {serverFd : Int32} {msg : Message}
    {input : ProcessInput}
    (handled :
      worker.handleProcessRdmaRegistration serverFd msg input = some next)
    (requestId : ByteString) :
    worker.SameRequest next requestId := by
  rw [handleProcessRdmaRegistration] at handled
  obtain ⟨⟨_, exchangeTracker⟩, _, handled⟩ :=
    Option.bind_eq_some_iff.mp handled
  simp only at handled
  split at handled
  · split at handled
    · cases handled
      refine SameRequest.trans ?_ (broadcast_sameRequest _ _ ?_)
      · exact ⟨fun _ => rfl, rfl, rfl, rfl, rfl⟩
      · rfl
    · cases handled
  · cases handled
    exact ⟨fun _ => rfl, rfl, rfl, rfl, rfl⟩

theorem handleReady_sameRequest
    {worker next : WorkerOrchestrator} {msg : Message}
    (handled : worker.handleReady msg = some next) (requestId : ByteString) :
    worker.SameRequest next requestId := by
  obtain ⟨_, _, rfl⟩ := Option.map_eq_some_iff.mp handled
  exact ⟨fun _ => rfl, rfl, rfl, rfl, rfl⟩

/-- An event changes nothing about the requests it is not about. -/
theorem processEvent_sameRequest
    {worker next : WorkerOrchestrator} {event : Event} {input : ProcessInput}
    (processed : worker.processEvent event input = some next)
    {requestId : ByteString}
    (other : requestId ≠ event.message.requestInfo.requestId) :
    worker.SameRequest next requestId := by
  rw [processEvent] at processed
  split at processed
  · rw [handleClientRequest] at processed
    split at processed
    · rcases
          worker.requestRouter.selectNodesAndAllocateSlot_cases
            input.prefillNodes input.decodeNodes input.prefillDraw
            input.decodeDraw event.message.requestInfo.requestId with
        ⟨router, selected, same⟩ | ⟨routing, router, selected, takes⟩
      · rw [selected] at processed
        cases processed
        exact
          (SameRequest.of_sameHolders same.sameHolders requestId).trans
            (.enqueueResponse _ _ (by rfl))
      · rw [selected] at processed
        cases processed
        have routed :
            worker.SameRequest { worker with requestRouter := router }
              requestId :=
          ⟨fun nodeId => by simp [takes.slotOf_eq, other],
            by simp [takes.decodeNodeOf_eq, other], rfl, rfl, rfl⟩
        exact routed.trans (assignRequest_sameRequest _ _ _ other)
    · cases processed
  · exact handleProcessRdmaRegistration_sameRequest processed requestId
  · exact handleReady_sameRequest processed requestId
  · cases processed
    exact .finishRequest _ _ other (by rfl) _
  · cases processed
    unfold handlePrefillCompleteOrchestrator
    have updated :=
      SameRequest.updateStatus worker other .decoding input
    simp only
    split
    · exact updated.trans (.enqueueResponse _ _ (by rfl))
    · exact updated.trans (.finishRequest _ _ other (by rfl) _)
  · cases processed
    exact .refl worker requestId

/-! ## Events about the request itself -/

/-- What is so for a request at any time: it holds a slot only of the node it is
mapped to, one that is not tracked has left no trace, and the only answer there
is, is a failure. -/
structure Consistent (worker : WorkerOrchestrator) (requestId : ByteString) :
    Prop where
  mapped :
    ∀ {nodeId slotId},
      worker.requestRouter.slotOf nodeId requestId = some slotId →
        worker.requestRouter.decodeNodeOf requestId = some nodeId
  untracked :
    worker.requestTracker.getClientFd requestId = none →
      worker.requestRouter.decodeNodeOf requestId = none ∧
        worker.terminalResponses requestId = []
  failures :
    ∀ sending ∈ worker.terminalResponses requestId,
      sending.2.type = .requestFailed

/-- The request has been given the status, has no slot any more and has been
answered by `added` in addition. -/
structure Finished
    (worker next : WorkerOrchestrator) (requestId : ByteString)
    (status : RequestStatus) (added : List (Int32 × Message)) : Prop where
  noSlot : ∀ nodeId, next.requestRouter.slotOf nodeId requestId = none
  unmapped : next.requestRouter.decodeNodeOf requestId = none
  status_eq :
    next.requestTracker.getStatus requestId =
      (worker.requestTracker.getStatus requestId).map fun _ => status
  clientFd_eq :
    next.requestTracker.getClientFd requestId =
      worker.requestTracker.getClientFd requestId
  responses_eq :
    next.terminalResponses requestId =
      worker.terminalResponses requestId ++ added

/-- One response for the client of the request, if it has one. -/
def responseTo
    (worker : WorkerOrchestrator) (requestId : ByteString)
    (response : Message) : List (Int32 × Message) :=
  (worker.requestTracker.getClientFd requestId).toList.map
    fun clientFd => (clientFd, response)

namespace Consistent

variable {worker next : WorkerOrchestrator} {requestId : ByteString}

theorem of_sameRequest
    (consistent : worker.Consistent requestId)
    (same : worker.SameRequest next requestId) :
    next.Consistent requestId where
  mapped := by
    intro nodeId slotId holds
    rw [same.slotOf_eq] at holds
    rw [same.decodeNodeOf_eq]
    exact consistent.mapped holds
  untracked := by
    intro absent
    rw [same.clientFd_eq] at absent
    rw [same.decodeNodeOf_eq, same.responses_eq]
    exact consistent.untracked absent
  failures := by
    rw [same.responses_eq]
    exact consistent.failures

theorem of_finished
    {status : RequestStatus} {response : Message}
    (consistent : worker.Consistent requestId)
    (finished :
      worker.Finished next requestId status
        (worker.responseTo requestId response))
    (failure : response.type = .requestFailed) :
    next.Consistent requestId where
  mapped := by
    intro nodeId slotId holds
    rw [finished.noSlot] at holds
    cases holds
  untracked := by
    intro absent
    rw [finished.clientFd_eq] at absent
    refine ⟨finished.unmapped, ?_⟩
    rw [finished.responses_eq, (consistent.untracked absent).2, responseTo,
      absent]
    rfl
  failures := by
    intro sending member
    rw [finished.responses_eq] at member
    rcases List.mem_append.mp member with earlier | added
    · exact consistent.failures sending earlier
    · obtain ⟨clientFd, _, rfl⟩ := List.mem_map.mp added
      exact failure

theorem slotOf_eq_none
    (consistent : worker.Consistent requestId)
    (unmapped : worker.requestRouter.decodeNodeOf requestId = none)
    (nodeId : ByteString) :
    worker.requestRouter.slotOf nodeId requestId = none := by
  cases holds : worker.requestRouter.slotOf nodeId requestId with
  | none =>
      rfl
  | some slotId =>
      have mapped := consistent.mapped holds
      rw [unmapped] at mapped
      cases mapped

/-- `free_slot` takes the slot the request is mapped to, hence every slot it
holds. -/
theorem slotOf_freeSlot
    (consistent : worker.Consistent requestId) (nodeId : ByteString) :
    (worker.freeSlot requestId).requestRouter.slotOf nodeId requestId =
      none := by
  rw [WorkerOrchestrator.freeSlot, RequestRouter.slotOf_freeSlot]
  by_cases mapped : worker.requestRouter.decodeNodeOf requestId = some nodeId
  · simp [mapped]
  · rw [if_neg (fun both => mapped both.2)]
    cases holds : worker.requestRouter.slotOf nodeId requestId with
    | none =>
        rfl
    | some slotId =>
        exact absurd (consistent.mapped holds) mapped

theorem decodeNodeOf_freeSlot
    (worker : WorkerOrchestrator) (requestId : ByteString) :
    (worker.freeSlot requestId).requestRouter.decodeNodeOf requestId =
      none := by
  rw [WorkerOrchestrator.freeSlot, RequestRouter.decodeNodeOf_freeSlot]
  exact if_pos rfl

theorem freeSlot (consistent : worker.Consistent requestId) :
    (worker.freeSlot requestId).Consistent requestId where
  mapped := by
    intro nodeId slotId holds
    rw [consistent.slotOf_freeSlot] at holds
    cases holds
  untracked := by
    intro absent
    exact
      ⟨decodeNodeOf_freeSlot worker requestId,
        (consistent.untracked absent).2⟩
  failures := consistent.failures

theorem updateStatus
    (consistent : worker.Consistent requestId) (status : RequestStatus)
    (input : ProcessInput) :
    (worker.updateStatus requestId status input).Consistent requestId where
  mapped := consistent.mapped
  untracked := by
    intro absent
    rw [WorkerOrchestrator.updateStatus,
      RequestTrackerOrchestrator.getClientFd_updateStatus] at absent
    exact consistent.untracked absent
  failures := consistent.failures

end Consistent

theorem closeRequest_finished
    {worker : WorkerOrchestrator} {requestInfo : RequestInfo}
    (status : RequestStatus) (input : ProcessInput)
    (consistent : worker.Consistent requestInfo.requestId) :
    worker.Finished (worker.closeRequest status requestInfo input)
      requestInfo.requestId status [] := by
  have updated := consistent.updateStatus status input
  have loads :=
    SameRequest.decrementNodeLoads
      ((worker.updateStatus requestInfo.requestId status input).freeSlot
        requestInfo.requestId)
      requestInfo.prefillNodeId requestInfo.decodeNodeId requestInfo.requestId
  constructor
  · intro nodeId
    exact (loads.slotOf_eq nodeId).trans (updated.slotOf_freeSlot nodeId)
  · exact
      loads.decodeNodeOf_eq.trans (Consistent.decodeNodeOf_freeSlot _ _)
  · refine loads.status_eq.trans ?_
    simp [freeSlot, updateStatus,
      RequestTrackerOrchestrator.getStatus_updateStatus]
  · refine loads.clientFd_eq.trans ?_
    simp [freeSlot, updateStatus]
  · refine loads.responses_eq.trans ?_
    rw [List.append_nil]
    rfl

theorem finishRequest_finished
    {worker : WorkerOrchestrator} {requestInfo : RequestInfo}
    {response : Message} (status : RequestStatus) (input : ProcessInput)
    (consistent : worker.Consistent requestInfo.requestId)
    (answering : response.answers requestInfo.requestId = true) :
    worker.Finished
      (worker.finishRequest status requestInfo response input)
      requestInfo.requestId status
      (worker.responseTo requestInfo.requestId response) := by
  have closed := closeRequest_finished status input consistent
  rw [finishRequest, responseTo]
  simp only [closed.clientFd_eq]
  cases present :
      worker.requestTracker.getClientFd requestInfo.requestId with
  | none =>
      exact closed
  | some clientFd =>
      refine
        ⟨closed.noSlot, closed.unmapped, closed.status_eq,
          closed.clientFd_eq, ?_⟩
      have sent :=
        terminalResponses_enqueueResponse
          (worker.closeRequest status requestInfo input) clientFd response
          requestInfo.requestId
      rw [answering, if_pos rfl, closed.responses_eq, List.append_nil] at sent
      exact sent

/-- A client request leaves a new request consistent, assigned or not. -/
theorem handleClientRequest_consistent
    {worker next : WorkerOrchestrator} {clientFd : Int32} {msg : Message}
    {input : ProcessInput}
    (handled : worker.handleClientRequest clientFd msg input = some next)
    (consistent : worker.Consistent msg.requestInfo.requestId)
    (untracked :
      worker.requestTracker.getClientFd msg.requestInfo.requestId = none) :
    next.Consistent msg.requestInfo.requestId := by
  rw [handleClientRequest] at handled
  split at handled
  · rcases
        worker.requestRouter.selectNodesAndAllocateSlot_cases
          input.prefillNodes input.decodeNodes input.prefillDraw
          input.decodeDraw msg.requestInfo.requestId with
      ⟨router, selected, same⟩ | ⟨routing, router, selected, takes⟩
    · rw [selected] at handled
      cases handled
      exact
        consistent.of_sameRequest
          ((SameRequest.of_sameHolders same.sameHolders _).trans
            (.enqueueResponse _ _ (by rfl)))
    · rw [selected] at handled
      cases handled
      obtain ⟨unmapped, unanswered⟩ := consistent.untracked untracked
      have tracked :
          ({ worker with
              requestRouter := router
              requestTracker :=
                worker.requestTracker.trackRequest
                  (assignedRequest msg.requestInfo routing input)
                  clientFd } : WorkerOrchestrator).Consistent
            msg.requestInfo.requestId := by
        constructor
        · intro nodeId slotId holds
          simp only [takes.slotOf_eq, consistent.slotOf_eq_none unmapped]
            at holds
          simp only [takes.decodeNodeOf_eq, if_true]
          split at holds
          · rename_i taken
            rw [taken.2]
          · cases holds
        · intro absent
          rw [RequestTrackerOrchestrator.getClientFd_trackRequest] at absent
          simp [assignedRequest] at absent
        · exact consistent.failures
      rw [assignRequest]
      simp only
      split
      · exact tracked.freeSlot
      · have prepared {fd : Int32} {message : Message}
            (silent : message.answers msg.requestInfo.requestId = false) :=
          tracked.of_sameRequest (.enqueueResponse _ fd silent)
        split
        · exact (prepared (by rfl)).freeSlot
        · exact
            (prepared (by rfl)).of_sameRequest
              ((SameRequest.enqueueResponse _ _ (by rfl)).trans
                (.incrementNodeLoads _ _ _ _))
  · cases handled

/-- Another status before the final one makes no difference. -/
theorem Finished.of_updateStatus
    {worker next : WorkerOrchestrator} {requestId : ByteString}
    {earlier status : RequestStatus} {input : ProcessInput}
    {response : Message}
    (finished :
      (worker.updateStatus requestId earlier input).Finished next requestId
        status
        ((worker.updateStatus requestId earlier input).responseTo requestId
          response)) :
    worker.Finished next requestId status
      (worker.responseTo requestId response) where
  noSlot := finished.noSlot
  unmapped := finished.unmapped
  status_eq := by
    rw [finished.status_eq, updateStatus,
      RequestTrackerOrchestrator.getStatus_updateStatus, if_pos rfl,
      Option.map_map]
    rfl
  clientFd_eq := by
    rw [finished.clientFd_eq, updateStatus,
      RequestTrackerOrchestrator.getClientFd_updateStatus]
  responses_eq := by
    rw [finished.responses_eq, responseTo, updateStatus,
      RequestTrackerOrchestrator.getClientFd_updateStatus]
    rfl

theorem handleRequestFailed_finished
    {worker : WorkerOrchestrator} (msg : Message) (input : ProcessInput)
    (consistent : worker.Consistent msg.requestInfo.requestId) :
    worker.Finished (worker.handleRequestFailed msg input)
      msg.requestInfo.requestId .failed
      (worker.responseTo msg.requestInfo.requestId
        (.createRequestFailed (input.origin .requestFailed)
          worker.orchestratorId msg.requestInfo msg.errorMessage)) :=
  finishRequest_finished .failed input consistent
    (decide_eq_true ⟨Or.inr rfl, rfl⟩)

/-- A finished prefill changes the status of its request, or ends the request
when its decode node has no connection. -/
theorem handlePrefillCompleteOrchestrator_cases
    {worker : WorkerOrchestrator} (msg : Message) (input : ProcessInput)
    (consistent : worker.Consistent msg.requestInfo.requestId) :
    ((worker.handlePrefillCompleteOrchestrator msg input).Consistent
          msg.requestInfo.requestId ∧
        (worker.handlePrefillCompleteOrchestrator msg
            input).requestTracker.getStatus msg.requestInfo.requestId =
          (worker.requestTracker.getStatus msg.requestInfo.requestId).map
            fun _ => .decoding) ∨
      worker.Finished
        (worker.handlePrefillCompleteOrchestrator msg input)
        msg.requestInfo.requestId .failed
        (worker.responseTo msg.requestInfo.requestId
          (worker.decodeNodeNotFound msg input)) := by
  have updated := consistent.updateStatus .decoding input
  have status :=
    RequestTrackerOrchestrator.getStatus_updateStatus worker.requestTracker
      msg.requestInfo.requestId msg.requestInfo.requestId .decoding
      (input.statusClock .decoding)
  rw [if_pos rfl] at status
  unfold handlePrefillCompleteOrchestrator
  simp only
  split
  · exact
      Or.inl ⟨updated.of_sameRequest (.enqueueResponse _ _ (by rfl)), status⟩
  · have answering :
        (worker.decodeNodeNotFound msg input).answers
          msg.requestInfo.requestId = true :=
      decide_eq_true ⟨Or.inr rfl, rfl⟩
    exact
      Or.inr
        (finishRequest_finished .failed input updated
          answering).of_updateStatus

/-- Every event keeps every request consistent, provided that a client asks for
a new one. -/
theorem processEvent_consistent
    {worker next : WorkerOrchestrator} {event : Event} {input : ProcessInput}
    (processed : worker.processEvent event input = some next)
    (fresh :
      event.message.type = .clientRequest →
        worker.requestTracker.getClientFd
          event.message.requestInfo.requestId = none)
    {requestId : ByteString} (consistent : worker.Consistent requestId) :
    next.Consistent requestId := by
  by_cases about : requestId = event.message.requestInfo.requestId
  · subst requestId
    rw [processEvent] at processed
    split at processed
    · rename_i isRequest
      exact
        handleClientRequest_consistent processed consistent (fresh isRequest)
    · exact
        consistent.of_sameRequest
          (handleProcessRdmaRegistration_sameRequest processed _)
    · exact consistent.of_sameRequest (handleReady_sameRequest processed _)
    · cases processed
      exact
        consistent.of_finished
          (handleRequestFailed_finished event.message input consistent) rfl
    · cases processed
      rcases
          handlePrefillCompleteOrchestrator_cases event.message input
            consistent with
        ⟨kept, _⟩ | finished
      · exact kept
      · exact consistent.of_finished finished rfl
    · cases processed
      exact consistent
  · exact
      consistent.of_sameRequest (processEvent_sameRequest processed about)

end WorkerOrchestrator

end RdmaKvCache
