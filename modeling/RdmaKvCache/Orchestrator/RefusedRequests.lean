import RdmaKvCache.Orchestrator.NodeChoices
import RdmaKvCache.Orchestrator.SlotHolders
import RdmaKvCache.Orchestrator.Worker

/-!
# Requests that are not assigned

`handle_client_request` passes an `ASSIGN_REQUEST` to the prefill node as its last
message.  It can return before that: when no nodes are selected, and when one of
the selected nodes has no connection.  Only the first of these leaves no trace.
-/

namespace RdmaKvCache

/-- The statuses for which `cleanup_old_requests` removes a request. -/
def RequestStatus.isTerminal : RequestStatus → Bool
  | .completed | .failed | .error => true
  | .pending | .prefilling | .transferring | .decoding | .unlisted _ => false

namespace RequestRouter

/-- A call running alone that refuses the request assigns nothing. -/
theorem sameAssignments_of_refused
    {router next : RequestRouter} {prefillNodes decodeNodes : List NodeInfo}
    {prefillDraw decodeDraw : Nat} {requestId : ByteString}
    (refused :
      router.selectNodesAndAllocateSlot prefillNodes decodeNodes prefillDraw
          decodeDraw requestId =
        (none, next)) :
    router.SameAssignments next := by
  rcases
      selectNodesAndAllocateSlot_cases router prefillNodes decodeNodes
        prefillDraw decodeDraw requestId with
    ⟨_, selected, same⟩ | ⟨_, _, selected, _⟩
  · rw [refused] at selected
    cases selected
    exact same
  · rw [refused] at selected
    cases selected

end RequestRouter

namespace WorkerOrchestrator

/-- The messages passed to the I/O thread after an earlier state. -/
def enqueuedSince (next worker : WorkerOrchestrator) : List (Int32 × Message) :=
  next.responses.drop worker.responses.length

/-- One of the messages is of the type and about the request. -/
def IsSent
    (sent : List (Int32 × Message)) (type : MessageType)
    (requestId : ByteString) : Prop :=
  ∃ sending ∈ sent,
    sending.2.type = type ∧ sending.2.requestInfo.requestId = requestId

/-- Nothing is left of the request but one error response to its client. -/
structure NoTrace
    (worker next : WorkerOrchestrator) (clientFd : Int32)
    (requestId : ByteString) : Prop where
  freeSlots :
    ∀ nodeId slotId,
      slotId ∈ (next.requestRouter.allocatorOf nodeId).freeSlots ↔
        slotId ∈ (worker.requestRouter.allocatorOf nodeId).freeSlots
  decodeNodes :
    next.requestRouter.requestToDecodeNode =
      worker.requestRouter.requestToDecodeNode
  loads : next.requestRouter.nodeLoads = worker.requestRouter.nodeLoads
  notPrepared :
    ¬ IsSent (next.enqueuedSince worker) .prepareDecodeSlot requestId
  ended :
    ∀ status ∈ next.requestTracker.getStatus requestId,
      status.isTerminal = true
  oneError :
    ((next.enqueuedSince worker).filter fun sending =>
      decide
        (sending.1 = clientFd ∧ sending.2.type = .clientError)).length = 1

/-- The nodes a call running alone selects for the request. -/
def routingOf
    (worker : WorkerOrchestrator) (requestId : ByteString)
    (input : ProcessInput) : Option RoutingResult :=
  (worker.requestRouter.selectNodesAndAllocateSlot input.prefillNodes
    input.decodeNodes input.prefillDraw input.decodeDraw requestId).1

/-- Both selected nodes are connected; if none are selected, there is no request
under the id that has not ended. -/
def ConnectedOrEnded
    (worker : WorkerOrchestrator) (requestId : ByteString)
    (input : ProcessInput) : Prop :=
  (∀ routing ∈ worker.routingOf requestId input,
      (worker.nodeRegistry.getNodeFd routing.decodeNode.nodeId).isSome = true ∧
        (worker.nodeRegistry.getNodeFd
          routing.prefillNode.nodeId).isSome = true) ∧
    (worker.routingOf requestId input = none →
      ∀ status ∈ worker.requestTracker.getStatus requestId,
        status.isTerminal = true)

instance
    (worker : WorkerOrchestrator) (requestId : ByteString)
    (input : ProcessInput) :
    Decidable (worker.ConnectedOrEnded requestId input) :=
  inferInstanceAs (Decidable (_ ∧ (_ = none → _)))

/-! ## What is enqueued -/

section Enqueued

variable {worker : WorkerOrchestrator} {clientFd : Int32}
variable {requestInfo : RequestInfo} {input : ProcessInput}

theorem enqueuedSince_of_append
    {next : WorkerOrchestrator} {sent : List (Int32 × Message)}
    (appended : next.responses = worker.responses ++ sent) :
    next.enqueuedSince worker = sent := by
  rw [enqueuedSince, appended, List.drop_left]

/-- The messages of an assignment: to the decode node, if it is connected, and
then to the prefill node, if that is connected as well. -/
def assignmentMessages
    (worker : WorkerOrchestrator) (requestInfo : RequestInfo)
    (input : ProcessInput) : List (Int32 × Message) :=
  (worker.nodeRegistry.getNodeFd requestInfo.decodeNodeId).toList.flatMap
    fun decodeNodeFd =>
      (decodeNodeFd,
          .createPrepareDecodeSlot (input.origin .prepareDecodeSlot)
            worker.orchestratorId requestInfo) ::
        (worker.nodeRegistry.getNodeFd
          requestInfo.prefillNodeId).toList.map fun prefillFd =>
            (prefillFd,
              .createAssignRequest (input.origin .assignRequest)
                worker.orchestratorId requestInfo)

theorem assignRequest_enqueued
    (worker : WorkerOrchestrator) (clientFd : Int32)
    (requestInfo : RequestInfo) (input : ProcessInput) :
    (worker.assignRequest clientFd requestInfo input).enqueuedSince worker =
      worker.assignmentMessages requestInfo input := by
  apply enqueuedSince_of_append
  rw [assignRequest, assignmentMessages]
  cases worker.nodeRegistry.getNodeFd requestInfo.decodeNodeId with
  | none =>
      simp [freeSlot]
  | some decodeNodeFd =>
      cases prefill :
          worker.nodeRegistry.getNodeFd requestInfo.prefillNodeId with
      | none =>
          simp [prefill, freeSlot, sendServerResponse, enqueueResponse]
      | some prefillFd =>
          simp [prefill, incrementNodeLoads, sendServerResponse,
            enqueueResponse]

/-- A request that nodes are selected for has the messages of its assignment
enqueued. -/
theorem enqueuedSince_of_routed
    {next : WorkerOrchestrator} {msg : Message} {routing : RoutingResult}
    (handled : worker.handleClientRequest clientFd msg input = some next)
    (routed : worker.routingOf msg.requestInfo.requestId input = some routing) :
    next.enqueuedSince worker =
      worker.assignmentMessages
        (assignedRequest msg.requestInfo routing input) input := by
  rw [handleClientRequest] at handled
  rw [routingOf] at routed
  split at handled
  · rcases selected :
        worker.requestRouter.selectNodesAndAllocateSlot input.prefillNodes
          input.decodeNodes input.prefillDraw input.decodeDraw
          msg.requestInfo.requestId with
      ⟨found, router⟩
    rw [selected] at handled routed
    dsimp only at routed
    subst routed
    cases handled
    exact
      assignRequest_enqueued { worker with requestRouter := router } clientFd
        (assignedRequest msg.requestInfo routing input) input
  · cases handled

/-- A request that no nodes are selected for is refused. -/
theorem refused_of_not_routed
    {next : WorkerOrchestrator} {msg : Message}
    (handled : worker.handleClientRequest clientFd msg input = some next)
    (notRouted : worker.routingOf msg.requestInfo.requestId input = none) :
    worker.requestRouter.SameAssignments next.requestRouter ∧
      next.enqueuedSince worker =
        [(clientFd,
          .createError (input.origin .clientError)
            (.ofText "All nodes at capacity. Please try again later."))] ∧
      next.requestTracker = worker.requestTracker := by
  rw [handleClientRequest] at handled
  rw [routingOf] at notRouted
  split at handled
  · rcases selected :
        worker.requestRouter.selectNodesAndAllocateSlot input.prefillNodes
          input.decodeNodes input.prefillDraw input.decodeDraw
          msg.requestInfo.requestId with
      ⟨found, router⟩
    rw [selected] at handled notRouted
    dsimp only at notRouted
    subst notRouted
    cases handled
    exact
      ⟨RequestRouter.sameAssignments_of_refused selected,
        enqueuedSince_of_append rfl, rfl⟩
  · cases handled

end Enqueued

/-! ## Requests that were not assigned -/

section Handling

variable {worker next : WorkerOrchestrator} {clientFd : Int32} {msg : Message}
variable {input : ProcessInput} {requestId : ByteString}

/-- A refused request leaves no trace if no request under its id is left. -/
theorem refused_leaves_no_trace_iff
    {response : Message}
    (same : worker.requestRouter.SameAssignments next.requestRouter)
    (isError : response.type = .clientError)
    (sent : next.enqueuedSince worker = [(clientFd, response)])
    (tracked : next.requestTracker = worker.requestTracker) :
    (¬ IsSent (next.enqueuedSince worker) .assignRequest requestId →
        worker.NoTrace next clientFd requestId) ↔
      ∀ status ∈ worker.requestTracker.getStatus requestId,
        status.isTerminal = true := by
  have onlyError (type : MessageType) (other : type ≠ .clientError) :
      ¬ IsSent (next.enqueuedSince worker) type requestId := by
    rintro ⟨sending, listed, isType, _⟩
    rw [sent] at listed
    rw [List.mem_singleton.mp listed, isError] at isType
    exact other isType.symm
  constructor
  · intro leavesNone
    have noTrace := leavesNone (onlyError .assignRequest nofun)
    rw [← tracked]
    exact noTrace.ended
  · intro ended _
    rw [← tracked] at ended
    have notPrepared := onlyError .prepareDecodeSlot nofun
    refine ⟨?_, same.decodeNodes, same.loads, notPrepared, ended, ?_⟩
    · intro nodeId slotId
      rw [same.allocators]
    · rw [sent]
      simp [isError]

/-- Without an error response there is a trace. -/
theorem not_noTrace_of_silent
    (silent :
      ∀ sending ∈ next.enqueuedSince worker,
        sending.2.type ≠ .clientError) :
    ¬ worker.NoTrace next clientFd requestId := by
  intro noTrace
  have one := noTrace.oneError
  have none :
      ((next.enqueuedSince worker).filter fun sending =>
        decide (sending.1 = clientFd ∧ sending.2.type = .clientError)) = [] := by
    apply List.filter_eq_nil_iff.mpr
    intro sending listed isError
    exact silent sending listed (of_decide_eq_true isError).2
  rw [none] at one
  cases one

/-- A request that nodes were selected for leaves no trace only if it is assigned
to them. -/
theorem selected_leaves_no_trace_iff
    (requestInfo : RequestInfo)
    (sent :
      next.enqueuedSince worker =
        worker.assignmentMessages requestInfo input) :
    (¬ IsSent (next.enqueuedSince worker) .assignRequest
          requestInfo.requestId →
        worker.NoTrace next clientFd requestInfo.requestId) ↔
      (worker.nodeRegistry.getNodeFd requestInfo.decodeNodeId).isSome = true ∧
        (worker.nodeRegistry.getNodeFd
          requestInfo.prefillNodeId).isSome = true := by
  rw [assignmentMessages] at sent
  cases decode : worker.nodeRegistry.getNodeFd requestInfo.decodeNodeId with
  | none =>
      have nothing : next.enqueuedSince worker = [] := by
        rw [sent, decode]
        rfl
      have silent :
          ¬ worker.NoTrace next clientFd requestInfo.requestId := by
        apply not_noTrace_of_silent
        intro sending listed
        rw [nothing] at listed
        cases listed
      have notAssigned :
          ¬ IsSent (next.enqueuedSince worker) .assignRequest
            requestInfo.requestId := by
        rintro ⟨sending, listed, _⟩
        rw [nothing] at listed
        cases listed
      simp [silent, notAssigned]
  | some decodeNodeFd =>
      cases prefill :
          worker.nodeRegistry.getNodeFd requestInfo.prefillNodeId with
      | none =>
          have prepared :
              next.enqueuedSince worker =
                [(decodeNodeFd,
                  .createPrepareDecodeSlot (input.origin .prepareDecodeSlot)
                    worker.orchestratorId requestInfo)] := by
            rw [sent, decode, prefill]
            rfl
          have silent :
              ¬ worker.NoTrace next clientFd requestInfo.requestId := by
            apply not_noTrace_of_silent
            intro sending listed
            rw [prepared] at listed
            rw [List.mem_singleton.mp listed]
            intro isError
            cases isError
          have notAssigned :
              ¬ IsSent (next.enqueuedSince worker) .assignRequest
                requestInfo.requestId := by
            rintro ⟨sending, listed, isAssign, _⟩
            rw [prepared] at listed
            rw [List.mem_singleton.mp listed] at isAssign
            cases isAssign
          simp [silent, notAssigned]
      | some prefillFd =>
          have assigned :
              IsSent (next.enqueuedSince worker) .assignRequest
                requestInfo.requestId := by
            rw [sent, decode, prefill]
            exact
              ⟨_, List.mem_cons_of_mem _ (List.mem_singleton_self _), rfl, rfl⟩
          simp [assigned]

/-- A request that is not assigned leaves no trace exactly if no nodes were
selected for it and no other request under its id has not ended. -/
theorem unassigned_leaves_no_trace_iff
    (handled : worker.handleClientRequest clientFd msg input = some next) :
    (¬ IsSent (next.enqueuedSince worker) .assignRequest
          msg.requestInfo.requestId →
        worker.NoTrace next clientFd msg.requestInfo.requestId) ↔
      worker.ConnectedOrEnded msg.requestInfo.requestId input := by
  rw [ConnectedOrEnded]
  cases routed : worker.routingOf msg.requestInfo.requestId input with
  | none =>
      obtain ⟨same, sent, tracked⟩ := refused_of_not_routed handled routed
      apply
        Iff.trans (b :=
          ∀ status ∈ worker.requestTracker.getStatus msg.requestInfo.requestId,
            status.isTerminal = true)
      · exact refused_leaves_no_trace_iff same rfl sent tracked
      · simp
  | some routing =>
      have sent := enqueuedSince_of_routed handled routed
      apply
        Iff.trans (b :=
          (worker.nodeRegistry.getNodeFd
                routing.decodeNode.nodeId).isSome = true ∧
            (worker.nodeRegistry.getNodeFd
              routing.prefillNode.nodeId).isSome = true)
      · exact
          selected_leaves_no_trace_iff
            (assignedRequest msg.requestInfo routing input) sent
      · simp

end Handling

/-! ## A node that has just been added -/

def sampleClientRequest : Message :=
  .about ⟨.cleared, 0⟩ .clientRequest []
    { Message.cleared.requestInfo with requestId := [10] }

def sampleListing (decodeNodes : List NodeInfo) : ProcessInput where
  prefillNodes := [.healthy [1] .prefill]
  decodeNodes := decodeNodes
  requestMemory := Message.cleared.requestInfo
  origin := fun _ => ⟨.cleared, 0⟩

/-- An orchestrator with a connected prefill node. -/
def samplePrefillOnly : WorkerOrchestrator :=
  { start [0] [0] 1 1 with
    nodeRegistry :=
      (({} : NodeRegistry).addNode (.healthy [1] .prefill)).addNodeFd [1] 7 }

/-- The registration of a decode node has added the node, and not yet its
connection. -/
def sampleHalfRegistered : WorkerOrchestrator :=
  { samplePrefillOnly with
    nodeRegistry :=
      samplePrefillOnly.nodeRegistry.addNode (.healthy [2] .decode) }

theorem unassigned_leaves_no_trace_iff_prefillOnly :
    ∃ next,
      samplePrefillOnly.handleClientRequest 9 sampleClientRequest
          (sampleListing []) =
        some next ∧
      samplePrefillOnly.NoTrace next 9 [10] := by
  have outcome :
      (samplePrefillOnly.handleClientRequest 9 sampleClientRequest
          (sampleListing [])).map
          (fun next =>
            (next.enqueuedSince samplePrefillOnly).map fun sending =>
              sending.2.type) =
        some [.clientError] := by
    decide +kernel
  obtain ⟨next, handled, sent⟩ := Option.map_eq_some_iff.mp outcome
  refine ⟨next, handled, ?_⟩
  apply (unassigned_leaves_no_trace_iff handled).mpr (by decide +kernel)
  rintro ⟨sending, listed, isAssign, _⟩
  have isError : sending.2.type ∈ [MessageType.clientError] := by
    rw [← sent]
    exact List.mem_map_of_mem listed
  rw [isAssign] at isError
  cases List.mem_singleton.mp isError

/-- The request stays pending and its client is not answered. -/
theorem half_registered_leaves_trace :
    ∃ next,
      sampleHalfRegistered.handleClientRequest 9 sampleClientRequest
          (sampleListing [.healthy [2] .decode]) =
        some next ∧
      next.responses = [] ∧
      next.requestTracker.getStatus [10] = some .pending ∧
      ¬ sampleHalfRegistered.NoTrace next 9 [10] := by
  have outcome :
      (sampleHalfRegistered.handleClientRequest 9 sampleClientRequest
          (sampleListing [.healthy [2] .decode])).map
          (fun next =>
            (next.responses, next.requestTracker.getStatus [10])) =
        some ([], some .pending) := by
    decide +kernel
  obtain ⟨next, handled, observed⟩ := Option.map_eq_some_iff.mp outcome
  simp only [Prod.mk.injEq] at observed
  obtain ⟨silent, pending⟩ := observed
  refine ⟨next, handled, silent, pending, ?_⟩
  intro noTrace
  have ended := noTrace.ended .pending pending
  cases ended

end WorkerOrchestrator

end RdmaKvCache
