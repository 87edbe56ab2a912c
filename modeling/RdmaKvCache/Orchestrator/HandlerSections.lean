import RdmaKvCache.Library.LabelledRuns
import RdmaKvCache.Orchestrator.RouterRuns
import RdmaKvCache.Orchestrator.Worker

/-!
# The workers of the orchestrator, section by section

The I/O thread accepts and closes connections and puts the messages it receives
on a queue.  Any number of workers take them from there and run their handlers.
A handler is a sequence of sections: each operation of the registry, the
exchange tracker, the router and the request tracker, each `enqueue_response`
call and the change of the orchestrator's state.  Between two sections anything
else may take place.

The kernel gives the descriptor of a closed connection to new ones.  Here a
connection also has a number that no other connection gets.  The numbers and the
history are not known to the program.
-/

namespace RdmaKvCache

/-- An event and the number of the connection it came over. -/
structure ReceivedEvent where
  event : Event
  connection : Nat
  deriving DecidableEq

/-! ## Program points -/

/-- Where a worker is in `handle_client_request`. -/
inductive ClientRequestTask where
  | selecting (state : SelectState)
  | refusing
  | tracking (routing : RoutingResult)
  | lookingUpDecode (requestInfo : RequestInfo)
  | preparing (decodeNodeFd : Int32) (requestInfo : RequestInfo)
  | lookingUpPrefill (requestInfo : RequestInfo)
  | assigning (prefillFd : Int32) (requestInfo : RequestInfo)
  | incrementing (nodeIds : List ByteString)
  | discarding (requestId : ByteString)
  deriving DecidableEq

/-- Where a worker is in `handle_process_rdma_registration`. -/
inductive RegistrationTask where
  | addingNode
  | addingNodeFd
  | registering
  | counting
  | listing
  | broadcasting (nodes : List NodeInfo) (broadcastMsg : Message)
  | sending
      (node : NodeInfo) (nodeFd : Int32) (nodes : List NodeInfo)
      (broadcastMsg : Message)
  deriving DecidableEq

/-- Where a worker is in `handle_ready`. -/
inductive ReadyTask where
  | markingReady
  | settingState
  deriving DecidableEq

/-- Where a worker is in `handle_prefill_complete_orchestrator`. -/
inductive PrefillCompleteTask where
  | updatingStatus
  | lookingUpDecode
  | informing (decodeNodeFd : Int32)
  deriving DecidableEq

/-- Where a worker is in the sections that `handle_request_failed` shares with
the error path of `handle_prefill_complete_orchestrator`. -/
inductive FailureTask where
  | updatingStatus
  | freeingSlot
  | decrementing (nodeIds : List ByteString)
  | lookingUpClient
  | responding (clientFd : Int32)
  deriving DecidableEq

/-- A blocked handler waits for the mutex of the exchange tracker, which it
holds itself. -/
inductive HandlerTask where
  | clientRequest (task : ClientRequestTask)
  | registration (task : RegistrationTask)
  | ready (task : ReadyTask)
  | prefillComplete (task : PrefillCompleteTask)
  | failure (errorMessage : ByteString) (task : FailureTask)
  | blocked
  | finished
  deriving DecidableEq

/-- Where `process_event` starts. -/
def HandlerTask.first (message : Message) : HandlerTask :=
  match message.type with
  | .clientRequest => .clientRequest (.selecting .entered)
  | .rdmaProcessRegistration => .registration .addingNode
  | .rdmaReady => .ready .markingReady
  | .requestFailed => .failure message.errorMessage .updatingStatus
  | .prefillCompleteOrchestrator => .prefillComplete .updatingStatus
  | _ => .finished

/-! ## Sections -/

/-- Whom a response is meant for: the sender of the message being handled, the
client that asked for a request, or a node. -/
inductive Recipient where
  | sender
  | requester (requestId : ByteString)
  | node (nodeId : ByteString)
  deriving DecidableEq

/-- What a section does to the shared components. -/
inductive SectionEffect where
  | nothing
  | setRouter (requestRouter : RequestRouter)
  | setRequestTracker (requestTracker : RequestTrackerOrchestrator)
  | trackRequest (requestInfo : RequestInfo)
  | addNode (node : NodeInfo)
  | addNodeFd (nodeId : ByteString)
  | setExchangeTracker (rdmaExchangeTracker : RdmaExchangeTracker)
  | setRunning
  | enqueueResponse (recipient : Recipient) (fd : Int32) (response : Message)

/-- What a section takes from outside. -/
structure SectionInput where
  select : SelectInput := {}
  process : ProcessInput

/-- The text for a node without a connection. -/
def decodeNodeMissing (nodeId : ByteString) : ByteString :=
  .ofText "Decode node " ++ nodeId ++ .ofText " not found"

section Sections

variable (worker : WorkerOrchestrator) (event : Event) (input : SectionInput)

/-- The next section of `handle_client_request`. -/
def ClientRequestTask.advance :
    ClientRequestTask → Option (SectionEffect × HandlerTask)
  | .selecting (.returned none) => some (.nothing, .clientRequest .refusing)
  | .selecting (.returned (some routing)) =>
      some (.nothing, .clientRequest (.tracking routing))
  | .selecting state =>
      (state.advance worker.requestRouter worker.nodeRegistry
        event.message.requestInfo.requestId input.select).map
          fun (router, reached) =>
            (.setRouter router, .clientRequest (.selecting reached))
  | .refusing =>
      some
        (.enqueueResponse .sender event.clientFd
          (.createError (input.process.origin .clientError)
            (.ofText "All nodes at capacity. Please try again later.")),
          .finished)
  | .tracking routing =>
      let requestInfo :=
        WorkerOrchestrator.assignedRequest event.message.requestInfo routing
          input.process
      some
        (.trackRequest requestInfo,
          .clientRequest (.lookingUpDecode requestInfo))
  | .lookingUpDecode requestInfo =>
      match worker.nodeRegistry.getNodeFd requestInfo.decodeNodeId with
      | none =>
          some (.nothing, .clientRequest (.discarding requestInfo.requestId))
      | some decodeNodeFd =>
          some (.nothing, .clientRequest (.preparing decodeNodeFd requestInfo))
  | .preparing decodeNodeFd requestInfo =>
      some
        (.enqueueResponse (.node requestInfo.decodeNodeId) decodeNodeFd
          (.createPrepareDecodeSlot (input.process.origin .prepareDecodeSlot)
            worker.orchestratorId requestInfo),
          .clientRequest (.lookingUpPrefill requestInfo))
  | .lookingUpPrefill requestInfo =>
      match worker.nodeRegistry.getNodeFd requestInfo.prefillNodeId with
      | none =>
          some (.nothing, .clientRequest (.discarding requestInfo.requestId))
      | some prefillFd =>
          some (.nothing, .clientRequest (.assigning prefillFd requestInfo))
  | .assigning prefillFd requestInfo =>
      some
        (.enqueueResponse (.node requestInfo.prefillNodeId) prefillFd
          (.createAssignRequest (input.process.origin .assignRequest)
            worker.orchestratorId requestInfo),
          .clientRequest
            (.incrementing
              [requestInfo.prefillNodeId, requestInfo.decodeNodeId]))
  | .incrementing [] => some (.nothing, .finished)
  | .incrementing (nodeId :: nodeIds) =>
      some
        (.setRouter (worker.requestRouter.incrementNodeLoad nodeId),
          .clientRequest (.incrementing nodeIds))
  | .discarding requestId =>
      some (.setRouter (worker.requestRouter.freeSlot requestId), .finished)

/-- The next section of `handle_process_rdma_registration`. -/
def RegistrationTask.advance :
    RegistrationTask → Option (SectionEffect × HandlerTask)
  | .addingNode =>
      some (.addNode event.message.nodeInfo, .registration .addingNodeFd)
  | .addingNodeFd =>
      some
        (.addNodeFd event.message.nodeInfo.nodeId, .registration .registering)
  | .registering =>
      match
        worker.rdmaExchangeTracker.registerNode event.message.nodeInfo.nodeId
          event.message.nodeInfo.role
      with
      | none => some (.nothing, .blocked)
      | some (_, rdmaExchangeTracker) =>
          some
            (.setExchangeTracker rdmaExchangeTracker,
              .registration .counting)
  | .counting =>
      if Int32.ofNat worker.nodeRegistry.getTotalRegisteredNodes =
          worker.expectedPrefillNodes + worker.expectedDecodeNodes then
        some (.nothing, .registration .listing)
      else
        some (.nothing, .finished)
  | .listing =>
      if input.process.allNodes.Perm worker.nodeRegistry.getAllNodes then
        some
          (.nothing,
            .registration
              (.broadcasting input.process.allNodes
                (.createBroadcastMemberInfo
                  (input.process.origin .broadcastMemberInfo) worker.nodeId
                  input.process.allNodes)))
      else
        none
  | .broadcasting [] _ => some (.nothing, .finished)
  | .broadcasting (node :: nodes) broadcastMsg =>
      match worker.nodeRegistry.getNodeFd node.nodeId with
      | none =>
          some (.nothing, .registration (.broadcasting nodes broadcastMsg))
      | some nodeFd =>
          some
            (.nothing, .registration (.sending node nodeFd nodes broadcastMsg))
  | .sending node nodeFd nodes broadcastMsg =>
      some
        (.enqueueResponse (.node node.nodeId) nodeFd broadcastMsg,
          .registration (.broadcasting nodes broadcastMsg))

/-- The next section of `handle_ready`. -/
def ReadyTask.advance : ReadyTask → Option (SectionEffect × HandlerTask)
  | .markingReady =>
      match
        worker.rdmaExchangeTracker.markNodeReady event.message.sourceNodeId
      with
      | none => some (.nothing, .blocked)
      | some (allReady, rdmaExchangeTracker) =>
          some
            (.setExchangeTracker rdmaExchangeTracker,
              if allReady then .ready .settingState else .finished)
  | .settingState => some (.setRunning, .finished)

/-- The next section of `handle_prefill_complete_orchestrator`. -/
def PrefillCompleteTask.advance :
    PrefillCompleteTask → Option (SectionEffect × HandlerTask)
  | .updatingStatus =>
      some
        (.setRequestTracker
          (worker.updateStatus event.message.requestInfo.requestId .decoding
            input.process).requestTracker,
          .prefillComplete .lookingUpDecode)
  | .lookingUpDecode =>
      match
        worker.nodeRegistry.getNodeFd event.message.requestInfo.decodeNodeId
      with
      | none =>
          some
            (.nothing,
              .failure
                (decodeNodeMissing event.message.requestInfo.decodeNodeId)
                .updatingStatus)
      | some decodeNodeFd =>
          some (.nothing, .prefillComplete (.informing decodeNodeFd))
  | .informing decodeNodeFd =>
      some
        (.enqueueResponse (.node event.message.requestInfo.decodeNodeId)
          decodeNodeFd
          (.prefillComplete (input.process.origin .prefillComplete)
            worker.orchestratorId event.message.requestInfo),
          .finished)

/-- The next section of a handler that ends a request as failed. -/
def FailureTask.advance (errorMessage : ByteString) :
    FailureTask → Option (SectionEffect × HandlerTask)
  | .updatingStatus =>
      some
        (.setRequestTracker
          (worker.updateStatus event.message.requestInfo.requestId .failed
            input.process).requestTracker,
          .failure errorMessage .freeingSlot)
  | .freeingSlot =>
      some
        (.setRouter
          (worker.requestRouter.freeSlot event.message.requestInfo.requestId),
          .failure errorMessage
            (.decrementing
              [event.message.requestInfo.prefillNodeId,
                event.message.requestInfo.decodeNodeId]))
  | .decrementing [] =>
      some (.nothing, .failure errorMessage .lookingUpClient)
  | .decrementing (nodeId :: nodeIds) =>
      some
        (.setRouter (worker.requestRouter.decrementNodeLoad nodeId),
          .failure errorMessage (.decrementing nodeIds))
  | .lookingUpClient =>
      match
        worker.requestTracker.getClientFd event.message.requestInfo.requestId
      with
      | none => some (.nothing, .finished)
      | some clientFd =>
          some (.nothing, .failure errorMessage (.responding clientFd))
  | .responding clientFd =>
      some
        (.enqueueResponse (.requester event.message.requestInfo.requestId)
          clientFd
          (.createRequestFailed (input.process.origin .requestFailed)
            worker.orchestratorId event.message.requestInfo errorMessage),
          .finished)

/-- The next section of the handler. -/
def HandlerTask.advance :
    HandlerTask → Option (SectionEffect × HandlerTask)
  | .clientRequest task => task.advance worker event input
  | .registration task => task.advance worker event input
  | .ready task => task.advance worker event
  | .prefillComplete task => task.advance worker event input
  | .failure errorMessage task =>
      task.advance worker event input errorMessage
  | .blocked => none
  | .finished => none

end Sections

/-- The section acquires the mutex of the exchange tracker. -/
def HandlerTask.locksExchangeTracker : HandlerTask → Bool
  | .registration .registering => true
  | .ready .markingReady => true
  | _ => false

/-! ## The orchestrator -/

/-- A response at the time it is enqueued: the connections it is meant for, the
open ones and the one in whose output buffer it is put. -/
structure Sending where
  recipient : Recipient
  fd : Int32
  message : Message
  state : OrchestratorState
  intended : List Nat
  openConnections : List Nat
  reached : Option Nat

/-- What has taken place: the messages received, the connection over which each
descriptor in the registry was registered, the tracked requests with the
connections they came over, and the responses. -/
structure OrchestratorHistory where
  received : List ReceivedEvent := []
  recorded : UnorderedMap ByteString Nat := ∅
  tracked : List (ByteString × Nat) := []
  sendings : List Sending := []

structure HandlerCall where
  received : ReceivedEvent
  task : HandlerTask
  deriving DecidableEq

structure OrchestratorSystem where
  worker : WorkerOrchestrator
  /-- The number of the connection behind each open descriptor. -/
  connections : UnorderedMap Int32 Nat := ∅
  accepted : Nat := 0
  eventQueueSize : UInt64
  eventQueue : List ReceivedEvent := []
  calls : List HandlerCall := []
  history : OrchestratorHistory := {}

inductive OrchestratorSystemAction where
  | accept (fd : Int32)
  | removeConnection (fd : Int32)
  | receive (fd : Int32) (message : Message)
  | waitAndPop
  | advance (index : Nat) (input : SectionInput)

/-- The message registers the node. -/
def Message.registers (nodeId : ByteString) (message : Message) : Bool :=
  decide
    (message.type = .rdmaProcessRegistration ∧
      message.nodeInfo.nodeId = nodeId)

/-- The connection over which the node registered last. -/
def OrchestratorHistory.latestRegistration
    (history : OrchestratorHistory) (nodeId : ByteString) : Option Nat :=
  (history.received.filter fun received =>
    received.event.message.registers nodeId).getLast?.map
      ReceivedEvent.connection

namespace OrchestratorSystem

def start
    (orchestratorId nodeId : ByteString)
    (expectedPrefillNodes expectedDecodeNodes : Int32)
    (eventQueueSize : UInt64) : OrchestratorSystem where
  worker :=
    .start orchestratorId nodeId expectedPrefillNodes expectedDecodeNodes
  eventQueueSize := eventQueueSize

/-- The connections a response is meant for when it is enqueued. -/
def intended
    (system : OrchestratorSystem) (received : ReceivedEvent) :
    Recipient → List Nat
  | .sender => [received.connection]
  | .requester requestId =>
      (system.history.tracked.filter fun tracked =>
        decide (tracked.1 = requestId)).map Prod.snd
  | .node nodeId => (system.history.latestRegistration nodeId).toList

/-- A descriptor that is not open is reported and the response dropped. -/
def sending
    (system : OrchestratorSystem) (received : ReceivedEvent)
    (recipient : Recipient) (fd : Int32) (response : Message) : Sending where
  recipient := recipient
  fd := fd
  message := response
  state := system.worker.state
  intended := system.intended received recipient
  openConnections := system.connections.entries.map Sigma.snd
  reached := system.connections.lookup fd

def enqueueResponse
    (system : OrchestratorSystem) (received : ReceivedEvent)
    (recipient : Recipient) (fd : Int32) (response : Message) :
    OrchestratorSystem :=
  { system with
    worker := system.worker.enqueueResponse fd response
    history :=
      { system.history with
        sendings :=
          system.history.sendings ++
            [system.sending received recipient fd response] } }

/-- The effect of a section of the handler of `received`. -/
def apply (system : OrchestratorSystem) (received : ReceivedEvent) :
    SectionEffect → OrchestratorSystem
  | .nothing => system
  | .setRouter requestRouter =>
      { system with
        worker := { system.worker with requestRouter := requestRouter } }
  | .setRequestTracker requestTracker =>
      { system with
        worker := { system.worker with requestTracker := requestTracker } }
  | .trackRequest requestInfo =>
      { system with
        worker :=
          { system.worker with
            requestTracker :=
              system.worker.requestTracker.trackRequest requestInfo
                received.event.clientFd }
        history :=
          { system.history with
            tracked :=
              system.history.tracked ++
                [(requestInfo.requestId, received.connection)] } }
  | .addNode node =>
      { system with
        worker :=
          { system.worker with
            nodeRegistry := system.worker.nodeRegistry.addNode node } }
  | .addNodeFd nodeId =>
      { system with
        worker :=
          { system.worker with
            nodeRegistry :=
              system.worker.nodeRegistry.addNodeFd nodeId
                received.event.clientFd }
        history :=
          { system.history with
            recorded :=
              system.history.recorded.insert nodeId received.connection } }
  | .setExchangeTracker rdmaExchangeTracker =>
      { system with
        worker :=
          { system.worker with rdmaExchangeTracker := rdmaExchangeTracker } }
  | .setRunning =>
      { system with worker := { system.worker with state := .running } }
  | .enqueueResponse recipient fd response =>
      system.enqueueResponse received recipient fd response

/-- Some handler holds the mutex of the exchange tracker for ever. -/
def exchangeTrackerHeld (system : OrchestratorSystem) : Bool :=
  system.calls.any fun call => decide (call.task = .blocked)

/-- A message that finds the queue full is dropped. -/
def receive (system : OrchestratorSystem) (received : ReceivedEvent) :
    OrchestratorSystem :=
  { system with
    eventQueue :=
      if system.eventQueue.length < system.eventQueueSize.toNat then
        system.eventQueue ++ [received]
      else system.eventQueue
    history :=
      { system.history with
        received := system.history.received ++ [received] } }

def step (system : OrchestratorSystem) :
    OrchestratorSystemAction → Option OrchestratorSystem
  | .accept fd =>
      if 0 ≤ fd ∧ system.connections.lookup fd = none then
        some
          { system with
            connections := system.connections.insert fd system.accepted
            accepted := system.accepted + 1 }
      else
        none
  | .removeConnection fd =>
      if system.connections.lookup fd = none then none else
        some
          { system with connections := system.connections.erase fd }
  | .receive fd message =>
      (system.connections.lookup fd).map fun connection =>
        system.receive ⟨⟨fd, message⟩, connection⟩
  | .waitAndPop =>
      match system.eventQueue with
      | [] => none
      | received :: rest =>
          some
            { system with
              eventQueue := rest
              calls :=
                system.calls ++ [⟨received, .first received.event.message⟩] }
  | .advance index input =>
      system.calls[index]?.bind fun call =>
        if call.task.locksExchangeTracker && system.exchangeTrackerHeld then
          none
        else
          (call.task.advance system.worker call.received.event input).map
            fun (effect, task) =>
              { system.apply call.received effect with
                calls := system.calls.set index { call with task := task } }

/-! ## What a section leaves alone -/

@[simp]
theorem connections_apply
    (system : OrchestratorSystem) (received : ReceivedEvent)
    (effect : SectionEffect) :
    (system.apply received effect).connections = system.connections := by
  cases effect <;> rfl

@[simp]
theorem accepted_apply
    (system : OrchestratorSystem) (received : ReceivedEvent)
    (effect : SectionEffect) :
    (system.apply received effect).accepted = system.accepted := by
  cases effect <;> rfl

@[simp]
theorem eventQueue_apply
    (system : OrchestratorSystem) (received : ReceivedEvent)
    (effect : SectionEffect) :
    (system.apply received effect).eventQueue = system.eventQueue := by
  cases effect <;> rfl

@[simp]
theorem received_apply
    (system : OrchestratorSystem) (received : ReceivedEvent)
    (effect : SectionEffect) :
    (system.apply received effect).history.received =
      system.history.received := by
  cases effect <;> rfl

/-- A response is recorded by the section that enqueues it. -/
theorem mem_sendings_apply
    {system : OrchestratorSystem} {received : ReceivedEvent}
    {effect : SectionEffect} {sending : Sending}
    (member : sending ∈ (system.apply received effect).history.sendings) :
    sending ∈ system.history.sendings ∨
      effect =
          .enqueueResponse sending.recipient sending.fd sending.message ∧
        sending.state = system.worker.state ∧
        sending.intended = system.intended received sending.recipient ∧
        sending.openConnections =
          system.connections.entries.map Sigma.snd ∧
        sending.reached = system.connections.lookup sending.fd := by
  cases effect with
  | enqueueResponse recipient fd response =>
      rcases List.mem_append.mp member with earlier | last
      · exact Or.inl earlier
      · rw [List.mem_singleton.mp last]
        exact Or.inr ⟨rfl, rfl, rfl, rfl, rfl⟩
  | nothing | setRouter | setRequestTracker | trackRequest | addNode
  | addNodeFd | setExchangeTracker | setRunning =>
      exact Or.inl member

theorem step_advance
    {system next : OrchestratorSystem} {index : Nat} {input : SectionInput}
    (taken : system.step (.advance index input) = some next) :
    ∃ call effect task,
      system.calls[index]? = some call ∧
        call.task.advance system.worker call.received.event input =
          some (effect, task) ∧
        next =
          { system.apply call.received effect with
            calls := system.calls.set index { call with task := task } } := by
  simp only [step, Option.bind_eq_some_iff] at taken
  obtain ⟨call, found, continued⟩ := taken
  split at continued
  · cases continued
  · obtain ⟨⟨effect, task⟩, advanced, same⟩ :=
      Option.map_eq_some_iff.mp continued
    exact ⟨call, effect, task, found, advanced, same.symm⟩

theorem received_step
    {system next : OrchestratorSystem} {action : OrchestratorSystemAction}
    (taken : system.step action = some next) :
    system.history.received ⊆ next.history.received ∧
      next.worker.expectedPrefillNodes = system.worker.expectedPrefillNodes ∧
      next.worker.expectedDecodeNodes = system.worker.expectedDecodeNodes := by
  cases action with
  | accept fd | removeConnection fd =>
      simp only [step] at taken
      split at taken <;>
        cases taken
      exact ⟨List.Subset.refl _, rfl, rfl⟩
  | receive fd message =>
      obtain ⟨connection, _, same⟩ := Option.map_eq_some_iff.mp taken
      rw [← same]
      exact ⟨List.subset_append_left _ _, rfl, rfl⟩
  | waitAndPop =>
      simp only [step] at taken
      split at taken <;>
        cases taken
      exact ⟨List.Subset.refl _, rfl, rfl⟩
  | advance index input =>
      obtain ⟨call, effect, task, _, _, same⟩ := step_advance taken
      rw [same]
      cases effect <;>
        exact ⟨List.Subset.refl _, rfl, rfl⟩

/-- What is in the queue was there, or is the message received last. -/
theorem queued_step
    {system next : OrchestratorSystem} {action : OrchestratorSystemAction}
    (taken : system.step action = some next) {received : ReceivedEvent}
    (queued : received ∈ next.eventQueue) :
    received ∈ system.eventQueue ∨
      action = .receive received.event.clientFd received.event.message ∧
        received ∈ next.history.received := by
  cases action with
  | accept fd | removeConnection fd =>
      simp only [step] at taken
      split at taken <;>
        cases taken
      exact Or.inl queued
  | receive fd message =>
      obtain ⟨connection, _, same⟩ := Option.map_eq_some_iff.mp taken
      rw [← same] at queued ⊢
      simp only [receive] at queued
      split at queued
      · rcases List.mem_append.mp queued with earlier | last
        · exact Or.inl earlier
        · refine Or.inr ⟨?_, List.mem_append_right _ last⟩
          rw [List.mem_singleton.mp last]
      · exact Or.inl queued
  | waitAndPop =>
      simp only [step] at taken
      split at taken
      · cases taken
      · rename_i first rest queue
        cases taken
        rw [queue]
        exact Or.inl (List.mem_cons_of_mem first queued)
  | advance index input =>
      obtain ⟨call, effect, task, _, _, same⟩ := step_advance taken
      rw [same] at queued
      rw [eventQueue_apply] at queued
      exact Or.inl queued

/-- How a handler comes to where it is after a step. -/
inductive CallOrigin
    (system : OrchestratorSystem) (action : OrchestratorSystemAction) :
    HandlerCall → Prop
  | running {call : HandlerCall} (member : call ∈ system.calls) :
      CallOrigin system action call
  | popped {received : ReceivedEvent} (queued : received ∈ system.eventQueue) :
      CallOrigin system action
        ⟨received, .first received.event.message⟩
  | advanced
      {index : Nat} {input : SectionInput} {call : HandlerCall}
      {effect : SectionEffect} {task : HandlerTask}
      (isAdvance : action = .advance index input)
      (member : call ∈ system.calls)
      (advanced :
        call.task.advance system.worker call.received.event input =
          some (effect, task)) :
      CallOrigin system action { call with task := task }

theorem callOrigin_step
    {system next : OrchestratorSystem} {action : OrchestratorSystemAction}
    (taken : system.step action = some next) {call : HandlerCall}
    (called : call ∈ next.calls) :
    system.CallOrigin action call := by
  cases action with
  | accept fd | removeConnection fd =>
      simp only [step] at taken
      split at taken <;>
        cases taken
      exact .running called
  | receive fd message =>
      obtain ⟨connection, _, same⟩ := Option.map_eq_some_iff.mp taken
      rw [← same] at called
      exact .running called
  | waitAndPop =>
      simp only [step] at taken
      split at taken
      · cases taken
      · rename_i received rest queue
        cases taken
        rcases List.mem_append.mp called with earlier | last
        · exact .running earlier
        · rw [List.mem_singleton.mp last]
          apply CallOrigin.popped
          rw [queue]
          exact List.mem_cons_self
  | advance index input =>
      obtain ⟨advancing, effect, task, found, advanced, same⟩ :=
        step_advance taken
      rw [same] at called
      rcases List.mem_or_eq_of_mem_set called with earlier | last
      · exact .running earlier
      · rw [last]
        exact .advanced rfl (List.mem_of_getElem? found) advanced

end OrchestratorSystem

/-! ## What a section does -/

section Sections

variable (worker : WorkerOrchestrator) (event : Event) (input : SectionInput)

/-- The ways through the sections of the handlers: the program point, the effect
and the program point that is reached. -/
inductive HandlerSection : HandlerTask → SectionEffect → HandlerTask → Prop
  | selected (routing : RoutingResult) :
      HandlerSection (.clientRequest (.selecting (.returned (some routing))))
        .nothing (.clientRequest (.tracking routing))
  | notSelected :
      HandlerSection (.clientRequest (.selecting (.returned none))) .nothing
        (.clientRequest .refusing)
  | selecting
      {state reached : SelectState} {router : RequestRouter}
      (advanced :
        state.advance worker.requestRouter worker.nodeRegistry
            event.message.requestInfo.requestId input.select =
          some (router, reached)) :
      HandlerSection (.clientRequest (.selecting state)) (.setRouter router)
        (.clientRequest (.selecting reached))
  | refuses :
      HandlerSection (.clientRequest .refusing)
        (.enqueueResponse .sender event.clientFd
          (.createError (input.process.origin .clientError)
            (.ofText "All nodes at capacity. Please try again later.")))
        .finished
  | tracks (routing : RoutingResult) :
      HandlerSection (.clientRequest (.tracking routing))
        (.trackRequest
          (WorkerOrchestrator.assignedRequest event.message.requestInfo routing
            input.process))
        (.clientRequest
          (.lookingUpDecode
            (WorkerOrchestrator.assignedRequest event.message.requestInfo
              routing input.process)))
  | decodeMissing
      {requestInfo : RequestInfo}
      (missing :
        worker.nodeRegistry.getNodeFd requestInfo.decodeNodeId = none) :
      HandlerSection (.clientRequest (.lookingUpDecode requestInfo)) .nothing
        (.clientRequest (.discarding requestInfo.requestId))
  | decodeFound
      {requestInfo : RequestInfo} {fd : Int32}
      (found :
        worker.nodeRegistry.getNodeFd requestInfo.decodeNodeId = some fd) :
      HandlerSection (.clientRequest (.lookingUpDecode requestInfo)) .nothing
        (.clientRequest (.preparing fd requestInfo))
  | prepares (fd : Int32) (requestInfo : RequestInfo) :
      HandlerSection (.clientRequest (.preparing fd requestInfo))
        (.enqueueResponse (.node requestInfo.decodeNodeId) fd
          (.createPrepareDecodeSlot (input.process.origin .prepareDecodeSlot)
            worker.orchestratorId requestInfo))
        (.clientRequest (.lookingUpPrefill requestInfo))
  | prefillMissing
      {requestInfo : RequestInfo}
      (missing :
        worker.nodeRegistry.getNodeFd requestInfo.prefillNodeId = none) :
      HandlerSection (.clientRequest (.lookingUpPrefill requestInfo)) .nothing
        (.clientRequest (.discarding requestInfo.requestId))
  | prefillFound
      {requestInfo : RequestInfo} {fd : Int32}
      (found :
        worker.nodeRegistry.getNodeFd requestInfo.prefillNodeId = some fd) :
      HandlerSection (.clientRequest (.lookingUpPrefill requestInfo)) .nothing
        (.clientRequest (.assigning fd requestInfo))
  | assigns (fd : Int32) (requestInfo : RequestInfo) :
      HandlerSection (.clientRequest (.assigning fd requestInfo))
        (.enqueueResponse (.node requestInfo.prefillNodeId) fd
          (.createAssignRequest (input.process.origin .assignRequest)
            worker.orchestratorId requestInfo))
        (.clientRequest
          (.incrementing [requestInfo.prefillNodeId, requestInfo.decodeNodeId]))
  | incremented :
      HandlerSection (.clientRequest (.incrementing [])) .nothing .finished
  | increments (nodeId : ByteString) (nodeIds : List ByteString) :
      HandlerSection (.clientRequest (.incrementing (nodeId :: nodeIds)))
        (.setRouter (worker.requestRouter.incrementNodeLoad nodeId))
        (.clientRequest (.incrementing nodeIds))
  | discards (requestId : ByteString) :
      HandlerSection (.clientRequest (.discarding requestId))
        (.setRouter (worker.requestRouter.freeSlot requestId)) .finished
  | addsNode :
      HandlerSection (.registration .addingNode)
        (.addNode event.message.nodeInfo) (.registration .addingNodeFd)
  | addsNodeFd :
      HandlerSection (.registration .addingNodeFd)
        (.addNodeFd event.message.nodeInfo.nodeId)
        (.registration .registering)
  | registeringBlocked
      (locked :
        worker.rdmaExchangeTracker.registerNode
            event.message.nodeInfo.nodeId event.message.nodeInfo.role =
          none) :
      HandlerSection (.registration .registering) .nothing .blocked
  | registers
      {allRegistered : Bool} {rdmaExchangeTracker : RdmaExchangeTracker}
      (registered :
        worker.rdmaExchangeTracker.registerNode
            event.message.nodeInfo.nodeId event.message.nodeInfo.role =
          some (allRegistered, rdmaExchangeTracker)) :
      HandlerSection (.registration .registering)
        (.setExchangeTracker rdmaExchangeTracker) (.registration .counting)
  | complete
      (all :
        Int32.ofNat worker.nodeRegistry.getTotalRegisteredNodes =
          worker.expectedPrefillNodes + worker.expectedDecodeNodes) :
      HandlerSection (.registration .counting) .nothing
        (.registration .listing)
  | incomplete
      (notAll :
        Int32.ofNat worker.nodeRegistry.getTotalRegisteredNodes ≠
          worker.expectedPrefillNodes + worker.expectedDecodeNodes) :
      HandlerSection (.registration .counting) .nothing .finished
  | lists
      (traversed :
        input.process.allNodes.Perm worker.nodeRegistry.getAllNodes) :
      HandlerSection (.registration .listing) .nothing
        (.registration
          (.broadcasting input.process.allNodes
            (.createBroadcastMemberInfo
              (input.process.origin .broadcastMemberInfo) worker.nodeId
              input.process.allNodes)))
  | broadcasted (broadcastMsg : Message) :
      HandlerSection (.registration (.broadcasting [] broadcastMsg)) .nothing
        .finished
  | nodeMissing
      {node : NodeInfo} {nodes : List NodeInfo} {broadcastMsg : Message}
      (missing : worker.nodeRegistry.getNodeFd node.nodeId = none) :
      HandlerSection (.registration (.broadcasting (node :: nodes) broadcastMsg))
        .nothing (.registration (.broadcasting nodes broadcastMsg))
  | nodeFound
      {node : NodeInfo} {nodes : List NodeInfo} {broadcastMsg : Message}
      {fd : Int32}
      (found : worker.nodeRegistry.getNodeFd node.nodeId = some fd) :
      HandlerSection (.registration (.broadcasting (node :: nodes) broadcastMsg))
        .nothing (.registration (.sending node fd nodes broadcastMsg))
  | sends
      (node : NodeInfo) (fd : Int32) (nodes : List NodeInfo)
      (broadcastMsg : Message) :
      HandlerSection (.registration (.sending node fd nodes broadcastMsg))
        (.enqueueResponse (.node node.nodeId) fd broadcastMsg)
        (.registration (.broadcasting nodes broadcastMsg))
  | markingBlocked
      (locked :
        worker.rdmaExchangeTracker.markNodeReady event.message.sourceNodeId =
          none) :
      HandlerSection (.ready .markingReady) .nothing .blocked
  | marksLast
      {rdmaExchangeTracker : RdmaExchangeTracker}
      (marked :
        worker.rdmaExchangeTracker.markNodeReady event.message.sourceNodeId =
          some (true, rdmaExchangeTracker)) :
      HandlerSection (.ready .markingReady)
        (.setExchangeTracker rdmaExchangeTracker) (.ready .settingState)
  | marks
      {rdmaExchangeTracker : RdmaExchangeTracker}
      (marked :
        worker.rdmaExchangeTracker.markNodeReady event.message.sourceNodeId =
          some (false, rdmaExchangeTracker)) :
      HandlerSection (.ready .markingReady)
        (.setExchangeTracker rdmaExchangeTracker) .finished
  | setsState :
      HandlerSection (.ready .settingState) .setRunning .finished
  | setsDecoding :
      HandlerSection (.prefillComplete .updatingStatus)
        (.setRequestTracker
          (worker.updateStatus event.message.requestInfo.requestId .decoding
            input.process).requestTracker)
        (.prefillComplete .lookingUpDecode)
  | decodeGone
      (missing :
        worker.nodeRegistry.getNodeFd event.message.requestInfo.decodeNodeId =
          none) :
      HandlerSection (.prefillComplete .lookingUpDecode) .nothing
        (.failure (decodeNodeMissing event.message.requestInfo.decodeNodeId)
          .updatingStatus)
  | decodeKnown
      {fd : Int32}
      (found :
        worker.nodeRegistry.getNodeFd event.message.requestInfo.decodeNodeId =
          some fd) :
      HandlerSection (.prefillComplete .lookingUpDecode) .nothing
        (.prefillComplete (.informing fd))
  | informs (fd : Int32) :
      HandlerSection (.prefillComplete (.informing fd))
        (.enqueueResponse (.node event.message.requestInfo.decodeNodeId) fd
          (.prefillComplete (input.process.origin .prefillComplete)
            worker.orchestratorId event.message.requestInfo))
        .finished
  | setsFailed (errorMessage : ByteString) :
      HandlerSection (.failure errorMessage .updatingStatus)
        (.setRequestTracker
          (worker.updateStatus event.message.requestInfo.requestId .failed
            input.process).requestTracker)
        (.failure errorMessage .freeingSlot)
  | freesSlot (errorMessage : ByteString) :
      HandlerSection (.failure errorMessage .freeingSlot)
        (.setRouter
          (worker.requestRouter.freeSlot event.message.requestInfo.requestId))
        (.failure errorMessage
          (.decrementing
            [event.message.requestInfo.prefillNodeId,
              event.message.requestInfo.decodeNodeId]))
  | decremented (errorMessage : ByteString) :
      HandlerSection (.failure errorMessage (.decrementing [])) .nothing
        (.failure errorMessage .lookingUpClient)
  | decrements
      (errorMessage nodeId : ByteString) (nodeIds : List ByteString) :
      HandlerSection (.failure errorMessage (.decrementing (nodeId :: nodeIds)))
        (.setRouter (worker.requestRouter.decrementNodeLoad nodeId))
        (.failure errorMessage (.decrementing nodeIds))
  | clientMissing
      {errorMessage : ByteString}
      (missing :
        worker.requestTracker.getClientFd
            event.message.requestInfo.requestId =
          none) :
      HandlerSection (.failure errorMessage .lookingUpClient) .nothing
        .finished
  | clientFound
      {errorMessage : ByteString} {fd : Int32}
      (found :
        worker.requestTracker.getClientFd
            event.message.requestInfo.requestId =
          some fd) :
      HandlerSection (.failure errorMessage .lookingUpClient) .nothing
        (.failure errorMessage (.responding fd))
  | responds (errorMessage : ByteString) (fd : Int32) :
      HandlerSection (.failure errorMessage (.responding fd))
        (.enqueueResponse (.requester event.message.requestInfo.requestId) fd
          (.createRequestFailed (input.process.origin .requestFailed)
            worker.orchestratorId event.message.requestInfo errorMessage))
        .finished

variable {worker event input} {effect : SectionEffect}
variable {reached : HandlerTask}

theorem handlerSection_selecting
    {state : SelectState}
    (advanced :
      (ClientRequestTask.selecting state).advance worker event input =
        some (effect, reached)) :
    HandlerSection worker event input (.clientRequest (.selecting state))
      effect reached := by
  cases state with
  | returned routing =>
      cases routing with
      | none =>
          cases advanced
          constructor
      | some routing =>
          cases advanced
          constructor
  | entered | prefillListed | prefillSelected | decodeListed | slotsFiltered
  | decodeSelected | slotAllocated =>
      simp only [ClientRequestTask.advance, Option.map_eq_some_iff]
        at advanced
      obtain ⟨⟨router, next⟩, selected, same⟩ := advanced
      cases same
      exact .selecting selected

theorem handlerSection_clientRequest
    {task : ClientRequestTask}
    (advanced : task.advance worker event input = some (effect, reached)) :
    HandlerSection worker event input (.clientRequest task) effect reached := by
  cases task with
  | selecting state =>
      exact handlerSection_selecting advanced
  | lookingUpDecode requestInfo =>
      rw [ClientRequestTask.advance] at advanced
      split at advanced
      · rename_i missing
        cases advanced
        exact .decodeMissing missing
      · rename_i found
        cases advanced
        exact .decodeFound found
  | lookingUpPrefill requestInfo =>
      rw [ClientRequestTask.advance] at advanced
      split at advanced
      · rename_i missing
        cases advanced
        exact .prefillMissing missing
      · rename_i found
        cases advanced
        exact .prefillFound found
  | incrementing nodeIds =>
      cases nodeIds with
      | nil | cons =>
          cases advanced
          constructor
  | refusing | tracking | preparing | assigning | discarding =>
      cases advanced
      constructor

theorem handlerSection_registration
    {task : RegistrationTask}
    (advanced : task.advance worker event input = some (effect, reached)) :
    HandlerSection worker event input (.registration task) effect reached := by
  cases task with
  | registering =>
      rw [RegistrationTask.advance] at advanced
      split at advanced
      · rename_i locked
        cases advanced
        exact .registeringBlocked locked
      · rename_i registered
        cases advanced
        exact .registers registered
  | counting =>
      rw [RegistrationTask.advance] at advanced
      split at advanced
      · rename_i all
        cases advanced
        exact .complete all
      · rename_i notAll
        cases advanced
        exact .incomplete notAll
  | listing =>
      rw [RegistrationTask.advance] at advanced
      split at advanced
      · rename_i traversed
        cases advanced
        exact .lists traversed
      · cases advanced
  | broadcasting nodes broadcastMsg =>
      cases nodes with
      | nil =>
          cases advanced
          constructor
      | cons node nodes =>
          rw [RegistrationTask.advance] at advanced
          split at advanced
          · rename_i missing
            cases advanced
            exact .nodeMissing missing
          · rename_i found
            cases advanced
            exact .nodeFound found
  | addingNode | addingNodeFd | sending =>
      cases advanced
      constructor

theorem handlerSection_ready
    {task : ReadyTask}
    (advanced : task.advance worker event = some (effect, reached)) :
    HandlerSection worker event input (.ready task) effect reached := by
  cases task with
  | markingReady =>
      rw [ReadyTask.advance] at advanced
      split at advanced
      · rename_i locked
        cases advanced
        exact .markingBlocked locked
      · rename_i allReady _ marked
        cases allReady with
        | false =>
            cases advanced
            exact .marks marked
        | true =>
            cases advanced
            exact .marksLast marked
  | settingState =>
      cases advanced
      exact .setsState

theorem handlerSection_prefillComplete
    {task : PrefillCompleteTask}
    (advanced : task.advance worker event input = some (effect, reached)) :
    HandlerSection worker event input (.prefillComplete task) effect
      reached := by
  cases task with
  | updatingStatus =>
      cases advanced
      exact .setsDecoding
  | lookingUpDecode =>
      rw [PrefillCompleteTask.advance] at advanced
      split at advanced
      · rename_i missing
        cases advanced
        exact .decodeGone missing
      · rename_i found
        cases advanced
        exact .decodeKnown found
  | informing decodeFd =>
      cases advanced
      exact .informs _

theorem handlerSection_failure
    {errorMessage : ByteString} {task : FailureTask}
    (advanced :
      task.advance worker event input errorMessage = some (effect, reached)) :
    HandlerSection worker event input (.failure errorMessage task) effect
      reached := by
  cases task with
  | lookingUpClient =>
      rw [FailureTask.advance] at advanced
      split at advanced
      · rename_i missing
        cases advanced
        exact .clientMissing missing
      · rename_i found
        cases advanced
        exact .clientFound found
  | decrementing nodeIds =>
      cases nodeIds with
      | nil | cons =>
          cases advanced
          constructor
  | updatingStatus | freeingSlot | responding =>
      cases advanced
      constructor

/-- A section that is taken is one of these. -/
theorem handlerSection_of_advance
    {task : HandlerTask}
    (advanced : task.advance worker event input = some (effect, reached)) :
    HandlerSection worker event input task effect reached := by
  cases task with
  | clientRequest task =>
      exact handlerSection_clientRequest advanced
  | registration task =>
      exact handlerSection_registration advanced
  | ready task =>
      exact handlerSection_ready advanced
  | prefillComplete task =>
      exact handlerSection_prefillComplete advanced
  | failure errorMessage task =>
      exact handlerSection_failure advanced
  | blocked | finished =>
      cases advanced

end Sections

/-! ## Where a handler comes from -/

/-- The type of the messages that lead to a program point, unless there are
several. -/
def HandlerTask.messageType : HandlerTask → Option MessageType
  | .clientRequest _ => some .clientRequest
  | .registration _ => some .rdmaProcessRegistration
  | .ready _ => some .rdmaReady
  | .prefillComplete _ => some .prefillCompleteOrchestrator
  | .failure _ _ | .blocked | .finished => none

theorem HandlerTask.registration_of_messageType
    {task : HandlerTask}
    (registers : task.messageType = some .rdmaProcessRegistration) :
    ∃ registration, task = .registration registration := by
  cases task with
  | registration registration =>
      exact ⟨registration, rfl⟩
  | clientRequest | ready | prefillComplete | failure | blocked | finished =>
      cases registers

theorem HandlerTask.messageType_first
    {message : Message} {type : MessageType}
    (dispatched : (first message).messageType = some type) :
    message.type = type := by
  rw [first] at dispatched
  split at dispatched
  · rename_i isType
    exact isType.trans (Option.some.inj dispatched)
  · rename_i isType
    exact isType.trans (Option.some.inj dispatched)
  · rename_i isType
    exact isType.trans (Option.some.inj dispatched)
  · cases dispatched
  · rename_i isType
    exact isType.trans (Option.some.inj dispatched)
  · cases dispatched

/-- A handler stays where its message led it. -/
theorem HandlerTask.messageType_advance
    {worker : WorkerOrchestrator} {event : Event} {input : SectionInput}
    {task reached : HandlerTask} {effect : SectionEffect}
    (advanced : task.advance worker event input = some (effect, reached)) :
    reached.messageType = task.messageType ∨ reached.messageType = none := by
  cases handlerSection_of_advance advanced <;>
    first
      | exact Or.inl rfl
      | exact Or.inr rfl

/-! ## Where an effect comes from -/

/-- The response the next section enqueues: its recipient, the descriptor and
its type. -/
def HandlerTask.response (event : Event) :
    HandlerTask → Option (Recipient × Int32 × MessageType)
  | .clientRequest .refusing => some (.sender, event.clientFd, .clientError)
  | .clientRequest (.preparing decodeNodeFd requestInfo) =>
      some
        (.node requestInfo.decodeNodeId, decodeNodeFd, .prepareDecodeSlot)
  | .clientRequest (.assigning prefillFd requestInfo) =>
      some (.node requestInfo.prefillNodeId, prefillFd, .assignRequest)
  | .registration (.sending node nodeFd _ broadcastMsg) =>
      some (.node node.nodeId, nodeFd, broadcastMsg.type)
  | .prefillComplete (.informing decodeNodeFd) =>
      some
        (.node event.message.requestInfo.decodeNodeId, decodeNodeFd,
          .prefillComplete)
  | .failure _ (.responding clientFd) =>
      some
        (.requester event.message.requestInfo.requestId, clientFd,
          .requestFailed)
  | _ => none

/-- The program points between which a section has the effect. -/
def SectionEffect.ComesFrom
    (worker : WorkerOrchestrator) (event : Event)
    (task reached : HandlerTask) : SectionEffect → Prop
  | .nothing | .setRouter _ => True
  | .setRequestTracker requestTracker =>
      ∃ requestId status now,
        requestTracker =
          worker.requestTracker.updateStatus requestId status now
  | .trackRequest requestInfo =>
      (∃ routing, task = .clientRequest (.tracking routing)) ∧
        requestInfo.requestId = event.message.requestInfo.requestId ∧
        reached = .clientRequest (.lookingUpDecode requestInfo)
  | .addNode node =>
      task = .registration .addingNode ∧ node = event.message.nodeInfo ∧
        reached = .registration .addingNodeFd
  | .addNodeFd nodeId =>
      task = .registration .addingNodeFd ∧
        nodeId = event.message.nodeInfo.nodeId ∧
        reached = .registration .registering
  | .setExchangeTracker rdmaExchangeTracker =>
      (task = .registration .registering ∧
        reached = .registration .counting ∧
        ∃ allRegistered,
          worker.rdmaExchangeTracker.registerNode
              event.message.nodeInfo.nodeId event.message.nodeInfo.role =
            some (allRegistered, rdmaExchangeTracker)) ∨
        task = .ready .markingReady ∧
          ∃ allReady,
            worker.rdmaExchangeTracker.markNodeReady
                event.message.sourceNodeId =
              some (allReady, rdmaExchangeTracker) ∧
              reached = if allReady then .ready .settingState else .finished
  | .setRunning => task = .ready .settingState ∧ reached = .finished
  | .enqueueResponse recipient fd response =>
      task.response event = some (recipient, fd, response.type)

theorem HandlerTask.comesFrom_advance
    {worker : WorkerOrchestrator} {event : Event} {input : SectionInput}
    {task reached : HandlerTask} {effect : SectionEffect}
    (advanced : task.advance worker event input = some (effect, reached)) :
    effect.ComesFrom worker event task reached := by
  cases handlerSection_of_advance advanced with
  | tracks routing =>
      exact ⟨⟨routing, rfl⟩, rfl, rfl⟩
  | addsNode | addsNodeFd =>
      exact ⟨rfl, rfl, rfl⟩
  | registers registered =>
      exact Or.inl ⟨rfl, rfl, _, registered⟩
  | marksLast marked | marks marked =>
      exact Or.inr ⟨rfl, _, marked, rfl⟩
  | setsState =>
      exact ⟨rfl, rfl⟩
  | setsDecoding | setsFailed =>
      exact ⟨_, _, _, rfl⟩
  | refuses | prepares | assigns | sends | informs | responds =>
      exact rfl
  | _ =>
      trivial

/-- The message a handler is about to send to the nodes. -/
def HandlerTask.broadcastMsg : HandlerTask → Option Message
  | .registration (.broadcasting _ broadcastMsg) => some broadcastMsg
  | .registration (.sending _ _ _ broadcastMsg) => some broadcastMsg
  | _ => none

theorem HandlerTask.broadcastMsg_first (message : Message) :
    (first message).broadcastMsg = none := by
  rw [first]
  split <;> rfl

theorem HandlerTask.broadcastMsg_advance
    {worker : WorkerOrchestrator} {event : Event} {input : SectionInput}
    {task reached : HandlerTask} {effect : SectionEffect}
    {broadcastMsg : Message}
    (advanced : task.advance worker event input = some (effect, reached))
    (listed : reached.broadcastMsg = some broadcastMsg) :
    task.broadcastMsg = some broadcastMsg ∨
      broadcastMsg.type = .broadcastMemberInfo := by
  cases handlerSection_of_advance advanced with
  | lists =>
      cases listed
      exact Or.inr rfl
  | nodeMissing | nodeFound | sends =>
      exact Or.inl listed
  | _ =>
      cases listed

namespace OrchestratorSystem

/-- Every event was received, and a handler handles what its message asked
for. -/
structure Traceable (system : OrchestratorSystem) : Prop where
  queued :
    ∀ received ∈ system.eventQueue, received ∈ system.history.received
  handled :
    ∀ call ∈ system.calls, call.received ∈ system.history.received
  dispatched :
    ∀ call ∈ system.calls, ∀ type, call.task.messageType = some type →
      call.received.event.message.type = type
  listed :
    ∀ call ∈ system.calls, ∀ broadcastMsg,
      call.task.broadcastMsg = some broadcastMsg →
        broadcastMsg.type = .broadcastMemberInfo

theorem traceable_start
    (orchestratorId nodeId : ByteString)
    (expectedPrefillNodes expectedDecodeNodes : Int32)
    (eventQueueSize : UInt64) :
    (start orchestratorId nodeId expectedPrefillNodes expectedDecodeNodes
      eventQueueSize).Traceable where
  queued := by
    intro received queued
    cases queued
  handled := by
    intro call called
    cases called
  dispatched := by
    intro call called
    cases called
  listed := by
    intro call called
    cases called

theorem Traceable.step
    {system next : OrchestratorSystem} {action : OrchestratorSystemAction}
    (traceable : system.Traceable) (taken : system.step action = some next) :
    next.Traceable := by
  obtain ⟨received, _⟩ := received_step taken
  refine ⟨?_, ?_, ?_, ?_⟩
  · intro queued member
    rcases queued_step taken member with earlier | ⟨_, last⟩
    · exact received (traceable.queued queued earlier)
    · exact last
  · intro call called
    apply received
    cases callOrigin_step taken called with
    | running member | advanced _ member =>
        have handled := traceable.handled _ member
        exact handled
    | popped queued =>
        exact traceable.queued _ queued
  · intro call called type dispatched
    cases callOrigin_step taken called with
    | running member =>
        exact traceable.dispatched call member type dispatched
    | popped =>
        exact HandlerTask.messageType_first dispatched
    | advanced _ member advanced =>
        apply traceable.dispatched _ member type
        rcases HandlerTask.messageType_advance advanced with kept | none
        · rw [← kept]
          exact dispatched
        · rw [none] at dispatched
          cases dispatched
  · intro call called broadcastMsg listed
    cases callOrigin_step taken called with
    | running member =>
        exact traceable.listed call member broadcastMsg listed
    | popped =>
        rw [HandlerTask.broadcastMsg_first] at listed
        cases listed
    | advanced _ member advanced =>
        rcases HandlerTask.broadcastMsg_advance advanced listed with
          kept | isBroadcast
        · exact traceable.listed _ member broadcastMsg kept
        · exact isBroadcast

end OrchestratorSystem

/-! ## Schedules -/

namespace OrchestratorSystem

/-- Nothing but zeros and the given orders of traversal. -/
def sampleInput (listing allNodes : List NodeInfo) : SectionInput where
  select := { listing := listing }
  process :=
    { allNodes := allNodes
      requestMemory := Message.cleared.requestInfo
      origin := fun _ => ⟨.cleared, 0⟩ }

/-- A worker takes the message that has just been received. -/
def sampleReceived (fd : Int32) (message : Message) :
    List OrchestratorSystemAction :=
  [.receive fd message, .waitAndPop]

/-- The handler `index` runs for a number of sections. -/
def sampleSections
    (index count : Nat) (listing allNodes : List NodeInfo) :
    List OrchestratorSystemAction :=
  List.replicate count (.advance index (sampleInput listing allNodes))

def sampleRegistration (node : NodeInfo) : Message :=
  { Message.sent ⟨.cleared, 0⟩ .rdmaProcessRegistration node.nodeId with
    nodeInfo := node }

def sampleReady (nodeId : ByteString) : Message :=
  .sent ⟨.cleared, 0⟩ .rdmaReady nodeId

def sampleRequest (type : MessageType) (requestId : ByteString) : Message :=
  .about ⟨.cleared, 0⟩ type []
    { Message.cleared.requestInfo with
      requestId := requestId
      prefillNodeId := [1]
      decodeNodeId := [2] }

/-- The handler `index` selects the nodes `1` and `2` and runs for `sections`
more sections. -/
def sampleSelected (index sections : Nat) : List OrchestratorSystemAction :=
  sampleSections index 2 [.healthy [1] .prefill] [] ++
    sampleSections index (2 + sections) [.healthy [2] .decode] []

/-- The orchestrator of one prefill and one decode node, which have
connected. -/
def sampleStart : OrchestratorSystem :=
  start [0] [0] 1 1 16

def sampleNodes : List NodeInfo :=
  [.healthy [1] .prefill, .healthy [2] .decode]

/-- Both nodes register one after the other. -/
def sampleRegistered : List OrchestratorSystemAction :=
  [.accept 5, .accept 6, .accept 7] ++
    sampleReceived 5 (sampleRegistration (.healthy [1] .prefill)) ++
    sampleSections 0 4 [] sampleNodes ++
    sampleReceived 6 (sampleRegistration (.healthy [2] .decode)) ++
    sampleSections 1 10 [] sampleNodes

end OrchestratorSystem

end RdmaKvCache
