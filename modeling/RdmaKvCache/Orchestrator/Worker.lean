import RdmaKvCache.Common.Messages
import RdmaKvCache.Orchestrator.RdmaExchangeTracker
import RdmaKvCache.Orchestrator.RequestRouter
import RdmaKvCache.Orchestrator.RequestTracker

/-!
# The worker of the orchestrator

`WorkerOrchestrator::process_event` dispatches a message on its type to one of
five handlers; the messages of every other type are logged and dropped.  A
handler changes the registry, the router and the two trackers and passes
messages to the I/O thread, in the order in which it calls `enqueue_response`.

An event that is never done with, because a handler waits for a mutex it holds
itself, has no result.
-/

namespace RdmaKvCache

inductive OrchestratorState where
  | starting
  | waitingForNodes
  | qpExchanging
  | waitingForReady
  | running
  | stopped
  deriving DecidableEq

structure WorkerOrchestrator where
  orchestratorId : ByteString
  nodeId : ByteString
  expectedPrefillNodes : Int32
  expectedDecodeNodes : Int32
  nodeRegistry : NodeRegistry := {}
  rdmaExchangeTracker : RdmaExchangeTracker
  requestTracker : RequestTrackerOrchestrator := {}
  requestRouter : RequestRouter := {}
  state : OrchestratorState := .waitingForNodes
  responses : List (Int32 × Message) := []

/-- What a handler takes from outside: the orders in which the registry's map is
traversed, what the random generator yields, the contents of new records and
the readings of the clocks. -/
structure ProcessInput where
  prefillNodes : List NodeInfo := []
  decodeNodes : List NodeInfo := []
  allNodes : List NodeInfo := []
  prefillDraw : Nat := 0
  decodeDraw : Nat := 0
  requestMemory : RequestInfo
  origin : MessageType → Message.Origin
  timestampCreated : UInt64 := 0
  statusClock : RequestStatus → UInt64 := fun _ => 0

namespace WorkerOrchestrator

/-- The worker once the constructor and `start` of `OrchestratorEngine` have
run. -/
def start
    (orchestratorId nodeId : ByteString)
    (expectedPrefillNodes expectedDecodeNodes : Int32) :
    WorkerOrchestrator where
  orchestratorId := orchestratorId
  nodeId := nodeId
  expectedPrefillNodes := expectedPrefillNodes
  expectedDecodeNodes := expectedDecodeNodes
  rdmaExchangeTracker :=
    { expectedPrefillNodes := expectedPrefillNodes
      expectedDecodeNodes := expectedDecodeNodes }

/-! ## Responses -/

def enqueueResponse
    (worker : WorkerOrchestrator) (fd : Int32) (response : Message) :
    WorkerOrchestrator :=
  { worker with responses := worker.responses ++ [(fd, response)] }

def sendClientResponse
    (worker : WorkerOrchestrator) (clientFd : Int32) (response : Message) :
    WorkerOrchestrator :=
  worker.enqueueResponse clientFd response

def sendServerResponse
    (worker : WorkerOrchestrator) (serverFd : Int32) (response : Message) :
    WorkerOrchestrator :=
  worker.enqueueResponse serverFd response

/-! ## Shared components -/

def freeSlot
    (worker : WorkerOrchestrator) (requestId : ByteString) :
    WorkerOrchestrator :=
  { worker with requestRouter := worker.requestRouter.freeSlot requestId }

def incrementNodeLoads
    (worker : WorkerOrchestrator) (prefillNodeId decodeNodeId : ByteString) :
    WorkerOrchestrator :=
  { worker with
    requestRouter :=
      (worker.requestRouter.incrementNodeLoad prefillNodeId).incrementNodeLoad
        decodeNodeId }

def decrementNodeLoads
    (worker : WorkerOrchestrator) (prefillNodeId decodeNodeId : ByteString) :
    WorkerOrchestrator :=
  { worker with
    requestRouter :=
      (worker.requestRouter.decrementNodeLoad prefillNodeId).decrementNodeLoad
        decodeNodeId }

def updateStatus
    (worker : WorkerOrchestrator) (requestId : ByteString)
    (status : RequestStatus) (input : ProcessInput) : WorkerOrchestrator :=
  { worker with
    requestTracker :=
      worker.requestTracker.updateStatus requestId status
        (input.statusClock status) }

/-- The end of a request, common to three handlers: set its status, free its
slot and decrement the loads of both nodes. -/
def closeRequest
    (worker : WorkerOrchestrator) (status : RequestStatus)
    (requestInfo : RequestInfo) (input : ProcessInput) : WorkerOrchestrator :=
  ((worker.updateStatus requestInfo.requestId status input).freeSlot
    requestInfo.requestId).decrementNodeLoads
      requestInfo.prefillNodeId requestInfo.decodeNodeId

/-- Close the request and send the response to its client. -/
def finishRequest
    (worker : WorkerOrchestrator) (status : RequestStatus)
    (requestInfo : RequestInfo) (response : Message) (input : ProcessInput) :
    WorkerOrchestrator :=
  let closed := worker.closeRequest status requestInfo input
  match closed.requestTracker.getClientFd requestInfo.requestId with
  | none => closed
  | some clientFd => closed.sendClientResponse clientFd response

/-! ## Handlers -/

/-- The request as it is tracked and sent to both nodes. -/
def assignedRequest
    (requested : RequestInfo) (routing : RoutingResult)
    (input : ProcessInput) : RequestInfo :=
  { RequestInfo.new input.requestMemory with
    requestId := requested.requestId
    prompt := requested.prompt
    maxTokens := requested.maxTokens
    prefillNodeId := routing.prefillNode.nodeId
    decodeNodeId := routing.decodeNode.nodeId
    slotId := routing.slotId
    slotBaseOffset := routing.slotBaseOffset
    timestampCreated := input.timestampCreated }

/-- What `handle_client_request` does once the request has a slot. -/
def assignRequest
    (worker : WorkerOrchestrator) (clientFd : Int32)
    (requestInfo : RequestInfo) (input : ProcessInput) : WorkerOrchestrator :=
  let tracked :=
    { worker with
      requestTracker :=
        worker.requestTracker.trackRequest requestInfo clientFd }
  match tracked.nodeRegistry.getNodeFd requestInfo.decodeNodeId with
  | none => tracked.freeSlot requestInfo.requestId
  | some decodeNodeFd =>
      let prepared :=
        tracked.sendServerResponse decodeNodeFd
          (.createPrepareDecodeSlot (input.origin .prepareDecodeSlot)
            worker.orchestratorId requestInfo)
      match prepared.nodeRegistry.getNodeFd requestInfo.prefillNodeId with
      | none => prepared.freeSlot requestInfo.requestId
      | some prefillFd =>
          (prepared.sendServerResponse prefillFd
            (.createAssignRequest (input.origin .assignRequest)
              worker.orchestratorId requestInfo)).incrementNodeLoads
              requestInfo.prefillNodeId requestInfo.decodeNodeId

def handleClientRequest
    (worker : WorkerOrchestrator) (clientFd : Int32) (msg : Message)
    (input : ProcessInput) : Option WorkerOrchestrator :=
  if input.prefillNodes.Perm (worker.nodeRegistry.getHealthyNodes .prefill) ∧
      input.decodeNodes.Perm (worker.nodeRegistry.getHealthyNodes .decode) then
    match
      worker.requestRouter.selectNodesAndAllocateSlot
        input.prefillNodes input.decodeNodes input.prefillDraw input.decodeDraw
        msg.requestInfo.requestId
    with
    | (none, router) =>
        some
          ({ worker with requestRouter := router }.sendClientResponse clientFd
            (.createError (input.origin .clientError)
              (.ofText "All nodes at capacity. Please try again later.")))
    | (some routing, router) =>
        some
          ({ worker with requestRouter := router }.assignRequest clientFd
            (assignedRequest msg.requestInfo routing input) input)
  else
    none

/-- Nodes without a connection are skipped. -/
def broadcast
    (worker : WorkerOrchestrator) (nodes : List NodeInfo)
    (message : Message) : WorkerOrchestrator :=
  nodes.foldl
    (fun sending node =>
      match worker.nodeRegistry.getNodeFd node.nodeId with
      | none => sending
      | some nodeFd => sending.sendServerResponse nodeFd message)
    worker

def handleProcessRdmaRegistration
    (worker : WorkerOrchestrator) (serverFd : Int32) (msg : Message)
    (input : ProcessInput) : Option WorkerOrchestrator :=
  let received := msg.nodeInfo
  let nodeRegistry :=
    (worker.nodeRegistry.addNode received).addNodeFd received.nodeId serverFd
  (worker.rdmaExchangeTracker.registerNode received.nodeId received.role).bind
    fun (_, rdmaExchangeTracker) =>
      let registered :=
        { worker with
          nodeRegistry := nodeRegistry
          rdmaExchangeTracker := rdmaExchangeTracker }
      if Int32.ofNat nodeRegistry.getTotalRegisteredNodes =
          worker.expectedPrefillNodes + worker.expectedDecodeNodes then
        if input.allNodes.Perm nodeRegistry.getAllNodes then
          some
            (registered.broadcast input.allNodes
              (.createBroadcastMemberInfo (input.origin .broadcastMemberInfo)
                worker.nodeId input.allNodes))
        else
          none
      else
        some registered

def handleReady
    (worker : WorkerOrchestrator) (msg : Message) :
    Option WorkerOrchestrator :=
  (worker.rdmaExchangeTracker.markNodeReady msg.sourceNodeId).map
    fun (allReady, rdmaExchangeTracker) =>
      { worker with
        rdmaExchangeTracker := rdmaExchangeTracker
        state := if allReady then .running else worker.state }

def decodeNodeNotFound
    (worker : WorkerOrchestrator) (msg : Message) (input : ProcessInput) :
    Message :=
  .createRequestFailed (input.origin .requestFailed) worker.orchestratorId
    msg.requestInfo
    (.ofText "Decode node " ++ msg.requestInfo.decodeNodeId ++
      .ofText " not found")

def handlePrefillCompleteOrchestrator
    (worker : WorkerOrchestrator) (msg : Message) (input : ProcessInput) :
    WorkerOrchestrator :=
  let updated :=
    worker.updateStatus msg.requestInfo.requestId .decoding input
  match updated.nodeRegistry.getNodeFd msg.requestInfo.decodeNodeId with
  | some decodeNodeFd =>
      updated.sendServerResponse decodeNodeFd
        (.prefillComplete (input.origin .prefillComplete)
          worker.orchestratorId msg.requestInfo)
  | none =>
      updated.finishRequest .failed msg.requestInfo
        (worker.decodeNodeNotFound msg input) input

/-- No message type leads to this handler. -/
def handleDecodeComplete
    (worker : WorkerOrchestrator) (msg : Message) (input : ProcessInput) :
    WorkerOrchestrator :=
  worker.finishRequest .completed msg.requestInfo
    (.createClientResponse (input.origin .clientResponse)
      worker.orchestratorId msg.requestInfo msg.responseText)
    input

def handleRequestFailed
    (worker : WorkerOrchestrator) (msg : Message) (input : ProcessInput) :
    WorkerOrchestrator :=
  worker.finishRequest .failed msg.requestInfo
    (.createRequestFailed (input.origin .requestFailed)
      worker.orchestratorId msg.requestInfo msg.errorMessage)
    input

def processEvent
    (worker : WorkerOrchestrator) (event : Event) (input : ProcessInput) :
    Option WorkerOrchestrator :=
  match event.message.type with
  | .clientRequest =>
      worker.handleClientRequest event.clientFd event.message input
  | .rdmaProcessRegistration =>
      worker.handleProcessRdmaRegistration event.clientFd event.message input
  | .rdmaReady => worker.handleReady event.message
  | .requestFailed => some (worker.handleRequestFailed event.message input)
  | .prefillCompleteOrchestrator =>
      some (worker.handlePrefillCompleteOrchestrator event.message input)
  | _ => some worker

end WorkerOrchestrator

end RdmaKvCache
