import RdmaKvCache.Common.Messages
import RdmaKvCache.Connector.KvWrites
import RdmaKvCache.Node.RequestTrackerLayer
import RdmaKvCache.Rdma.RdmaEngine

/-!
# A decode node

Three kinds of threads share the request tracker and the event queue of a decode
node:

* the I/O thread puts received messages into the queue, which drops them when
  it is full;
* the workers take events from the queue and run their handlers;
* the thread of `rdma_poll_loop` polls the completion queue, credits layers to
  requests and announces complete transfers through the event queue.

Each definition below is one section between two points at which another thread
may come in.  An exception in a worker is not caught and ends the process.  The
history records what happened to requests and completions, the newest first.
-/

namespace RdmaKvCache

open RequestTrackerLayer

/-- A completion and the write it is due to, if any; the node does not see the
write. -/
structure Arrival where
  completion : RecvCompletion
  write : Option KvWrite
  deriving DecidableEq

/-- An event in the queue of a node, and the number of the assignment of the
orchestrator that it is about; the node does not see the number. -/
structure NodeEvent extends Event where
  assignment : Nat := 0
  deriving DecidableEq

inductive NodeRecord where
  | added
      (requestId prefillNodeId : ByteString) (slotId : Int32)
      (assignment : Nat)
  | removed (requestId : ByteString)
  | lost (arrivals : List Arrival)
  | discarded (arrival : Arrival)
  | marked
      (requestId : ByteString) (layerId : UInt16) (arrival : Arrival)
      (accepted : Bool)
  | pushed (requestId : ByteString)
  deriving DecidableEq

/-- Where `rdma_poll_loop` is, with the completions of the batch that are still
to come. -/
inductive PollLoop where
  | polling
  | processing (rest : List Arrival)
  | resolved
      (requestId : ByteString) (layerId : UInt16) (arrival : Arrival)
      (rest : List Arrival)
  | allDone (requestId : ByteString) (rest : List Arrival)
  | fenced (requestId : ByteString) (rest : List Arrival)
  | announcing
      (requestId : ByteString) (maxTokens : Int32) (rest : List Arrival)
  | stopped
  deriving DecidableEq

def PollLoop.rest : PollLoop → List Arrival
  | .polling => []
  | .processing rest => rest
  | .resolved _ _ _ rest => rest
  | .allDone _ rest => rest
  | .fenced _ rest => rest
  | .announcing _ _ rest => rest
  | .stopped => []

/-- The request and the layer the loop marks next, and why. -/
def PollLoop.marking : PollLoop → Option (ByteString × UInt16 × Arrival)
  | .resolved requestId layerId arrival _ => some (requestId, layerId, arrival)
  | _ => none

/-- The completion the loop looks at next. -/
def PollLoop.looking : PollLoop → Option Arrival
  | .processing (arrival :: _) => some arrival
  | _ => none

/-- The request whose transfer the loop is about to announce. -/
def PollLoop.finishing : PollLoop → Option ByteString
  | .allDone requestId _ => some requestId
  | .fenced requestId _ => some requestId
  | .announcing requestId _ _ => some requestId
  | _ => none

/-- Where a worker is in `handle_prepare_decode_slot` or
`handle_kv_transfer_complete`. -/
inductive WorkerTask where
  | prepareSlot (info : RequestInfo) (assignment : Nat)
  | slotPrepared (requestId : ByteString)
  | transferComplete (info : RequestInfo)
  | requestFound (info : RequestInfo)
  | requesting (info : RequestInfo)
  | decodeFailed (requestId : ByteString)
  | decoded (info : RequestInfo) (generatedText : ByteString)
  | completed (info : RequestInfo) (generatedText : ByteString)
  | answered (requestId : ByteString)
  | finished
  deriving DecidableEq

/-- The request whose slot the worker is about to prepare. -/
def WorkerTask.preparing : WorkerTask → Option RequestInfo
  | .prepareSlot info _ => some info
  | _ => none

/-- The same with the number of the assignment. -/
def WorkerTask.assigned : WorkerTask → Option (RequestInfo × Nat)
  | .prepareSlot info assignment => some (info, assignment)
  | _ => none

/-- The request the worker is about to finish. -/
def WorkerTask.finishing : WorkerTask → Option ByteString
  | .transferComplete info => some info.requestId
  | .requestFound info => some info.requestId
  | .requesting info => some info.requestId
  | .decoded info _ => some info.requestId
  | .completed info _ => some info.requestId
  | .answered requestId => some requestId
  | _ => none

/-- How the request to the inference server ends; `exception` is one that the
JSON library throws. -/
inductive VllmOutcome where
  | failed
  | exception
  | generated (text : ByteString)
  deriving DecidableEq

structure WorkerInput where
  vllm : VllmOutcome := .failed
  origin : Message.Origin := ⟨.cleared, 0⟩

structure LoopInput where
  fenceSucceeds : Bool := true
  memory : Message := .cleared

structure DecodeNode where
  orchestratorId : ByteString
  numLayers : UInt32
  capacity : UInt64
  engine : RDMAEngine
  tracker : RequestTrackerLayer
  eventQueue : List NodeEvent := []
  tasks : List WorkerTask := []
  pollLoop : PollLoop := .polling
  sent : List Message := []
  terminated : Bool := false
  history : List NodeRecord := []

namespace DecodeNode

/-- A node that has just been started. -/
def start
    (orchestratorId : ByteString) (numLayers : UInt32) (capacity : UInt64)
    (engine : RDMAEngine) (layout : MemoryLayout) : DecodeNode where
  orchestratorId := orchestratorId
  numLayers := numLayers
  capacity := capacity
  engine := engine
  tracker := { layout := layout }

/-! ## Event queue -/

def push (node : DecodeNode) (event : NodeEvent) : DecodeNode :=
  if node.capacity.toNat ≤ node.eventQueue.length then node
  else { node with eventQueue := node.eventQueue ++ [event] }

/-- The handlers of the other messages do not touch the tracker. -/
def taskOf (event : NodeEvent) : WorkerTask :=
  match event.message.type with
  | .prepareDecodeSlot =>
      .prepareSlot event.message.requestInfo event.assignment
  | .kvTransferComplete => .transferComplete event.message.requestInfo
  | _ => .finished

def waitAndPop (node : DecodeNode) : Option DecodeNode :=
  match node.eventQueue with
  | [] => none
  | event :: rest =>
      some
        { node with
          eventQueue := rest
          tasks := node.tasks ++ [taskOf event] }

/-! ## Workers -/

def updateState
    (node : DecodeNode) (requestId : ByteString)
    (state : RequestTrackerLayer.State) : DecodeNode :=
  { node with tracker := (node.tracker.updateState requestId state).2 }

def addRequest
    (node : DecodeNode) (info : RequestInfo) (assignment : Nat) :
    DecodeNode × WorkerTask :=
  match
    node.tracker.addRequest info.requestId info.prefillNodeId info.slotId
      node.numLayers.toInt32
  with
  | .error _ => ({ node with terminated := true }, .finished)
  | .ok (_, tracker) =>
      ({ node with
          tracker := tracker
          history :=
            .added info.requestId info.prefillNodeId info.slotId assignment ::
              node.history },
        .slotPrepared info.requestId)

def removeRequest (node : DecodeNode) (requestId : ByteString) :
    DecodeNode :=
  { node with
    tracker := node.tracker.removeRequest requestId
    history := .removed requestId :: node.history }

/-- The next section of a handler. -/
def advanceTask (node : DecodeNode) (input : WorkerInput) :
    WorkerTask → Option (DecodeNode × WorkerTask)
  | .prepareSlot info assignment => some (node.addRequest info assignment)
  | .slotPrepared requestId =>
      some (node.updateState requestId .waitingForKv, .finished)
  | .transferComplete info =>
      match node.tracker.getRequest info.requestId with
      | none => some (node, .finished)
      | some _ => some (node, .requestFound info)
  | .requestFound info =>
      some (node.updateState info.requestId .decoding, .requesting info)
  | .requesting info =>
      match input.vllm with
      | .failed => some (node, .decodeFailed info.requestId)
      | .exception => some ({ node with terminated := true }, .finished)
      | .generated text => some (node, .decoded info text)
  | .decodeFailed requestId =>
      some (node.updateState requestId .failed, .finished)
  | .decoded info generatedText =>
      some
        (node.updateState info.requestId .completed,
          .completed info generatedText)
  | .completed info generatedText =>
      some
        ({ node with
            sent :=
              node.sent ++
                [.decodeComplete input.origin node.orchestratorId info
                  generatedText] },
          .answered info.requestId)
  | .answered requestId => some (node.removeRequest requestId, .finished)
  | .finished => none

def work (node : DecodeNode) (index : Nat) (input : WorkerInput) :
    Option DecodeNode :=
  node.tasks[index]?.bind fun task =>
    (node.advanceTask input task).map fun (next, reached) =>
      { next with tasks := next.tasks.set index reached }

/-! ## Poll loop -/

/-- `polled` is what `ibv_poll_cq` takes from the completion queue. -/
def poll
    (node : DecodeNode) (polled : Option (List Arrival)) (replenished : Bool) :
    Option DecodeNode :=
  match node.pollLoop with
  | .polling =>
      if node.engine.rdmaFatalError then
        some { node with pollLoop := .stopped }
      else
        match
          node.engine.pollRecvCq (polled.map fun arrivals =>
            arrivals.map Arrival.completion) replenished
        with
        | (none, engine) =>
            some
              { node with
                engine := engine
                history := .lost (polled.getD []) :: node.history }
        | (some _, engine) =>
            some
              { node with
                engine := engine
                pollLoop := .processing (polled.getD []) }
  | _ => none

/-- Decode the immediate data and look the sequence number up. -/
def resolve (node : DecodeNode) (arrival : Arrival) (rest : List Arrival) :
    DecodeNode :=
  let (seqNum, layerId) :=
    decodeLayerId (arrival.completion.immData node.engine.hostOrder)
  let requestId := node.tracker.resolveSeqNum seqNum
  if requestId = [] then
    { node with
      pollLoop := .processing rest
      history := .discarded arrival :: node.history }
  else
    { node with pollLoop := .resolved requestId layerId arrival rest }

/-- Whether `mark_layer_received` records the layer. -/
def accepts (node : DecodeNode) (requestId : ByteString) (layerId : UInt16) :
    Bool :=
  ((node.tracker.requests.lookup requestId).bind fun info =>
    info.receiveLayer (Int32.ofNat layerId.toNat)).isSome

def mark
    (node : DecodeNode) (requestId : ByteString) (layerId : UInt16)
    (arrival : Arrival) (rest : List Arrival) : DecodeNode :=
  let (allDone, tracker) :=
    node.tracker.markLayerReceived requestId (Int32.ofNat layerId.toNat)
  { node with
    tracker := tracker
    pollLoop := if allDone then .allDone requestId rest else .processing rest
    history :=
      .marked requestId layerId arrival (node.accepts requestId layerId) ::
        node.history }

/-- The message that announces a complete transfer. -/
def transferMessage
    (memory : Message) (requestId : ByteString) (maxTokens : Int32) :
    Message :=
  let message := Message.new memory
  { message with
    type := .kvTransferComplete
    requestInfo :=
      { message.requestInfo with
        requestId := requestId
        maxTokens := maxTokens } }

def announce
    (node : DecodeNode) (requestId : ByteString) (maxTokens : Int32)
    (memory : Message) (rest : List Arrival) : DecodeNode :=
  let pushed :=
    node.push
      { clientFd := -1
        message := transferMessage memory requestId maxTokens }
  { pushed with
    pollLoop := .processing rest
    history := .pushed requestId :: node.history }

/-- The next section of the loop after polling. -/
def advanceLoop (node : DecodeNode) (input : LoopInput) :
    Option DecodeNode :=
  match node.pollLoop with
  | .polling => none
  | .processing [] => some { node with pollLoop := .polling }
  | .processing (arrival :: rest) => some (node.resolve arrival rest)
  | .resolved requestId layerId arrival rest =>
      some (node.mark requestId layerId arrival rest)
  | .allDone requestId rest =>
      if input.fenceSucceeds then
        some { node with pollLoop := .fenced requestId rest }
      else
        some { node with pollLoop := .processing rest }
  | .fenced requestId rest =>
      let maxTokens :=
        match node.tracker.getRequest requestId with
        | some info => info.maxOutputTokens
        | none => input.memory.requestInfo.maxTokens
      some { node with pollLoop := .announcing requestId maxTokens rest }
  | .announcing requestId maxTokens rest =>
      some (node.announce requestId maxTokens input.memory rest)
  | .stopped => none

end DecodeNode

/-! ## All threads together -/

inductive NodeAction where
  | receive (event : NodeEvent)
  | waitAndPop
  | work (index : Nat) (input : WorkerInput)
  | poll (polled : Option (List Arrival)) (replenished : Bool)
  | advanceLoop (input : LoopInput)

/-- The step of one thread. -/
def DecodeNode.threadStep (node : DecodeNode) :
    NodeAction → Option DecodeNode
  | .receive event => some (node.push event)
  | .waitAndPop => node.waitAndPop
  | .work index input => node.work index input
  | .poll polled replenished => node.poll polled replenished
  | .advanceLoop input => node.advanceLoop input

def DecodeNode.step (node : DecodeNode) (action : NodeAction) :
    Option DecodeNode :=
  if node.terminated then none else node.threadStep action

namespace DecodeNode

variable {node next : DecodeNode}

/-! ## What a step changes -/

theorem step_running
    {action : NodeAction} (stepped : node.step action = some next) :
    node.terminated = false ∧ node.threadStep action = some next := by
  rw [step] at stepped
  split at stepped
  · cases stepped
  · rename_i running
    exact ⟨by simpa using running, stepped⟩

theorem step_receive
    {event : NodeEvent} (stepped : node.step (.receive event) = some next) :
    node.terminated = false ∧ next = node.push event := by
  obtain ⟨running, received⟩ := step_running stepped
  exact ⟨running, (Option.some.inj received).symm⟩

/-- What the section of a handler does to the tracker and to the history. -/
inductive TrackerChange (node next : DecodeNode) : WorkerTask → Prop where
  | unchanged (task : WorkerTask)
      (tracker : next.tracker = node.tracker)
      (history : next.history = node.history) :
      TrackerChange node next task
  | stateUpdated (task : WorkerTask)
      (requestId : ByteString) (state : RequestTrackerLayer.State)
      (tracker : next.tracker = (node.tracker.updateState requestId state).2)
      (history : next.history = node.history) :
      TrackerChange node next task
  | requestAdded (info : RequestInfo) (assignment : Nat) (seqNum : UInt16)
      (tracker :
        node.tracker.addRequest info.requestId info.prefillNodeId info.slotId
            node.numLayers.toInt32 = .ok (seqNum, next.tracker))
      (history :
        next.history =
          .added info.requestId info.prefillNodeId info.slotId assignment ::
            node.history) :
      TrackerChange node next (.prepareSlot info assignment)
  | requestRemoved (requestId : ByteString)
      (tracker : next.tracker = node.tracker.removeRequest requestId)
      (history : next.history = .removed requestId :: node.history) :
      TrackerChange node next (.answered requestId)

/-- The parts of a node its workers leave alone. -/
structure SameLoop (node next : DecodeNode) : Prop where
  numLayers_eq : next.numLayers = node.numLayers
  engine_eq : next.engine = node.engine
  pollLoop_eq : next.pollLoop = node.pollLoop
  eventQueue_eq : next.eventQueue = node.eventQueue

/-- What the section of a worker does. -/
structure Worked
    (node next : DecodeNode) (index : Nat) (task reached : WorkerTask) :
    Prop where
  found : node.tasks[index]? = some task
  tasks_eq : next.tasks = node.tasks.set index reached
  preparing_eq : reached.preparing = none
  finishing :
    ∀ requestId, reached.finishing = some requestId →
      task.finishing = some requestId
  answered : ∀ requestId, task = .answered requestId → reached = .finished
  sameLoop : node.SameLoop next
  change : node.TrackerChange next task

theorem advanceTask_change
    {task reached : WorkerTask} {input : WorkerInput}
    (advanced : node.advanceTask input task = some (next, reached)) :
    next.tasks = node.tasks ∧ node.SameLoop next ∧
      node.TrackerChange next task := by
  cases task with
  | prepareSlot info assignment =>
      simp only [advanceTask, Option.some.injEq] at advanced
      rw [addRequest] at advanced
      split at advanced
      · cases advanced
        exact ⟨rfl, ⟨rfl, rfl, rfl, rfl⟩, .unchanged _ rfl rfl⟩
      · rename_i seqNum tracker added
        cases advanced
        exact
          ⟨rfl, ⟨rfl, rfl, rfl, rfl⟩,
            .requestAdded info assignment seqNum added rfl⟩
  | slotPrepared requestId =>
      cases advanced
      exact ⟨rfl, ⟨rfl, rfl, rfl, rfl⟩, .stateUpdated _ requestId _ rfl rfl⟩
  | transferComplete info =>
      simp only [advanceTask] at advanced
      split at advanced <;>
        cases advanced <;>
        exact ⟨rfl, ⟨rfl, rfl, rfl, rfl⟩, .unchanged _ rfl rfl⟩
  | requestFound info =>
      cases advanced
      exact
        ⟨rfl, ⟨rfl, rfl, rfl, rfl⟩, .stateUpdated _ info.requestId _ rfl rfl⟩
  | requesting info =>
      simp only [advanceTask] at advanced
      split at advanced <;>
        cases advanced <;>
        exact ⟨rfl, ⟨rfl, rfl, rfl, rfl⟩, .unchanged _ rfl rfl⟩
  | decodeFailed requestId =>
      cases advanced
      exact ⟨rfl, ⟨rfl, rfl, rfl, rfl⟩, .stateUpdated _ requestId _ rfl rfl⟩
  | decoded info generatedText =>
      cases advanced
      exact
        ⟨rfl, ⟨rfl, rfl, rfl, rfl⟩, .stateUpdated _ info.requestId _ rfl rfl⟩
  | completed info generatedText =>
      cases advanced
      exact ⟨rfl, ⟨rfl, rfl, rfl, rfl⟩, .unchanged _ rfl rfl⟩
  | answered requestId =>
      cases advanced
      exact ⟨rfl, ⟨rfl, rfl, rfl, rfl⟩, .requestRemoved requestId rfl rfl⟩
  | finished =>
      cases advanced

/-- A handler goes on with the request it has begun with. -/
theorem advanceTask_reached
    {task reached : WorkerTask} {input : WorkerInput}
    (advanced : node.advanceTask input task = some (next, reached)) :
    reached.preparing = none ∧
      ∀ requestId, reached.finishing = some requestId →
        task.finishing = some requestId := by
  cases task with
  | prepareSlot info assignment =>
      simp only [advanceTask, Option.some.injEq] at advanced
      rw [addRequest] at advanced
      split at advanced <;>
        cases advanced <;>
        exact ⟨rfl, fun _ finishing => by cases finishing⟩
  | transferComplete info =>
      simp only [advanceTask] at advanced
      split at advanced <;>
        cases advanced
      · exact ⟨rfl, fun _ finishing => by cases finishing⟩
      · exact ⟨rfl, fun _ finishing => finishing⟩
  | requesting info =>
      simp only [advanceTask] at advanced
      split at advanced <;>
        cases advanced
      · exact ⟨rfl, fun _ finishing => by cases finishing⟩
      · exact ⟨rfl, fun _ finishing => by cases finishing⟩
      · exact ⟨rfl, fun _ finishing => finishing⟩
  | slotPrepared _ | decodeFailed _ | answered _ =>
      cases advanced
      exact ⟨rfl, fun _ finishing => by cases finishing⟩
  | requestFound _ | decoded _ _ | completed _ _ =>
      cases advanced
      exact ⟨rfl, fun _ finishing => finishing⟩
  | finished =>
      cases advanced

theorem advanceTask_answered
    {task reached : WorkerTask} {input : WorkerInput}
    (advanced : node.advanceTask input task = some (next, reached))
    (requestId : ByteString) (isAnswered : task = .answered requestId) :
    reached = .finished := by
  subst isAnswered
  cases advanced
  rfl

theorem work_change
    {index : Nat} {input : WorkerInput}
    (worked : node.work index input = some next) :
    ∃ task reached, node.Worked next index task reached := by
  obtain ⟨task, found, worked⟩ := Option.bind_eq_some_iff.mp worked
  obtain ⟨⟨advancedNode, reached⟩, advanced, rfl⟩ :=
    Option.map_eq_some_iff.mp worked
  obtain ⟨sameTasks, sameLoop, change⟩ := advanceTask_change advanced
  obtain ⟨preparing, finishing⟩ := advanceTask_reached advanced
  refine
    ⟨task, reached, found, by simp only [sameTasks], preparing, finishing,
      advanceTask_answered advanced,
      ⟨sameLoop.numLayers_eq, sameLoop.engine_eq, sameLoop.pollLoop_eq,
        sameLoop.eventQueue_eq⟩, ?_⟩
  cases change with
  | unchanged task tracker history =>
      exact .unchanged task tracker history
  | stateUpdated task requestId state tracker history =>
      exact .stateUpdated task requestId state tracker history
  | requestAdded info assignment seqNum tracker history =>
      exact .requestAdded info assignment seqNum tracker history
  | requestRemoved requestId tracker history =>
      exact .requestRemoved requestId tracker history

@[simp]
theorem push_numLayers (node : DecodeNode) (event : NodeEvent) :
    (node.push event).numLayers = node.numLayers := by
  rw [push]
  split <;> rfl

@[simp]
theorem push_engine (node : DecodeNode) (event : NodeEvent) :
    (node.push event).engine = node.engine := by
  rw [push]
  split <;> rfl

@[simp]
theorem push_tracker (node : DecodeNode) (event : NodeEvent) :
    (node.push event).tracker = node.tracker := by
  rw [push]
  split <;> rfl

@[simp]
theorem push_pollLoop (node : DecodeNode) (event : NodeEvent) :
    (node.push event).pollLoop = node.pollLoop := by
  rw [push]
  split <;> rfl

@[simp]
theorem push_history (node : DecodeNode) (event : NodeEvent) :
    (node.push event).history = node.history := by
  rw [push]
  split <;> rfl

theorem waitAndPop_eq_some
    (popped : node.waitAndPop = some next) :
    ∃ event rest,
      node.eventQueue = event :: rest ∧
        next =
          { node with
            eventQueue := rest
            tasks := node.tasks ++ [taskOf event] } := by
  rw [waitAndPop] at popped
  split at popped
  · cases popped
  · rename_i event rest queued
    exact ⟨event, rest, queued, (Option.some.inj popped).symm⟩

/-- What polling does: it stops the loop, drops what was polled, or starts a
batch of successful completions. -/
theorem poll_cases
    {polled : Option (List Arrival)} {replenished : Bool}
    (taken : node.poll polled replenished = some next) :
    node.pollLoop = .polling ∧
      (next = { node with pollLoop := .stopped } ∨
        (∃ engine,
          engine.hostOrder = node.engine.hostOrder ∧
            node.engine.pollRecvCq
                (polled.map fun arrivals => arrivals.map Arrival.completion)
                replenished = (none, engine) ∧
            next =
              { node with
                engine := engine
                history := .lost (polled.getD []) :: node.history }) ∨
        ∃ engine,
          engine.hostOrder = node.engine.hostOrder ∧
            (∀ arrival ∈ polled.getD [],
              arrival.completion.success = true) ∧
            next =
              { node with
                engine := engine
                pollLoop := .processing (polled.getD []) }) := by
  rw [poll] at taken
  split at taken
  · rename_i isPolling
    refine ⟨isPolling, ?_⟩
    split at taken
    · exact Or.inl (Option.some.inj taken).symm
    · right
      split at taken
      · rename_i engine failed
        refine
          Or.inl ⟨engine, ?_, failed, (Option.some.inj taken).symm⟩
        have kept := RDMAEngine.pollRecvCq_hostOrder node.engine
          (polled.map fun arrivals => arrivals.map Arrival.completion)
          replenished
        rw [failed] at kept
        exact kept
      · rename_i completions engine succeeded
        refine Or.inr ⟨engine, ?_, ?_, (Option.some.inj taken).symm⟩
        · have kept := RDMAEngine.pollRecvCq_hostOrder node.engine
            (polled.map fun arrivals => arrivals.map Arrival.completion)
            replenished
          rw [succeeded] at kept
          exact kept
        · intro arrival member
          cases polled with
          | none =>
              cases member
          | some arrivals =>
              exact
                RDMAEngine.pollRecvCq_success succeeded
                  (List.mem_map_of_mem member)
  · cases taken

@[simp]
theorem resolve_numLayers (arrival : Arrival) (rest : List Arrival) :
    (node.resolve arrival rest).numLayers = node.numLayers := by
  simp only [resolve]
  split <;> rfl

@[simp]
theorem resolve_tracker (arrival : Arrival) (rest : List Arrival) :
    (node.resolve arrival rest).tracker = node.tracker := by
  simp only [resolve]
  split <;> rfl

/-- The ways through the sections of the loop after polling. -/
inductive LoopSection (node : DecodeNode) (input : LoopInput) :
    DecodeNode → Prop where
  | batchDone (isLoop : node.pollLoop = .processing []) :
      LoopSection node input { node with pollLoop := .polling }
  | resolves
      {arrival : Arrival} {rest : List Arrival}
      (isLoop : node.pollLoop = .processing (arrival :: rest)) :
      LoopSection node input (node.resolve arrival rest)
  | marks
      {requestId : ByteString} {layerId : UInt16} {arrival : Arrival}
      {rest : List Arrival}
      (isLoop : node.pollLoop = .resolved requestId layerId arrival rest) :
      LoopSection node input (node.mark requestId layerId arrival rest)
  | fenceSucceeds
      {requestId : ByteString} {rest : List Arrival}
      (isLoop : node.pollLoop = .allDone requestId rest)
      (succeeds : input.fenceSucceeds = true) :
      LoopSection node input { node with pollLoop := .fenced requestId rest }
  | fenceFails
      {requestId : ByteString} {rest : List Arrival}
      (isLoop : node.pollLoop = .allDone requestId rest)
      (fails : ¬ input.fenceSucceeds = true) :
      LoopSection node input { node with pollLoop := .processing rest }
  | looksUp
      {requestId : ByteString} {rest : List Arrival} (maxTokens : Int32)
      (isLoop : node.pollLoop = .fenced requestId rest) :
      LoopSection node input
        { node with pollLoop := .announcing requestId maxTokens rest }
  | announces
      {requestId : ByteString} {maxTokens : Int32} {rest : List Arrival}
      (isLoop : node.pollLoop = .announcing requestId maxTokens rest) :
      LoopSection node input
        (node.announce requestId maxTokens input.memory rest)

theorem loopSection_of_advanceLoop
    {input : LoopInput} (taken : node.advanceLoop input = some next) :
    node.LoopSection input next := by
  rw [advanceLoop] at taken
  split at taken
  · cases taken
  · rename_i isLoop
    cases taken
    exact .batchDone isLoop
  · rename_i isLoop
    cases taken
    exact .resolves isLoop
  · rename_i isLoop
    cases taken
    exact .marks isLoop
  · rename_i isLoop
    split at taken
    · rename_i succeeds
      cases taken
      exact .fenceSucceeds isLoop succeeds
    · rename_i fails
      cases taken
      exact .fenceFails isLoop fails
  · rename_i isLoop
    cases taken
    exact .looksUp _ isLoop
  · rename_i isLoop
    cases taken
    exact .announces isLoop
  · cases taken

theorem numLayers_of_advanceLoop
    {input : LoopInput} (taken : node.advanceLoop input = some next) :
    next.numLayers = node.numLayers := by
  cases loopSection_of_advanceLoop taken with
  | resolves =>
      exact resolve_numLayers _ _
  | announces =>
      exact push_numLayers _ _
  | _ =>
      rfl

/-- The loop changes the tracker when it marks a layer. -/
theorem tracker_of_advanceLoop
    {input : LoopInput} (taken : node.advanceLoop input = some next)
    (notMarking : node.pollLoop.marking = none) :
    next.tracker = node.tracker := by
  cases loopSection_of_advanceLoop taken with
  | resolves =>
      exact resolve_tracker _ _
  | marks isLoop =>
      rw [isLoop] at notMarking
      cases notMarking
  | announces =>
      exact push_tracker _ _
  | _ =>
      rfl

theorem tracker_of_marking
    {requestId : ByteString} {layerId : UInt16} {arrival : Arrival}
    {input : LoopInput} (taken : node.advanceLoop input = some next)
    (isMarking : node.pollLoop.marking = some (requestId, layerId, arrival)) :
    next.tracker =
      (node.tracker.markLayerReceived requestId
        (Int32.ofNat layerId.toNat)).2 := by
  cases loopSection_of_advanceLoop taken with
  | marks isLoop =>
      rw [isLoop] at isMarking
      cases isMarking
      rfl
  | batchDone isLoop | resolves isLoop | fenceSucceeds isLoop
  | fenceFails isLoop | looksUp _ isLoop | announces isLoop =>
      rw [isLoop] at isMarking
      cases isMarking

/-- The loop adds nothing to its batch. -/
theorem rest_of_advanceLoop
    {input : LoopInput} (taken : node.advanceLoop input = some next) :
    ∀ arrival ∈ next.pollLoop.rest, arrival ∈ node.pollLoop.rest := by
  intro tested member
  cases loopSection_of_advanceLoop taken with
  | batchDone =>
      cases member
  | @resolves arrival rest isLoop =>
      simp only [resolve] at member
      rw [isLoop]
      refine List.mem_cons_of_mem arrival ?_
      split at member <;>
        exact member
  | marks isLoop =>
      simp only [mark] at member
      rw [isLoop]
      split at member <;>
        exact member
  | fenceSucceeds isLoop | fenceFails isLoop | looksUp _ isLoop
  | announces isLoop =>
      rw [isLoop]
      exact member

end DecodeNode

end RdmaKvCache
