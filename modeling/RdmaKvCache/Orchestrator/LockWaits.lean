import RdmaKvCache.Epoll.IoLocks
import Mathlib.Data.Fintype.Card
import Mathlib.Data.Fintype.Sum
import Mathlib.Tactic.DeriveFintype

/-!
# Waiting for mutexes in the orchestrator

Every mutex of the orchestrator is acquired under the same order by the main
thread, the I/O thread and any number of workers.  The exception is the exchange
tracker: `register_node` and `mark_node_ready` hold its mutex while they ask
`all_nodes_registered` or `all_nodes_ready`, which acquire it again.  A worker
that comes there waits for itself: the model's reading of what the standard leaves
undefined, and where libstdc++ throws `EDEADLK` and the process ends.  A thread
that a signal interrupts while it logs waits for itself as well, as the handlers of
the signals log.
-/

namespace RdmaKvCache.Locking

open LockOrders LockOrders.LockProgram
open ScopedLocks (LockMode)
open Logger

variable {Thread : Type}

/-! ## The components of the orchestrator -/

namespace NodeRegistry

def addNode : Program Thread :=
  locked .registry .exclusive log

/-- What the queries have in common. -/
def query : Program Thread :=
  locked .registry .shared .skip

def getTotalRegisteredNodes : Program Thread :=
  query

def getAllNodes : Program Thread :=
  query

def getHealthyNodes : Program Thread :=
  query

def getNodeFd : Program Thread :=
  query

def addNodeFd : Program Thread :=
  locked .registry .exclusive .skip

end NodeRegistry

namespace RdmaExchangeTracker

def query : Program Thread :=
  locked .exchange .shared .skip

def allNodesRegistered : Program Thread :=
  query

/-- A node that is registered already is answered by `all_nodes_registered`. -/
def registerNode : Program Thread :=
  locked .exchange .exclusive
    (.either (sequence [optional log, optional log])
      (sequence [log, allNodesRegistered]))

def allNodesReady : Program Thread :=
  query

def markNodeReady : Program Thread :=
  locked .exchange .exclusive
    (.either log
      (.either (sequence [log, optional log]) (sequence [log, allNodesReady])))

def getStats : Program Thread :=
  query

end RdmaExchangeTracker

namespace RequestTracker

def change : Program Thread :=
  locked .requests .exclusive log

def trackRequest : Program Thread :=
  change

def updateStatus : Program Thread :=
  change

def query : Program Thread :=
  locked .requests .shared .skip

def getClientFd : Program Thread :=
  query

def getStats : Program Thread :=
  query

end RequestTracker

namespace RequestRouter

/-- One of the three policies; only the loads are locked for it. -/
def selectNode : Program Thread :=
  optional (locked .loads .shared (optional log))

def selectPrefillNode : Program Thread :=
  sequence
    [NodeRegistry.getHealthyNodes,
      .either log (sequence [selectNode, optional log])]

def selectDecodeNodeWithSlot : Program Thread :=
  sequence
    [NodeRegistry.getHealthyNodes,
      .either log
        (sequence
          [locked .slots .exclusive .skip,
            .either log (sequence [selectNode, optional log])])]

def allocateSlotForNode : Program Thread :=
  locked .slots .exclusive log

def selectNodesAndAllocateSlot : Program Thread :=
  sequence
    [log, selectPrefillNode,
      .either log
        (sequence
          [selectDecodeNodeWithSlot,
            .either log
              (sequence
                [allocateSlotForNode,
                  .either log
                    (sequence [locked .slots .exclusive .skip, log])])])]

/-- The caller holds the slots. -/
def freeSlotForNode : Program Thread :=
  log

def freeSlot : Program Thread :=
  locked .slots .exclusive
    (.either log (sequence [freeSlotForNode, optional log]))

def changeNodeLoad : Program Thread :=
  locked .loads .exclusive log

def incrementNodeLoad : Program Thread :=
  changeNodeLoad

def decrementNodeLoad : Program Thread :=
  changeNodeLoad

end RequestRouter

namespace WorkerOrchestrator

def sendClientResponse : Program Thread :=
  EpollWorkerBase.sendResponse

def sendServerResponse : Program Thread :=
  EpollWorkerBase.sendResponse

def handleClientRequest : Program Thread :=
  sequence
    [log, RequestRouter.selectNodesAndAllocateSlot,
      .either (sequence [log, sendClientResponse])
        (sequence
          [RequestTracker.trackRequest, NodeRegistry.getNodeFd,
            .either (sequence [log, RequestRouter.freeSlot])
              (sequence
                [sendServerResponse, NodeRegistry.getNodeFd,
                  .either (sequence [log, RequestRouter.freeSlot])
                    (sequence
                      [sendServerResponse, RequestRouter.incrementNodeLoad,
                        RequestRouter.incrementNodeLoad, log])])])]

/-- What is undone of a request that has failed. -/
def failRequest : Program Thread :=
  sequence
    [RequestTracker.updateStatus, RequestRouter.freeSlot,
      RequestRouter.decrementNodeLoad, RequestRouter.decrementNodeLoad,
      RequestTracker.getClientFd]

def handlePrefillCompleteOrchestrator : Program Thread :=
  sequence
    [log, RequestTracker.updateStatus, NodeRegistry.getNodeFd,
      .either (sequence [sendServerResponse, log])
        (sequence
          [log, failRequest,
            optional (sequence [sendClientResponse, log])])]

def handleProcessRdmaRegistration : Program Thread :=
  sequence
    [log, NodeRegistry.addNode, NodeRegistry.addNodeFd,
      RdmaExchangeTracker.registerNode, NodeRegistry.getTotalRegisteredNodes,
      .either log
        (sequence
          [log, NodeRegistry.getAllNodes,
            .loop (sequence
              [NodeRegistry.getNodeFd,
                .either log (sequence [sendServerResponse, log])])])]

def handleReady : Program Thread :=
  sequence [log, RdmaExchangeTracker.markNodeReady, optional log]

def handleRequestFailed : Program Thread :=
  sequence
    [log, failRequest, .either (sequence [sendClientResponse, log]) log]

def processEvent : Program Thread :=
  sequence
    [log,
      .either log
        (.either handleClientRequest
          (.either handleProcessRdmaRegistration
            (.either handleReady
              (.either handleRequestFailed
                handlePrefillCompleteOrchestrator))))]

end WorkerOrchestrator

namespace EpollWorkerOrchestrator

def acceptAll : Program Thread :=
  .loop (sequence [log, EpollWorkerBase.addConnection, optional log])

def handleClientAccept : Program Thread :=
  acceptAll

def handleServerAccept : Program Thread :=
  acceptAll

/-- Each of the two listening sockets may fail to be added. -/
def start : Program Thread :=
  sequence
    [logs,
      optional (sequence
        [locked .connections .exclusive .skip, logs,
          optional (sequence [locked .connections .exclusive .skip, logs])])]

end EpollWorkerOrchestrator

/-! ## They follow the ranks -/

section Following

variable [DecidableEq Thread]
variable (again : Mutex Thread → Prop)
variable {held : List (Mutex Thread × LockMode)}

namespace NodeRegistry

theorem keeps_query (outermost : Outermost held) :
    Keeps Mutex.rank again held query :=
  keeps_locked_skip again _ _ outermost

end NodeRegistry

namespace RdmaExchangeTracker

/-- Whatever follows, a thread that holds the tracker exclusively does not come
out of a query. -/
theorem keeps_query_again
    (holds : (Mutex.exchange, LockMode.exclusive) ∈ held)
    (isAgain : again Mutex.exchange) :
    Keeps Mutex.rank again held query := by
  have conflict : Conflict .shared .exclusive := by
    rintro ⟨_, ⟨⟩⟩
  exact
    .seq (.acquireAgain ((.exchange, .shared) :: held) holds conflict isAgain)
      (.seq (.skip _) (follows_release Mutex.exchange .shared))

theorem keeps_registerNode
    (outermost : Outermost held) (isAgain : again Mutex.exchange) :
    Keeps Mutex.rank again held registerNode := by
  have logs :=
    keeps_log again
      (outermost.loggable .exchange rfl .exclusive)
  refine keeps_locked outermost (.either ?_ ?_)
  · exact .seq (keeps_optional logs) (.seq (keeps_optional logs) (.skip _))
  · exact
      .seq logs
        (.seq (keeps_query_again again (List.mem_cons_self ..) isAgain)
          (.skip _))

theorem keeps_markNodeReady
    (outermost : Outermost held) (isAgain : again Mutex.exchange) :
    Keeps Mutex.rank again held markNodeReady := by
  have logs :=
    keeps_log again
      (outermost.loggable .exchange rfl .exclusive)
  refine keeps_locked outermost (.either logs (.either ?_ ?_))
  · exact .seq logs (.seq (keeps_optional logs) (.skip _))
  · exact
      .seq logs
        (.seq (keeps_query_again again (List.mem_cons_self ..) isAgain)
          (.skip _))

end RdmaExchangeTracker

namespace RequestRouter

theorem keeps_selectNode (outermost : Outermost held) :
    Keeps Mutex.rank again held selectNode :=
  keeps_optional
    (keeps_locked outermost
      (keeps_optional (keeps_log again (outermost.loggable _ rfl .shared))))

theorem keeps_selectPrefillNode (outermost : Outermost held) :
    Keeps Mutex.rank again held selectPrefillNode := by
  have logs := keeps_log again outermost.innermost
  have selected :=
    Follows.seq (keeps_selectNode again outermost)
      (.seq (keeps_optional logs) (.skip held))
  exact
    .seq (NodeRegistry.keeps_query again outermost)
      (.seq (.either logs selected) (.skip held))

theorem keeps_selectDecodeNodeWithSlot (outermost : Outermost held) :
    Keeps Mutex.rank again held selectDecodeNodeWithSlot := by
  have logs := keeps_log again outermost.innermost
  have selected :=
    Follows.seq (keeps_selectNode again outermost)
      (.seq (keeps_optional logs) (.skip held))
  have filtered :=
    Follows.seq
      (keeps_locked_skip again (.slots)
        .exclusive outermost)
      (.seq (.either logs selected) (.skip held))
  exact
    .seq (NodeRegistry.keeps_query again outermost)
      (.seq (.either logs filtered) (.skip held))

theorem keeps_selectNodesAndAllocateSlot (outermost : Outermost held) :
    Keeps Mutex.rank again held selectNodesAndAllocateSlot := by
  have logs := keeps_log again outermost.innermost
  have assigned :=
    Follows.seq
      (keeps_locked_skip again (.slots)
        .exclusive outermost)
      (.seq logs (.skip held))
  have allocated :=
    Follows.seq
      (keeps_locked_log again (.slots)
        .exclusive rfl outermost)
      (.seq (.either logs assigned) (.skip held))
  have decodes :=
    Follows.seq (keeps_selectDecodeNodeWithSlot again outermost)
      (.seq (.either logs allocated) (.skip held))
  exact
    .seq logs
      (.seq (keeps_selectPrefillNode again outermost)
        (.seq (.either logs decodes) (.skip held)))

theorem keeps_freeSlot (outermost : Outermost held) :
    Keeps Mutex.rank again held freeSlot := by
  have logs :=
    keeps_log again
      (outermost.loggable .slots rfl .exclusive)
  exact
    keeps_locked outermost
      (.either logs (.seq logs (.seq (keeps_optional logs) (.skip _))))

theorem keeps_changeNodeLoad (outermost : Outermost held) :
    Keeps Mutex.rank again held changeNodeLoad :=
  keeps_locked_log again _ _ rfl outermost

end RequestRouter

namespace WorkerOrchestrator

theorem keeps_handleClientRequest (outermost : Outermost held) :
    Keeps Mutex.rank again held handleClientRequest := by
  have logs := keeps_log again outermost.innermost
  have sends := EpollWorkerBase.keeps_sendResponse again outermost
  have nodeFd := NodeRegistry.keeps_query again outermost
  have loads := RequestRouter.keeps_changeNodeLoad again outermost
  have frees :=
    Follows.seq logs
      (.seq (RequestRouter.keeps_freeSlot again outermost) (.skip held))
  have assigned :=
    Follows.seq sends (.seq loads (.seq loads (.seq logs (.skip held))))
  have prepared :=
    Follows.seq sends
      (.seq nodeFd (.seq (.either frees assigned) (.skip held)))
  have tracked :=
    Follows.seq
      (keeps_locked_log again (.requests)
        .exclusive rfl outermost)
      (.seq nodeFd (.seq (.either frees prepared) (.skip held)))
  exact
    .seq logs
      (.seq (RequestRouter.keeps_selectNodesAndAllocateSlot again outermost)
        (.seq (.either (.seq logs (.seq sends (.skip held))) tracked)
          (.skip held)))

theorem keeps_failRequest (outermost : Outermost held) :
    Keeps Mutex.rank again held failRequest := by
  have loads := RequestRouter.keeps_changeNodeLoad again outermost
  exact
    .seq (keeps_locked_log again _ _ rfl outermost)
      (.seq (RequestRouter.keeps_freeSlot again outermost)
        (.seq loads
          (.seq loads
            (.seq (keeps_locked_skip again _ _ outermost) (.skip held)))))

theorem keeps_handlePrefillCompleteOrchestrator
    (outermost : Outermost held) :
    Keeps Mutex.rank again held handlePrefillCompleteOrchestrator := by
  have logs := keeps_log again outermost.innermost
  have sends :=
    Follows.seq (EpollWorkerBase.keeps_sendResponse again outermost)
      (.seq logs (.skip held))
  have fails :=
    Follows.seq logs
      (.seq (keeps_failRequest again outermost)
        (.seq (keeps_optional sends) (.skip held)))
  exact
    .seq logs
      (.seq (keeps_locked_log again _ _ rfl outermost)
        (.seq (NodeRegistry.keeps_query again outermost)
          (.seq (.either sends fails) (.skip held))))

theorem keeps_handleProcessRdmaRegistration
    (outermost : Outermost held) (isAgain : again Mutex.exchange) :
    Keeps Mutex.rank again held handleProcessRdmaRegistration := by
  have logs := keeps_log again outermost.innermost
  have nodes := NodeRegistry.keeps_query again outermost
  have sends :=
    Follows.seq (EpollWorkerBase.keeps_sendResponse again outermost)
      (.seq logs (.skip held))
  have broadcasts :=
    Follows.seq logs
      (.seq nodes
        (.seq
          (.loop (.seq nodes (.seq (.either logs sends) (.skip held))))
          (.skip held)))
  exact
    .seq logs
      (.seq (keeps_locked_log again _ _ rfl outermost)
        (.seq (keeps_locked_skip again _ _ outermost)
          (.seq (RdmaExchangeTracker.keeps_registerNode again outermost isAgain)
            (.seq nodes (.seq (.either logs broadcasts) (.skip held))))))

theorem keeps_handleReady
    (outermost : Outermost held) (isAgain : again Mutex.exchange) :
    Keeps Mutex.rank again held handleReady := by
  have logs := keeps_log again outermost.innermost
  exact
    .seq logs
      (.seq (RdmaExchangeTracker.keeps_markNodeReady again outermost isAgain)
        (.seq (keeps_optional logs) (.skip held)))

theorem keeps_handleRequestFailed (outermost : Outermost held) :
    Keeps Mutex.rank again held handleRequestFailed := by
  have logs := keeps_log again outermost.innermost
  have sends :=
    Follows.seq (EpollWorkerBase.keeps_sendResponse again outermost)
      (.seq logs (.skip held))
  exact
    .seq logs
      (.seq (keeps_failRequest again outermost)
        (.seq (.either sends logs) (.skip held)))

theorem keeps_processEvent
    (outermost : Outermost held) (isAgain : again Mutex.exchange) :
    Keeps Mutex.rank again held processEvent := by
  have logs := keeps_log again outermost.innermost
  have handles :=
    Follows.either logs
      (.either (keeps_handleClientRequest again outermost)
        (.either (keeps_handleProcessRdmaRegistration again outermost isAgain)
          (.either (keeps_handleReady again outermost isAgain)
            (.either (keeps_handleRequestFailed again outermost)
              (keeps_handlePrefillCompleteOrchestrator again outermost)))))
  exact .seq logs (.seq handles (.skip held))

end WorkerOrchestrator

namespace EpollWorkerOrchestrator

theorem keeps_acceptAll (outermost : Outermost held) :
    Keeps Mutex.rank again held acceptAll := by
  have logs := keeps_log again outermost.innermost
  exact
    .loop
      (.seq logs
        (.seq (EpollWorkerBase.keeps_addConnection again outermost)
          (.seq (keeps_optional logs) (.skip held))))

theorem keeps_start (outermost : Outermost held) :
    Keeps Mutex.rank again held start := by
  have logs := keeps_logs again outermost.innermost
  have added :=
    keeps_locked_skip again (.connections)
      .exclusive outermost
  have serverAdded :=
    keeps_optional (Follows.seq added (.seq logs (.skip held)))
  exact
    .seq logs
      (.seq
        (keeps_optional
          (.seq added (.seq logs (.seq serverAdded (.skip held)))))
        (.skip held))

end EpollWorkerOrchestrator

end Following

/-! ## The threads of the process -/

inductive OrchestratorThread (workers : Nat) where
  | main
  | ioThread
  | worker (index : Fin workers)
  deriving DecidableEq, Fintype

namespace OrchestratorEngine

/-- A port that cannot be bound ends it early. -/
def start {workers : Nat} : Program (OrchestratorThread workers) :=
  sequence [logs, optional (sequence [EpollWorkerOrchestrator.start, logs])]

def shutdown (workers : Nat) : Program (OrchestratorThread workers) :=
  .either
    (sequence
      [logs, EpollWorkerBase.stop .ioThread, log,
        stopWorkers ((List.finRange workers).map .worker),
        RdmaExchangeTracker.getStats, logs, RequestTracker.getStats, logs])
    log

/-- Of the members, the workers, the epoll worker and the queue do something in
their destructors. -/
def destroy {workers : Nat} : Program (OrchestratorThread workers) :=
  sequence [logs, EpollWorkerBase.stop .ioThread, EventQueue.destroy]

/-- `main` of the orchestrator. -/
def main (workers : Nat) : Program (OrchestratorThread workers) :=
  sequence
    [logs, start, optional (sequence [logs, shutdown workers, log]), destroy]

/-- The threads run from the beginning; before they are created they would only
take fewer steps. -/
def threads (workers : Nat) :
    OrchestratorThread workers →
      LockOrders.Thread (Mutex (OrchestratorThread workers))
  | .main => { code := [main workers], held := [] }
  | .ioThread =>
      running .ioThread
        (EpollWorkerBase.run EpollWorkerOrchestrator.handleClientAccept
          EpollWorkerOrchestrator.handleServerAccept)
  | .worker index =>
      running (.worker index)
        (workerThreadFunction WorkerOrchestrator.processEvent)

/-- The mutexes that a thread may acquire while it holds them: the exchange
tracker's, and the logger's when a signal interrupts a message. -/
def Again {workers : Nat} (lock : Mutex (OrchestratorThread workers)) : Prop :=
  lock = .exchange ∨ lock = .log

section Following

variable {workers : Nat}
variable (again : Mutex (OrchestratorThread workers) → Prop)
variable {held : List (Mutex (OrchestratorThread workers) × LockMode)}

theorem keeps_shutdown (below : Below Mutex.rank 0 held) :
    Keeps Mutex.rank again held (shutdown workers) := by
  have outermost : Outermost held := below.mono (by decide)
  have log := keeps_log again outermost.innermost
  have logs := keeps_logs again outermost.innermost
  refine .either ?_ log
  exact
    .seq logs
      (.seq (EpollWorkerBase.keeps_stop again below .ioThread)
        (.seq log
          (.seq (keeps_stopWorkers again below _)
            (.seq (keeps_locked_skip again _ _ outermost)
              (.seq logs
                (.seq (keeps_locked_skip again _ _ outermost)
                  (.seq logs (.skip held))))))))

theorem keeps_main (below : Below Mutex.rank 0 held) :
    Keeps Mutex.rank again held (main workers) := by
  have outermost : Outermost held := below.mono (by decide)
  have log := keeps_log again outermost.innermost
  have logs := keeps_logs again outermost.innermost
  have starts :=
    Follows.seq logs
      (.seq
        (keeps_optional
          (.seq (EpollWorkerOrchestrator.keeps_start again outermost)
            (.seq logs (.skip held))))
        (.skip held))
  have shuts :=
    Follows.seq logs
      (.seq (keeps_shutdown again below) (.seq log (.skip held)))
  have destroys :=
    Follows.seq logs
      (.seq (EpollWorkerBase.keeps_stop again below .ioThread)
        (.seq (EventQueue.keeps_destroy again outermost) (.skip held)))
  exact
    .seq logs
      (.seq starts
        (.seq (keeps_optional shuts) (.seq destroys (.skip held))))

end Following

theorem ordered_threads (workers : Nat) :
    Ordered Mutex.rank Again (threads workers) := by
  intro thread
  cases thread with
  | main =>
      exact .cons (keeps_main Again (fun _ none => by cases none)) .nil
  | ioThread =>
      have accepts :=
        EpollWorkerOrchestrator.keeps_acceptAll Again
          (outermost_alive
            (OrchestratorThread.ioThread : OrchestratorThread workers))
      exact
        followsAll_running Again
          (EpollWorkerBase.keeps_run Again (outermost_alive _) accepts accepts)
  | worker index =>
      exact
        followsAll_running Again
          (keeps_workerThreadFunction Again (outermost_alive _)
            (WorkerOrchestrator.keeps_processEvent Again (outermost_alive _)
              (Or.inl rfl)))

/-- In every run of the orchestrator's threads, with signals at any time, every
circle of waits comes by a thread that acquires the exchange tracker's or the
logger's mutex while it holds it; and whatever has happened, the threads can be
run on until each is at its end or waits, directly or through others, for such a
thread. -/
theorem waits_lead_to_relocking
    {workers : Nat} {actions : List (Action (OrchestratorThread workers))}
    {reached :
      OrchestratorThread workers →
        LockOrders.Thread (Mutex (OrchestratorThread workers))}
    (run :
      LabelledRuns.execute (step log) (threads workers) actions =
        some reached) :
    (∀ thread, Relation.TransGen (MayWaitFor reached) thread thread →
      ∃ stuck, Relation.TransGen (MayWaitFor reached) thread stuck ∧
        Relation.ReflTransGen (MayWaitFor reached) stuck thread ∧
          (reached stuck).WaitsForItself Again) ∧
    ∃ rest settled,
      LabelledRuns.execute (step log) reached rest = some settled ∧
        ∀ thread, (settled thread).code = [] ∨
          ∃ stuck, Relation.ReflTransGen (WaitsFor settled) thread stuck ∧
            (settled stuck).WaitsForItself Again := by
  have handled := keeps_log_interrupting Again
    (Or.inr (rfl : (.log : Mutex (OrchestratorThread workers)) = .log))
  have ordered := (ordered_threads workers).execute handled run
  obtain ⟨rest, settled, _, restRun, each⟩ := ordered.exists_settled handled
  exact
    ⟨fun thread circle => ordered.exists_waitsForItself circle, rest, settled,
      restRun, each⟩

/-- The only worker registers a node that is registered already. -/
def repeatedRegistration : List (Action (OrchestratorThread 1)) :=
  [0, 1, 0, 0, 1, 0, 0, 0, 0, 0, 0, 0, 0, 0, 1, 0, 0, 1, 1, 0, 0, 1, 0,
    0, 0, 0, 0, 1, 0, 0, 0, 0, 0, 0, 0, 0, 0, 0, 0, 0, 1, 0, 1, 0, 0,
    0].map (.run (.worker 0))

theorem waits_lead_to_relocking_repeatedRegistration :
    ∃ reached,
      LabelledRuns.execute (step log) (threads 1) repeatedRegistration =
          some reached ∧
        (reached (.worker 0)).WaitsForItself Again ∧
        ∃ rest settled,
          LabelledRuns.execute (step log) reached rest = some settled ∧
            ∀ thread, (settled thread).code = [] ∨
              ∃ stuck, Relation.ReflTransGen (WaitsFor settled) thread stuck ∧
                (settled stuck).WaitsForItself Again := by
  have facts :
      (LabelledRuns.execute (step log) (threads 1) repeatedRegistration).map
          (fun reached =>
            ((reached (.worker 0)).awaited, (reached (.worker 0)).held)) =
        some (some (.exchange, .shared),
          [(.exchange, .exclusive), (.alive (.worker 0), .exclusive)]) := by
    decide +kernel
  obtain ⟨reached, run, same⟩ := Option.map_eq_some_iff.mp facts
  obtain ⟨atLock, held⟩ := Prod.mk.inj same
  have conflict : Conflict .shared .exclusive := by
    rintro ⟨_, ⟨⟩⟩
  have stuck : (reached (.worker 0)).WaitsForItself Again :=
    ⟨.exchange, .shared, .exclusive, Thread.awaits_of_awaited atLock,
      held ▸ List.mem_cons_self .., conflict, Or.inl rfl⟩
  exact ⟨reached, run, stuck, (waits_lead_to_relocking run).2⟩

end OrchestratorEngine

end RdmaKvCache.Locking
