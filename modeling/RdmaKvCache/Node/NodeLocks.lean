import RdmaKvCache.Epoll.IoLocks
import Mathlib.Data.Fintype.Card
import Mathlib.Data.Fintype.Sum
import Mathlib.Tactic.DeriveFintype

/-!
# Waiting for mutexes in a node

The main thread, the I/O thread, the RDMA poll thread and any number of workers
of a prefill or decode node.  An exception of the source ends the process; here
the thread goes on past it, which adds runs.
-/

namespace RdmaKvCache.Locking

open LockOrders LockOrders.LockProgram
open ScopedLocks (LockMode)
open Logger

variable {Thread : Type}

/-! ## The components of a node -/

namespace RequestTrackerLayer

/-- A slot that is not valid or in use is answered by an exception. -/
def addRequest : Program Thread :=
  locked .layers .exclusive (optional log)

def change : Program Thread :=
  locked .layers .exclusive log

def updateState : Program Thread :=
  change

def removeRequest : Program Thread :=
  change

def markLayerReceived : Program Thread :=
  locked .layers .exclusive (.seq log (optional log))

def query : Program Thread :=
  locked .layers .exclusive .skip

def getRequest : Program Thread :=
  query

def resolveSeqNum : Program Thread :=
  query

end RequestTrackerLayer

/-- The RDMA engine has no mutex of its own; all it does here is to log. -/
def RDMAEngine.call : Program Thread :=
  logs

/-- The constructor and `post`. -/
def HTTPClient.post : Program Thread :=
  optional log

namespace EpollWorkerNode

def start : Program Thread :=
  sequence
    [logs, optional (sequence [locked .connections .exclusive .skip, logs])]

def connectToOrchestrator : Program Thread :=
  sequence [log, optional EpollWorkerBase.addConnection]

def sendNodeInfoToOrchestrator : Program Thread :=
  .either
    (.pick fun fd => sequence [EpollWorkerBase.enqueueResponse fd, log]) log

/-- The list of the other nodes' descriptors is locked alone. -/
def handleServerAccept : Program Thread :=
  .loop (sequence
    [locked .nodeInfo .exclusive .skip, log, log,
      EpollWorkerBase.addConnection, optional log])

end EpollWorkerNode

def Node.startVllmServer : Program Thread :=
  logs

namespace WorkerNode

def sendServerResponse : Program Thread :=
  EpollWorkerBase.sendResponse

def handleBroadcastMemberInfo : Program Thread :=
  sequence
    [logs, RDMAEngine.call, logs, Node.startVllmServer, sendServerResponse, log]

def handleTransferReady : Program Thread :=
  log

def handleAssignRequest : Program Thread :=
  sequence
    [log, log,
      .either log
        (sequence
          [HTTPClient.post, .either log (sequence [log, sendServerResponse])])]

def handlePrefillComplete : Program Thread :=
  .skip

def handleKvTransferComplete : Program Thread :=
  sequence
    [RequestTrackerLayer.getRequest,
      .either log
        (sequence
          [RequestTrackerLayer.updateState, HTTPClient.post,
            .either (sequence [log, RequestTrackerLayer.updateState])
              (sequence
                [log, RequestTrackerLayer.updateState, sendServerResponse,
                  RequestTrackerLayer.removeRequest])])]

def handlePrepareDecodeSlot : Program Thread :=
  sequence
    [log, RequestTrackerLayer.addRequest, RequestTrackerLayer.updateState]

def processEvent : Program Thread :=
  sequence
    [log,
      .either log
        (.either handleAssignRequest
          (.either handlePrepareDecodeSlot
            (.either handleBroadcastMemberInfo
              (.either handleTransferReady
                (.either handlePrefillComplete handleKvTransferComplete)))))]

end WorkerNode

namespace Node

/-- One completion; the event is pushed only when all layers have arrived and
the fence has succeeded. -/
def processCompletion : Program Thread :=
  sequence
    [RequestTrackerLayer.resolveSeqNum,
      .either log
        (sequence
          [log, RequestTrackerLayer.markLayerReceived,
            optional
              (.either log
                (sequence
                  [log, RequestTrackerLayer.getRequest, EventQueue.push]))])]

/-- A fatal error of the engine ends the loop with a message. -/
def rdmaPollLoop : Program Thread :=
  sequence
    [log, .loop (sequence [RDMAEngine.call, .loop processCompletion]),
      optional log, log]

end Node

/-! ## The threads of the process -/

inductive NodeThread (workers : Nat) where
  | main
  | ioThread
  | pollThread
  | worker (index : Fin workers)
  deriving DecidableEq, Fintype

namespace Node

/-- `epoll_worker_.stop()` and `worker_pool_.stop()` after a failed start. -/
def stopAll (workers : Nat) : Program (NodeThread workers) :=
  sequence
    [EpollWorkerBase.stop .ioThread,
      stopWorkers ((List.finRange workers).map .worker)]

def start (workers : Nat) : Program (NodeThread workers) :=
  sequence
    [logs,
      optional (sequence
        [EpollWorkerNode.start, logs, RDMAEngine.call,
          .either (stopAll workers)
            (sequence
              [log, EpollWorkerNode.connectToOrchestrator,
                .either
                  (sequence [log, RDMAEngine.call, stopAll workers])
                  (sequence
                    [EpollWorkerNode.sendNodeInfoToOrchestrator,
                      .either
                        (sequence [log, RDMAEngine.call, stopAll workers])
                        logs])])])]

/-- The poll thread is joined only on a decode node, and only if it runs. -/
def shutdown (workers : Nat) : Program (NodeThread workers) :=
  .either
    (sequence
      [logs, optional (sequence [log, join .pollThread, log]), log,
        RDMAEngine.call, log, EpollWorkerBase.stop .ioThread, log,
        stopWorkers ((List.finRange workers).map .worker), logs])
    log

def destroy {workers : Nat} : Program (NodeThread workers) :=
  sequence
    [RDMAEngine.call, logs, EpollWorkerBase.stop .ioThread,
      EventQueue.destroy]

/-- `main` of a prefill or decode node. -/
def main (workers : Nat) : Program (NodeThread workers) :=
  sequence
    [logs, start workers, optional (sequence [logs, shutdown workers, log]),
      destroy]

/-- The threads run from the beginning; before they are created they would only
take fewer steps. -/
def threads (workers : Nat) :
    NodeThread workers → LockOrders.Thread (Mutex (NodeThread workers))
  | .main => { code := [main workers], held := [] }
  | .ioThread =>
      running .ioThread
        (EpollWorkerBase.run .skip EpollWorkerNode.handleServerAccept)
  | .pollThread => running .pollThread rdmaPollLoop
  | .worker index =>
      running (.worker index) (workerThreadFunction WorkerNode.processEvent)

end Node

/-! ## They follow the ranks -/

section Following

variable [DecidableEq Thread]
variable (again : Mutex Thread → Prop)
variable {held : List (Mutex Thread × LockMode)}

namespace RequestTrackerLayer

theorem keeps_addRequest (outermost : Outermost held) :
    Keeps Mutex.rank again held addRequest :=
  keeps_locked outermost
    (keeps_optional (keeps_log again (outermost.loggable _ rfl .exclusive)))

theorem keeps_change (outermost : Outermost held) :
    Keeps Mutex.rank again held change :=
  keeps_locked_log again _ _ rfl outermost

theorem keeps_markLayerReceived (outermost : Outermost held) :
    Keeps Mutex.rank again held markLayerReceived := by
  have logs :=
    keeps_log again (outermost.loggable .layers rfl .exclusive)
  exact keeps_locked outermost (.seq logs (keeps_optional logs))

theorem keeps_query (outermost : Outermost held) :
    Keeps Mutex.rank again held query :=
  keeps_locked_skip again _ _ outermost

end RequestTrackerLayer

theorem HTTPClient.keeps_post (outermost : Outermost held) :
    Keeps Mutex.rank again held HTTPClient.post :=
  keeps_optional (keeps_log again outermost.innermost)

namespace EpollWorkerNode

theorem keeps_start (outermost : Outermost held) :
    Keeps Mutex.rank again held start := by
  have logs := keeps_logs again outermost.innermost
  exact
    .seq logs
      (.seq
        (keeps_optional
          (.seq (keeps_locked_skip again _ _ outermost)
            (.seq logs (.skip held))))
        (.skip held))

theorem keeps_connectToOrchestrator (outermost : Outermost held) :
    Keeps Mutex.rank again held connectToOrchestrator :=
  .seq (keeps_log again outermost.innermost)
    (.seq
      (keeps_optional (EpollWorkerBase.keeps_addConnection again outermost))
      (.skip held))

theorem keeps_sendNodeInfoToOrchestrator (outermost : Outermost held) :
    Keeps Mutex.rank again held sendNodeInfoToOrchestrator := by
  have logs := keeps_log again outermost.innermost
  exact
    .either
      (.pick fun fd =>
        .seq (EpollWorkerBase.keeps_enqueueResponse again outermost fd)
          (.seq logs (.skip held)))
      logs

theorem keeps_handleServerAccept (outermost : Outermost held) :
    Keeps Mutex.rank again held handleServerAccept := by
  have logs := keeps_log again outermost.innermost
  have adds := EpollWorkerBase.keeps_addConnection again outermost
  exact
    .loop
      (.seq (keeps_locked_skip again _ _ outermost)
        (.seq logs
          (.seq logs
            (.seq adds (.seq (keeps_optional logs) (.skip held))))))

end EpollWorkerNode

namespace WorkerNode

theorem keeps_handleBroadcastMemberInfo (outermost : Outermost held) :
    Keeps Mutex.rank again held handleBroadcastMemberInfo := by
  have logs := keeps_logs again outermost.innermost
  exact
    .seq logs
      (.seq logs
        (.seq logs
          (.seq logs
            (.seq (EpollWorkerBase.keeps_sendResponse again outermost)
              (.seq (keeps_log again outermost.innermost) (.skip held))))))

theorem keeps_handleAssignRequest (outermost : Outermost held) :
    Keeps Mutex.rank again held handleAssignRequest := by
  have logs := keeps_log again outermost.innermost
  have sends :=
    Follows.seq logs
      (.seq (EpollWorkerBase.keeps_sendResponse again outermost)
        (.skip held))
  have posts :=
    Follows.seq (HTTPClient.keeps_post again outermost)
      (.seq (.either logs sends) (.skip held))
  exact .seq logs (.seq logs (.seq (.either logs posts) (.skip held)))

theorem keeps_handleKvTransferComplete (outermost : Outermost held) :
    Keeps Mutex.rank again held handleKvTransferComplete := by
  have logs := keeps_log again outermost.innermost
  have changes := RequestTrackerLayer.keeps_change again outermost
  have fails := Follows.seq logs (.seq changes (.skip held))
  have completes :=
    Follows.seq logs
      (.seq changes
        (.seq (EpollWorkerBase.keeps_sendResponse again outermost)
          (.seq changes (.skip held))))
  have posts :=
    Follows.seq changes
      (.seq (HTTPClient.keeps_post again outermost)
        (.seq (.either fails completes) (.skip held)))
  exact
    .seq (RequestTrackerLayer.keeps_query again outermost)
      (.seq (.either logs posts) (.skip held))

theorem keeps_handlePrepareDecodeSlot (outermost : Outermost held) :
    Keeps Mutex.rank again held handlePrepareDecodeSlot :=
  .seq (keeps_log again outermost.innermost)
    (.seq (RequestTrackerLayer.keeps_addRequest again outermost)
      (.seq (RequestTrackerLayer.keeps_change again outermost)
        (.skip held)))

theorem keeps_processEvent (outermost : Outermost held) :
    Keeps Mutex.rank again held processEvent := by
  have logs := keeps_log again outermost.innermost
  have handles :=
    Follows.either logs
      (.either (keeps_handleAssignRequest again outermost)
        (.either (keeps_handlePrepareDecodeSlot again outermost)
          (.either (keeps_handleBroadcastMemberInfo again outermost)
            (.either logs
              (.either (.skip held)
                (keeps_handleKvTransferComplete again outermost))))))
  exact .seq logs (.seq handles (.skip held))

end WorkerNode

namespace Node

theorem keeps_processCompletion (outermost : Outermost held) :
    Keeps Mutex.rank again held processCompletion := by
  have logs := keeps_log again outermost.innermost
  have queries := RequestTrackerLayer.keeps_query again outermost
  have pushes :=
    Follows.seq logs
      (.seq queries
        (.seq (EventQueue.keeps_push again outermost) (.skip held)))
  have marks :=
    Follows.seq logs
      (.seq (RequestTrackerLayer.keeps_markLayerReceived again outermost)
        (.seq (keeps_optional (.either logs pushes)) (.skip held)))
  exact .seq queries (.seq (.either logs marks) (.skip held))

theorem keeps_rdmaPollLoop (outermost : Outermost held) :
    Keeps Mutex.rank again held rdmaPollLoop := by
  have log := keeps_log again outermost.innermost
  have logs := keeps_logs again outermost.innermost
  have polls :=
    Follows.seq logs
      (.seq (.loop (keeps_processCompletion again outermost)) (.skip held))
  exact
    .seq log
      (.seq (.loop polls)
        (.seq (keeps_optional log) (.seq log (.skip held))))

end Node

end Following

namespace Node

section Main

variable {workers : Nat}
variable (again : Mutex (NodeThread workers) → Prop)
variable {held : List (Mutex (NodeThread workers) × LockMode)}

theorem keeps_stopAll (below : Below Mutex.rank 0 held) :
    Keeps Mutex.rank again held (stopAll workers) :=
  .seq (EpollWorkerBase.keeps_stop again below .ioThread)
    (.seq (keeps_stopWorkers again below _) (.skip held))

theorem keeps_start (below : Below Mutex.rank 0 held) :
    Keeps Mutex.rank again held (start workers) := by
  have outermost : Outermost held := below.mono (by decide)
  have log := keeps_log again outermost.innermost
  have logs := keeps_logs again outermost.innermost
  have stops := keeps_stopAll again below
  have fails := Follows.seq log (.seq logs (.seq stops (.skip held)))
  have sends :=
    Follows.seq
      (EpollWorkerNode.keeps_sendNodeInfoToOrchestrator again outermost)
      (.seq (.either fails logs) (.skip held))
  have connects :=
    Follows.seq log
      (.seq (EpollWorkerNode.keeps_connectToOrchestrator again outermost)
        (.seq (.either fails sends) (.skip held)))
  have starts :=
    Follows.seq (EpollWorkerNode.keeps_start again outermost)
      (.seq logs
        (.seq logs (.seq (.either stops connects) (.skip held))))
  exact .seq logs (.seq (keeps_optional starts) (.skip held))

theorem keeps_shutdown (below : Below Mutex.rank 0 held) :
    Keeps Mutex.rank again held (shutdown workers) := by
  have outermost : Outermost held := below.mono (by decide)
  have log := keeps_log again outermost.innermost
  have logs := keeps_logs again outermost.innermost
  have joins :=
    Follows.seq log
      (.seq (keeps_join again below .pollThread)
        (.seq log (.skip held)))
  have stops :=
    Follows.seq log
      (.seq (EpollWorkerBase.keeps_stop again below .ioThread)
        (.seq log
          (.seq
            (keeps_stopWorkers again below
              ((List.finRange workers).map .worker))
            (.seq logs (.skip held)))))
  exact
    .either
      (.seq logs
        (.seq (keeps_optional joins) (.seq log (.seq logs stops))))
      log

theorem keeps_main (below : Below Mutex.rank 0 held) :
    Keeps Mutex.rank again held (main workers) := by
  have outermost : Outermost held := below.mono (by decide)
  have log := keeps_log again outermost.innermost
  have logs := keeps_logs again outermost.innermost
  have shuts :=
    Follows.seq logs
      (.seq (keeps_shutdown again below) (.seq log (.skip held)))
  have destroys :=
    Follows.seq logs
      (.seq logs
        (.seq (EpollWorkerBase.keeps_stop again below .ioThread)
          (.seq (EventQueue.keeps_destroy again outermost) (.skip held))))
  exact
    .seq logs
      (.seq (keeps_start again below)
        (.seq (keeps_optional shuts) (.seq destroys (.skip held))))

end Main

/-- No program acquires a mutex that its thread holds. -/
theorem ordered_threads
    {workers : Nat} (again : Mutex (NodeThread workers) → Prop) :
    Ordered Mutex.rank again (threads workers) := by
  intro thread
  cases thread with
  | main =>
      exact .cons (keeps_main _ (fun _ none => by cases none)) .nil
  | ioThread =>
      have accepts :=
        EpollWorkerNode.keeps_handleServerAccept again
          (outermost_alive (NodeThread.ioThread : NodeThread workers))
      exact
        followsAll_running _
          (EpollWorkerBase.keeps_run _ (outermost_alive _) (.skip _) accepts)
  | pollThread =>
      exact
        followsAll_running _ (keeps_rdmaPollLoop _ (outermost_alive _))
  | worker index =>
      exact
        followsAll_running _
          (keeps_workerThreadFunction _ (outermost_alive _)
            (WorkerNode.keeps_processEvent _ (outermost_alive _)))

/-- In every run of a node's threads, with signals at any time, every circle of
waits comes by a thread that a signal has interrupted while it logged; and the
threads can always be run on until each is at its end or waits, directly or
through others, for such a thread. -/
theorem waits_lead_to_interrupted_log
    {workers : Nat} {actions : List (Action (NodeThread workers))}
    {reached :
      NodeThread workers → LockOrders.Thread (Mutex (NodeThread workers))}
    (run :
      LabelledRuns.execute (step log) (threads workers) actions =
        some reached) :
    (∀ thread, Relation.TransGen (MayWaitFor reached) thread thread →
      ∃ stuck, Relation.TransGen (MayWaitFor reached) thread stuck ∧
        Relation.ReflTransGen (MayWaitFor reached) stuck thread ∧
          (reached stuck).WaitsForItself (· = .log)) ∧
    ∃ rest settled,
      LabelledRuns.execute (step log) reached rest = some settled ∧
        ∀ thread, (settled thread).code = [] ∨
          ∃ stuck, Relation.ReflTransGen (WaitsFor settled) thread stuck ∧
            (settled stuck).WaitsForItself (· = .log) := by
  have handled :=
    keeps_log_interrupting (· = (.log : Mutex (NodeThread workers))) rfl
  have ordered := (ordered_threads _).execute handled run
  obtain ⟨rest, settled, _, restRun, each⟩ := ordered.exists_settled handled
  exact
    ⟨fun thread circle => ordered.exists_waitsForItself circle, rest, settled,
      restRun, each⟩

/-- A signal interrupts the I/O thread inside of its first message. -/
def signalledMessage : List (Action (NodeThread 1)) :=
  List.replicate 5 (.run .ioThread 0) ++
    .interrupt .ioThread :: List.replicate 2 (.run .ioThread 0)

theorem waits_lead_to_interrupted_log_signalledMessage :
    ∃ reached,
      LabelledRuns.execute (step log) (threads 1) signalledMessage =
          some reached ∧
        (reached .ioThread).WaitsForItself (· = .log) ∧
        ∃ rest settled,
          LabelledRuns.execute (step log) reached rest = some settled ∧
            ∀ thread, (settled thread).code = [] ∨
              ∃ stuck, Relation.ReflTransGen (WaitsFor settled) thread stuck ∧
                (settled stuck).WaitsForItself (· = .log) := by
  have facts :
      (LabelledRuns.execute (step log) (threads 1) signalledMessage).map
          (fun reached =>
            ((reached .ioThread).awaited, (reached .ioThread).held)) =
        some (some (.log, .exclusive),
          [(.log, .exclusive), (.alive .ioThread, .exclusive)]) := by
    decide +kernel
  obtain ⟨reached, run, same⟩ := Option.map_eq_some_iff.mp facts
  obtain ⟨atLock, held⟩ := Prod.mk.inj same
  have conflict : Conflict .exclusive .exclusive := by
    rintro ⟨⟨⟩, _⟩
  have stuck : (reached .ioThread).WaitsForItself (· = .log) :=
    ⟨.log, .exclusive, .exclusive, Thread.awaits_of_awaited atLock,
      held ▸ List.mem_cons_self .., conflict, rfl⟩
  exact ⟨reached, run, stuck, (waits_lead_to_interrupted_log run).2⟩

/-- Without signals no threads of a node ever wait for one another in a circle,
and all of them can always be run on to their ends. -/
theorem goes_to_end_unsignalled
    {workers : Nat} {actions : List (Action (NodeThread workers))}
    {reached :
      NodeThread workers → LockOrders.Thread (Mutex (NodeThread workers))}
    (run :
      LabelledRuns.execute (step log) (threads workers) actions =
        some reached)
    (unsignalled : ∀ action ∈ actions, action.isRun = true) :
    (∀ thread, ¬Relation.TransGen (MayWaitFor reached) thread thread) ∧
      ∃ rest ended,
        (∀ action ∈ rest, action.isRun = true) ∧
          LabelledRuns.execute (step log) reached rest = some ended ∧
          ∀ thread, (ended thread).code = [] := by
  have never
      {threads :
        NodeThread workers → LockOrders.Thread (Mutex (NodeThread workers))}
      {stuck : NodeThread workers} :
      ¬(threads stuck).WaitsForItself fun _ => False := by
    rintro ⟨_, _, _, _, _, _, isFalse⟩
    exact isFalse
  have handled (held : List (Mutex (NodeThread workers) × LockMode)) :
      Keeps Mutex.rank (fun _ => False) held .skip :=
    .skip held
  rw [execute_eq_of_isRun log .skip unsignalled] at run
  have ordered := (ordered_threads fun _ => False).execute handled run
  constructor
  · intro thread circle
    obtain ⟨stuck, _, _, itself⟩ := ordered.exists_waitsForItself circle
    exact never itself
  · obtain ⟨rest, ended, runs, restRun, each⟩ :=
      ordered.exists_settled handled
    refine
      ⟨rest, ended, runs, (execute_eq_of_isRun log .skip runs _).trans restRun,
        fun thread => ?_⟩
    rcases each thread with done | ⟨stuck, _, itself⟩
    · exact done
    · exact absurd itself never

/-- The I/O thread and the main thread begin, one holding the logger's mutex. -/
def twoBegun : List (Action (NodeThread 1)) :=
  List.replicate 5 (.run .ioThread 0) ++
    List.replicate 3 (.run .main 0)

theorem goes_to_end_unsignalled_twoBegun :
    ∃ reached,
      LabelledRuns.execute (step log) (threads 1) twoBegun = some reached ∧
        (∀ thread,
          ¬Relation.TransGen (MayWaitFor reached) thread thread) ∧
        ∃ rest ended,
          (∀ action ∈ rest, action.isRun = true) ∧
            LabelledRuns.execute (step log) reached rest = some ended ∧
            ∀ thread, (ended thread).code = [] := by
  have begun :
      (LabelledRuns.execute (step log) (threads 1) twoBegun).isSome = true := by
    decide +kernel
  obtain ⟨reached, run⟩ := Option.isSome_iff_exists.mp begun
  exact ⟨reached, run, goes_to_end_unsignalled run (by decide)⟩

end Node

end RdmaKvCache.Locking
