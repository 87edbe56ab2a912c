import RdmaKvCache.Library.LockOrders

/-!
# Mutexes of the I/O thread and the worker pools

Where the logger, the event queue, the epoll worker and the worker pools acquire
and release the mutexes of a process.  A branch of the source is a choice of its
locking program; what is only computed between two mutexes is left out.

A thread holds its own end while it runs: `join` acquires the end of the joined
thread.
-/

namespace RdmaKvCache.Locking

open LockOrders LockOrders.LockProgram
open ScopedLocks (LockMode)

variable {Thread : Type}

/-- The mutexes of a process with these threads. -/
inductive Mutex (Thread : Type) where
  | alive (thread : Thread)
  | connections
  | output (fd : Nat)
  | nodeInfo
  | queue
  | registry
  | exchange
  | requests
  | slots
  | loads
  | layers
  | log
  deriving DecidableEq

/-- Output buffers are locked inside of the connections, and everything logs. -/
def Mutex.rank : Mutex Thread → Fin 4
  | .alive _ => 0
  | .output _ => 2
  | .log => 3
  | _ => 1

abbrev Program (Thread : Type) :=
  LockProgram (Mutex Thread)

/-- `std::thread::join`. -/
def join (thread : Thread) : Program Thread :=
  locked (.alive thread) .exclusive .skip

/-- A thread that runs a program; its end is released after it. -/
def running (thread : Thread) (program : Program Thread) :
    LockOrders.Thread (Mutex Thread) where
  code := [program, .release (.alive thread)]
  held := [(.alive thread, .exclusive)]

namespace Logger

/-- A message below the level is dropped before the mutex. -/
def log : Program Thread :=
  optional (locked .log .exclusive .skip)

/-- Several messages. -/
def logs : Program Thread :=
  .loop log

end Logger

open Logger

namespace EventQueue

def push : Program Thread :=
  locked .queue .exclusive (optional log)

/-- The wait on the condition variable gives the mutex back and acquires it
again. -/
def waitAndPop : Program Thread :=
  locked .queue .exclusive
    (.loop (.seq (.release .queue) (.acquire .queue .exclusive)))

def wakeAll : Program Thread :=
  locked .queue .exclusive .skip

def destroy : Program Thread :=
  sequence [wakeAll, log]

end EventQueue

namespace EpollWorkerBase

def modifyEpoll : Program Thread :=
  optional log

def setNonblocking : Program Thread :=
  optional log

def removeConnection : Program Thread :=
  sequence [log, locked .connections .exclusive log]

def addConnection : Program Thread :=
  sequence
    [setNonblocking,
      .either (sequence [locked .connections .exclusive .skip, log]) log]

/-- The messages of the buffer one after the other; a bad length ends it. -/
def parseMessages : Program Thread :=
  sequence
    [.loop (sequence
      [logs, optional (sequence [EventQueue.push, optional log])]),
      logs, optional removeConnection]

/-- The mutex is released before a connection is removed and before the messages
are parsed. -/
def handleRead : Program Thread :=
  .seq (.acquire .connections .exclusive)
    (.either
      (sequence
        [logs,
          .seq (.release .connections)
            (.either parseMessages removeConnection)])
      (.seq log (.release .connections)))

/-- Nothing to send: the connections are released while the output buffer is
still locked. -/
def sendNothing (fd : Nat) : Program Thread :=
  .seq (.release .connections)
    (.seq modifyEpoll (.release (.output fd)))

/-- What `handle_write` does once it has taken the output buffer. -/
def sendAll (fd : Nat) : Program Thread :=
  .seq logs
    (.either
      (sequence
        [locked (.output fd) .exclusive .skip,
          .seq (.release .connections) (optional modifyEpoll)])
      (.either
        (.seq (locked (.output fd) .exclusive .skip) (.release .connections))
        (.seq (.release .connections) removeConnection)))

def handleWrite (fd : Nat) : Program Thread :=
  .seq (.acquire .connections .exclusive)
    (.either
      (.seq (.acquire (.output fd) .exclusive)
        (.either (sendNothing fd) (.seq (.release (.output fd)) (sendAll fd))))
      (.seq log (.release .connections)))

def handleError : Program Thread :=
  sequence [log, removeConnection]

def enqueueResponse (fd : Nat) : Program Thread :=
  locked .connections .exclusive
    (.either
      (sequence
        [locked (.output fd) .exclusive .skip, optional modifyEpoll, log])
      log)

/-- What the workers do to answer some descriptor. -/
def sendResponse : Program Thread :=
  .pick fun fd => sequence [log, enqueueResponse fd]

/-- The event of one descriptor; what a listening socket does is given. -/
def handleEvent (handleClientAccept handleServerAccept : Program Thread) :
    Program Thread :=
  .seq (.acquire .connections .exclusive)
    (.either
      (.seq (.release .connections)
        (.either (sequence [log, handleError])
          (.either handleClientAccept
            (.either handleServerAccept
              (.pick fun fd =>
                sequence [optional handleRead, optional (handleWrite fd)])))))
      (.seq log (.release .connections)))

def run (handleClientAccept handleServerAccept : Program Thread) :
    Program Thread :=
  sequence
    [log,
      .loop (sequence
        [optional log,
          .loop (sequence
            [log, handleEvent handleClientAccept handleServerAccept])]),
      optional log, log]

def stop (ioThread : Thread) : Program Thread :=
  optional (sequence
    [log, join ioThread, locked .connections .exclusive log])

end EpollWorkerBase

/-- `worker_thread_function` of a worker pool. -/
def workerThreadFunction (processEvent : Program Thread) : Program Thread :=
  sequence
    [log,
      .loop (sequence [EventQueue.waitAndPop, optional processEvent]), log]

/-- `stop` of a worker pool: the threads are joined one after the other. -/
def stopWorkers (workers : List Thread) : Program Thread :=
  optional (sequence
    [log, EventQueue.wakeAll, sequence (workers.map join), log])

/-! ## They follow the ranks -/

section Following

variable (again : Mutex Thread → Prop)
variable {held : List (Mutex Thread × LockMode)}

/-- What may be held where the outermost mutexes are acquired. -/
abbrev Outermost (held : List (Mutex Thread × LockMode)) : Prop :=
  Below Mutex.rank 1 held

theorem Outermost.innermost (outermost : Outermost held) :
    Below Mutex.rank 3 held :=
  outermost.mono (by decide)

/-- What may be held inside of an outermost mutex. -/
theorem Outermost.inside
    (lock : Mutex Thread) (isOuter : lock.rank = 1) (mode : LockMode)
    (outermost : Outermost held) :
    Below Mutex.rank 2 ((lock, mode) :: held) :=
  (outermost.mono (by decide)).cons (by rw [isOuter]; decide)

/-- Messages may be logged inside of an outermost mutex. -/
theorem Outermost.loggable
    (lock : Mutex Thread) (isOuter : lock.rank = 1) (mode : LockMode)
    (outermost : Outermost held) :
    Below Mutex.rank 3 ((lock, mode) :: held) :=
  (outermost.inside lock isOuter mode).mono (by decide)

/-- A thread holds its own end from the beginning. -/
theorem outermost_alive (thread : Thread) :
    Outermost [(Mutex.alive thread, LockMode.exclusive)] :=
  Below.cons (show (0 : Fin 4) < 1 by decide) (fun _ none => by cases none)

variable [DecidableEq Thread]

/-- A thread whose program follows the ranks releases its end after it. -/
theorem followsAll_running
    {thread : Thread} {program : Program Thread}
    (keeps :
      Keeps Mutex.rank again [(.alive thread, .exclusive)] program) :
    FollowsAll Mutex.rank again (running thread program).held
      (running thread program).code :=
  .cons keeps (.cons (follows_release _ .exclusive) .nil)

theorem keeps_locked_skip
    (lock : Mutex Thread) (mode : LockMode)
    (below : Below Mutex.rank lock.rank held) :
    Keeps Mutex.rank again held (locked lock mode .skip) :=
  keeps_locked below (.skip _)

theorem keeps_join
    (below : Below Mutex.rank 0 held) (thread : Thread) :
    Keeps Mutex.rank again held (join thread) :=
  keeps_locked_skip again _ _ below

theorem keeps_log (below : Below Mutex.rank 3 held) :
    Keeps Mutex.rank again held log :=
  keeps_optional (keeps_locked_skip again _ _ below)

/-- The handler of a signal logs, whatever the interrupted thread holds; if that
is the logger's mutex, the thread waits for itself. -/
theorem keeps_log_interrupting
    (isAgain : again .log) (held : List (Mutex Thread × LockMode)) :
    Keeps Mutex.rank again held log := by
  by_cases below : Below Mutex.rank 3 held
  · exact keeps_log again below
  · simp only [Below, not_forall] at below
    obtain ⟨⟨lock, mode⟩, member, notBelow⟩ := below
    have isLog : lock = .log := by
      cases lock with
      | log => rfl
      | _ => exact absurd (by simp only [Mutex.rank]; decide) notBelow
    subst isLog
    have conflict : Conflict .exclusive mode := by
      rintro ⟨⟨⟩, _⟩
    exact
      keeps_optional
        (.seq
          (.acquireAgain ((.log, .exclusive) :: held) member conflict isAgain)
          (.seq (.skip _) (follows_release _ .exclusive)))

theorem keeps_logs (below : Below Mutex.rank 3 held) :
    Keeps Mutex.rank again held logs :=
  .loop (keeps_log again below)

/-- A scope of an outermost mutex with a message in it. -/
theorem keeps_locked_log
    (lock : Mutex Thread) (mode : LockMode) (isOuter : lock.rank = 1)
    (outermost : Outermost held) :
    Keeps Mutex.rank again held (locked lock mode log) :=
  keeps_locked (isOuter ▸ outermost)
    (keeps_log again (outermost.loggable lock isOuter mode))

namespace EventQueue

theorem keeps_push (outermost : Outermost held) :
    Keeps Mutex.rank again held push :=
  keeps_locked outermost
    (keeps_optional (keeps_log again (outermost.loggable _ rfl .exclusive)))

theorem keeps_waitAndPop (outermost : Outermost held) :
    Keeps Mutex.rank again held waitAndPop :=
  keeps_locked outermost
    (.loop (.seq (follows_release Mutex.queue .exclusive)
      (.acquire .exclusive outermost)))

theorem keeps_wakeAll (outermost : Outermost held) :
    Keeps Mutex.rank again held wakeAll :=
  keeps_locked_skip again _ _ outermost

theorem keeps_destroy (outermost : Outermost held) :
    Keeps Mutex.rank again held destroy :=
  .seq (keeps_wakeAll again outermost)
    (.seq (keeps_log again outermost.innermost) (.skip held))

end EventQueue

namespace EpollWorkerBase

theorem keeps_modifyEpoll (below : Below Mutex.rank 3 held) :
    Keeps Mutex.rank again held modifyEpoll :=
  keeps_optional (keeps_log again below)

theorem keeps_removeConnection (outermost : Outermost held) :
    Keeps Mutex.rank again held removeConnection :=
  .seq (keeps_log again outermost.innermost)
    (.seq (keeps_locked_log again _ _ rfl outermost) (.skip held))

theorem keeps_addConnection (outermost : Outermost held) :
    Keeps Mutex.rank again held addConnection := by
  have logs := keeps_log again outermost.innermost
  exact
    .seq (keeps_optional logs)
      (.seq
        (.either
          (.seq (keeps_locked_skip again _ _ outermost)
            (.seq logs (.skip held)))
          logs)
        (.skip held))

theorem keeps_parseMessages (outermost : Outermost held) :
    Keeps Mutex.rank again held parseMessages := by
  have logs := keeps_logs again outermost.innermost
  have pushed : Keeps Mutex.rank again held
      (optional (sequence [EventQueue.push, optional log])) :=
    keeps_optional
      (.seq (EventQueue.keeps_push again outermost)
        (.seq (keeps_optional (keeps_log again outermost.innermost))
          (.skip held)))
  exact
    .seq (.loop (.seq logs (.seq pushed (.skip held))))
      (.seq logs
        (.seq (keeps_optional (keeps_removeConnection again outermost))
          (.skip held)))

/-- The end of a scope of the connections. -/
theorem follows_releaseConnections {again : Mutex Thread → Prop} :
    Follows Mutex.rank again ((.connections, .exclusive) :: held)
      (.release .connections) held :=
  follows_release Mutex.connections .exclusive

theorem keeps_handleRead (outermost : Outermost held) :
    Keeps Mutex.rank again held handleRead := by
  have loggable := outermost.loggable .connections rfl .exclusive
  have afterwards :=
    Follows.either (keeps_parseMessages again outermost)
      (keeps_removeConnection again outermost)
  exact
    .seq (.acquire .exclusive outermost)
      (.either
        (.seq (keeps_logs again loggable)
          (.seq (.seq follows_releaseConnections afterwards) (.skip held)))
        (.seq (keeps_log again loggable) follows_releaseConnections))

theorem follows_sendNothing (outermost : Outermost held) (fd : Nat) :
    Follows Mutex.rank again
      ((.output fd, .exclusive) :: (.connections, .exclusive) :: held)
      (sendNothing fd) held := by
  have below : Below Mutex.rank 3 ((.output fd, .exclusive) :: held) :=
    outermost.innermost.cons (show (2 : Fin 4) < 3 by decide)
  exact
    .seq (follows_release_below (by rintro ⟨⟩) .exclusive .exclusive)
      (.seq (keeps_modifyEpoll again below) (follows_release _ .exclusive))

theorem follows_sendAll (outermost : Outermost held) (fd : Nat) :
    Follows Mutex.rank again ((.connections, .exclusive) :: held)
      (sendAll fd) held := by
  have loggable := outermost.loggable .connections rfl .exclusive
  have output :=
    keeps_locked_skip again (.output fd)
      .exclusive
      (outermost.inside .connections rfl .exclusive)
  exact
    .seq (keeps_logs again loggable)
      (.either
        (.seq output
          (.seq
            (.seq follows_releaseConnections
              (keeps_optional (keeps_modifyEpoll again outermost.innermost)))
            (.skip held)))
        (.either
          (.seq output follows_releaseConnections)
          (.seq follows_releaseConnections
            (keeps_removeConnection again outermost))))

theorem keeps_handleWrite (outermost : Outermost held) (fd : Nat) :
    Keeps Mutex.rank again held (handleWrite fd) := by
  have loggable := outermost.loggable .connections rfl .exclusive
  exact
    .seq (.acquire .exclusive outermost)
      (.either
        (.seq (.acquire .exclusive (outermost.inside _ rfl .exclusive))
          (.either (follows_sendNothing again outermost fd)
            (.seq (follows_release _ .exclusive)
              (follows_sendAll again outermost fd))))
        (.seq (keeps_log again loggable) follows_releaseConnections))

theorem keeps_handleError (outermost : Outermost held) :
    Keeps Mutex.rank again held handleError :=
  .seq (keeps_log again outermost.innermost)
    (.seq (keeps_removeConnection again outermost) (.skip held))

theorem keeps_enqueueResponse (outermost : Outermost held) (fd : Nat) :
    Keeps Mutex.rank again held (enqueueResponse fd) := by
  have loggable := outermost.loggable .connections rfl .exclusive
  refine keeps_locked outermost (.either ?_ (keeps_log again loggable))
  exact
    .seq (keeps_locked_skip again _ _ (outermost.inside _ rfl .exclusive))
      (.seq (keeps_optional (keeps_modifyEpoll again loggable))
        (.seq (keeps_log again loggable) (.skip _)))

theorem keeps_sendResponse (outermost : Outermost held) :
    Keeps Mutex.rank again held sendResponse :=
  .pick fun fd =>
    .seq (keeps_log again outermost.innermost)
      (.seq (keeps_enqueueResponse again outermost fd)
        (.skip held))

theorem keeps_handleEvent
    {handleClientAccept handleServerAccept : Program Thread}
    (outermost : Outermost held)
    (clientAccept : Keeps Mutex.rank again held handleClientAccept)
    (serverAccept : Keeps Mutex.rank again held handleServerAccept) :
    Keeps Mutex.rank again held
      (handleEvent handleClientAccept handleServerAccept) := by
  have loggable := outermost.loggable .connections rfl .exclusive
  have readsAndWrites : ∀ fd,
      Keeps Mutex.rank again held
        (sequence [optional handleRead, optional (handleWrite fd)]) :=
    fun fd =>
      .seq (keeps_optional (keeps_handleRead again outermost))
        (.seq (keeps_optional (keeps_handleWrite again outermost fd))
          (.skip held))
  exact
    .seq (.acquire .exclusive outermost)
      (.either
        (.seq follows_releaseConnections
          (.either
            (.seq (keeps_log again outermost.innermost)
              (.seq (keeps_handleError again outermost) (.skip held)))
            (.either clientAccept
              (.either serverAccept (.pick readsAndWrites)))))
        (.seq (keeps_log again loggable) follows_releaseConnections))

theorem keeps_run
    {handleClientAccept handleServerAccept : Program Thread}
    (outermost : Outermost held)
    (clientAccept : Keeps Mutex.rank again held handleClientAccept)
    (serverAccept : Keeps Mutex.rank again held handleServerAccept) :
    Keeps Mutex.rank again held
      (run handleClientAccept handleServerAccept) := by
  have logs := keeps_log again outermost.innermost
  have event := keeps_handleEvent again outermost clientAccept serverAccept
  exact
    .seq logs
      (.seq
        (.loop
          (.seq (keeps_optional logs)
            (.seq (.loop (.seq logs (.seq event (.skip held))))
              (.skip held))))
        (.seq (keeps_optional logs) (.seq logs (.skip held))))

/-- Only a thread that holds nothing, its own end included, stops the worker. -/
theorem keeps_stop
    (below : Below Mutex.rank 0 held) (ioThread : Thread) :
    Keeps Mutex.rank again held (stop ioThread) := by
  have outermost : Outermost held := below.mono (by decide)
  exact
    keeps_optional
      (.seq (keeps_log again outermost.innermost)
        (.seq (keeps_join again below ioThread)
          (.seq (keeps_locked_log again _ _ rfl outermost) (.skip held))))

end EpollWorkerBase

theorem keeps_workerThreadFunction
    {processEvent : Program Thread} (outermost : Outermost held)
    (processes : Keeps Mutex.rank again held processEvent) :
    Keeps Mutex.rank again held (workerThreadFunction processEvent) := by
  have logs := keeps_log again outermost.innermost
  exact
    .seq logs
      (.seq
        (.loop
          (.seq (EventQueue.keeps_waitAndPop again outermost)
            (.seq (keeps_optional processes) (.skip held))))
        (.seq logs (.skip held)))

theorem keeps_joins
    (below : Below Mutex.rank 0 held) (workers : List Thread) :
    Keeps Mutex.rank again held (sequence (workers.map join)) := by
  induction workers with
  | nil =>
      exact .skip held
  | cons worker rest inductionHypothesis =>
      exact .seq (keeps_join again below worker) inductionHypothesis

theorem keeps_stopWorkers
    (below : Below Mutex.rank 0 held) (workers : List Thread) :
    Keeps Mutex.rank again held (stopWorkers workers) := by
  have outermost : Outermost held := below.mono (by decide)
  have logs := keeps_log again outermost.innermost
  exact
    keeps_optional
      (.seq logs
        (.seq (EventQueue.keeps_wakeAll again outermost)
          (.seq (keeps_joins again below workers) (.seq logs (.skip held)))))

end Following

end RdmaKvCache.Locking
