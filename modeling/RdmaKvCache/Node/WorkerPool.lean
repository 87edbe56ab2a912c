import Mathlib.Algebra.Ring.Nat
import RdmaKvCache.Common.Messages
import RdmaKvCache.Library.LabelledRuns
import RdmaKvCache.Library.TaskLists
import RdmaKvCache.Library.Wakeups

/-!
# Event queue and worker pool

Any number of threads push events to a bounded queue, and the threads of a worker
pool take them.  A thread that finds the queue empty blocks on the condition
variable of the queue.  `stop` tells the threads to leave their loops, wakes them
up and waits for them.

A step is a section that runs under the mutex of the queue, a call of
`notify_one` or `notify_all`, which come after that section, or a read or write
of `running_`.  Blocked threads may wake up at any time.
-/

namespace RdmaKvCache

open LabelledRuns TaskLists Wakeups

/-! ## The queue -/

structure EventQueue where
  capacity : UInt64 := 1024
  stopped : Bool := false
  queue : List Event := []

/-- How the wait of `wait_and_pop` goes on once the mutex is held. -/
inductive PopOutcome where
  | blocks
  | stopped
  | popped (event : Event) (rest : EventQueue)

namespace EventQueue

/-- `none` when the queue is full and the event is dropped. -/
def push (events : EventQueue) (event : Event) : Option EventQueue :=
  if events.capacity.toNat ≤ events.queue.length then none
  else some { events with queue := events.queue ++ [event] }

def waitAndPop (events : EventQueue) : PopOutcome :=
  match events.queue with
  | [] => if events.stopped then .stopped else .blocks
  | event :: rest => .popped event { events with queue := rest }

/-- The section of `wake_all` under the mutex. -/
def markStopped (events : EventQueue) : EventQueue :=
  { events with stopped := true }

end EventQueue

/-! ## The pool -/

/-- Where a thread is in `worker_thread_function`. -/
inductive WorkerThread where
  | testing
  | entering
  | blocked
  | notified
  | processing (event : Event)
  | returned

namespace WorkerThread

def isBlocked : WorkerThread → Bool
  | .blocked => true
  | _ => false

def isNotified : WorkerThread → Bool
  | .notified => true
  | _ => false

def isReturned : WorkerThread → Bool
  | .returned => true
  | _ => false

def inHand : WorkerThread → List Event
  | .processing event => [event]
  | _ => []

/-- What `notify_all` does to a thread. -/
def notify : WorkerThread → WorkerThread
  | .blocked => .notified
  | thread => thread

end WorkerThread

/-- How far `stop` is: `running_` is cleared, the queue is stopped, and all
threads are notified. -/
inductive StopPhase where
  | idle
  | cleared
  | marked
  | joining
  deriving DecidableEq

/-- `notifications` counts the pushes that have not notified a thread yet.  What
was pushed, taken and processed is recorded beside the pool. -/
structure WorkerPool where
  numWorkers : UInt32
  eventQueue : EventQueue
  running : Bool := false
  threads : List WorkerThread := []
  notifications : Nat := 0
  stopPhase : StopPhase := .idle
  pushed : List Event := []
  taken : List Event := []
  processed : List Event := []

inductive PoolAction where
  | start
  | push (event : Event)
  | notifyOne (index : Option Nat)
  | wakeUp (index : Nat)
  | advance (index : Nat)
  | stop
  | continueStop
  deriving DecidableEq

namespace WorkerPool

/-- Called by the thread that also calls `stop`. -/
def start (pool : WorkerPool) : Option WorkerPool :=
  if pool.stopPhase = .idle then
    if pool.running then some pool
    else
      some
        { pool with
          running := true
          threads :=
            pool.threads ++
              List.replicate pool.numWorkers.toNat WorkerThread.testing }
  else
    none

def push (pool : WorkerPool) (event : Event) : WorkerPool :=
  match pool.eventQueue.push event with
  | none => pool
  | some eventQueue =>
      { pool with
        eventQueue := eventQueue
        notifications := pool.notifications + 1
        pushed := pool.pushed ++ [event] }

/-- A blocked thread goes on. -/
def unblock (pool : WorkerPool) (index : Nat) : Option WorkerPool :=
  match pool.threads[index]? with
  | some .blocked =>
      some { pool with threads := pool.threads.set index .notified }
  | _ => none

/-- One blocked thread is notified if there is any. -/
def notifyOne (pool : WorkerPool) (index : Option Nat) : Option WorkerPool :=
  match pool.notifications with
  | 0 => none
  | due + 1 =>
      match index with
      | some index =>
          { pool with notifications := due }.unblock index
      | none =>
          if pool.threads.countP WorkerThread.isBlocked = 0 then
            some { pool with notifications := due }
          else
            none

/-- The predicate of the condition variable is tested, and an event is taken. -/
def waitAndPop (pool : WorkerPool) (index : Nat) : WorkerPool :=
  match pool.eventQueue.waitAndPop with
  | .blocks => { pool with threads := pool.threads.set index .blocked }
  | .stopped => { pool with threads := pool.threads.set index .testing }
  | .popped event eventQueue =>
      { pool with
        eventQueue := eventQueue
        threads := pool.threads.set index (.processing event)
        taken := pool.taken ++ [event] }

/-- The next section of a thread of the pool. -/
def advance (pool : WorkerPool) (index : Nat) : Option WorkerPool :=
  match pool.threads[index]? with
  | some .testing =>
      some
        { pool with
          threads :=
            pool.threads.set index
              (if pool.running then .entering else .returned) }
  | some .entering | some .notified => some (pool.waitAndPop index)
  | some (.processing event) =>
      some
        { pool with
          threads := pool.threads.set index .testing
          processed := pool.processed ++ [event] }
  | some .blocked | some .returned | none => none

/-- The calls of `join` return when all threads have returned. -/
def continueStop (pool : WorkerPool) : Option WorkerPool :=
  match pool.stopPhase with
  | .idle => none
  | .cleared =>
      some
        { pool with
          eventQueue := pool.eventQueue.markStopped
          stopPhase := .marked }
  | .marked =>
      some
        { pool with
          threads := pool.threads.map WorkerThread.notify
          stopPhase := .joining }
  | .joining =>
      if pool.threads.all WorkerThread.isReturned then
        some { pool with threads := [], stopPhase := .idle }
      else
        none

def step (pool : WorkerPool) : PoolAction → Option WorkerPool
  | .start => pool.start
  | .push event => some (pool.push event)
  | .notifyOne index => pool.notifyOne index
  | .wakeUp index => pool.unblock index
  | .advance index => pool.advance index
  | .stop =>
      if pool.running then
        some { pool with running := false, stopPhase := .cleared }
      else
        some pool
  | .continueStop => pool.continueStop

/-- A pool that has not been started. -/
def new (numWorkers : UInt32) (capacity : UInt64) : WorkerPool where
  numWorkers := numWorkers
  eventQueue := { capacity := capacity }

/-! ## What a step changes -/

variable {pool next : WorkerPool}

theorem push_cases (pool : WorkerPool) (event : Event) :
    pool.push event = pool ∨
      pool.eventQueue.queue.length < pool.eventQueue.capacity.toNat ∧
        pool.push event =
          { pool with
            eventQueue :=
              { pool.eventQueue with
                queue := pool.eventQueue.queue ++ [event] }
            notifications := pool.notifications + 1
            pushed := pool.pushed ++ [event] } := by
  unfold push EventQueue.push
  by_cases full :
      pool.eventQueue.capacity.toNat ≤ pool.eventQueue.queue.length
  · rw [if_pos full]
    exact Or.inl rfl
  · rw [if_neg full]
    exact Or.inr ⟨Nat.lt_of_not_le full, rfl⟩

theorem unblock_eq_some
    {index : Nat} (taken : pool.unblock index = some next) :
    pool.threads[index]? = some .blocked ∧
      next = { pool with threads := pool.threads.set index .notified } := by
  unfold unblock at taken
  split at taken
  · rename_i found
    cases taken
    exact ⟨found, rfl⟩
  · cases taken

/-- What a thread of the pool does next. -/
inductive Advanced (pool : WorkerPool) (index : Nat) : WorkerPool → Prop where
  | tested (found : pool.threads[index]? = some .testing) :
      Advanced pool index
        { pool with
          threads :=
            pool.threads.set index
              (if pool.running then .entering else .returned) }
  | blocks (thread : WorkerThread)
      (found : pool.threads[index]? = some thread)
      (waits : thread = .entering ∨ thread = .notified)
      (empty : pool.eventQueue.queue = [])
      (isOpen : pool.eventQueue.stopped = false) :
      Advanced pool index
        { pool with threads := pool.threads.set index .blocked }
  | leaves (thread : WorkerThread)
      (found : pool.threads[index]? = some thread)
      (waits : thread = .entering ∨ thread = .notified)
      (empty : pool.eventQueue.queue = [])
      (isStopped : pool.eventQueue.stopped = true) :
      Advanced pool index
        { pool with threads := pool.threads.set index .testing }
  | pops (thread : WorkerThread) (event : Event) (rest : List Event)
      (found : pool.threads[index]? = some thread)
      (waits : thread = .entering ∨ thread = .notified)
      (first : pool.eventQueue.queue = event :: rest) :
      Advanced pool index
        { pool with
          eventQueue := { pool.eventQueue with queue := rest }
          threads := pool.threads.set index (.processing event)
          taken := pool.taken ++ [event] }
  | finishes (event : Event)
      (found : pool.threads[index]? = some (.processing event)) :
      Advanced pool index
        { pool with
          threads := pool.threads.set index .testing
          processed := pool.processed ++ [event] }

theorem advanced_waitAndPop
    {index : Nat} {thread : WorkerThread}
    (found : pool.threads[index]? = some thread)
    (waits : thread = .entering ∨ thread = .notified) :
    pool.Advanced index (pool.waitAndPop index) := by
  unfold waitAndPop EventQueue.waitAndPop
  cases queue : pool.eventQueue.queue with
  | nil =>
      cases stopped : pool.eventQueue.stopped with
      | false =>
          exact .blocks thread found waits queue stopped
      | true =>
          exact .leaves thread found waits queue stopped
  | cons event rest =>
      exact .pops thread event rest found waits queue

theorem advance_eq_some
    {index : Nat} (taken : pool.advance index = some next) :
    pool.Advanced index next := by
  unfold advance at taken
  split at taken
  · rename_i found
    cases taken
    exact .tested found
  · rename_i found
    cases taken
    exact advanced_waitAndPop found (Or.inl rfl)
  · rename_i found
    cases taken
    exact advanced_waitAndPop found (Or.inr rfl)
  · rename_i event found
    cases taken
    exact .finishes event found
  · cases taken
  · cases taken
  · cases taken

/-! ## Wake-ups -/

/-- What the condition variable of the queue is used for. -/
def wakeups (pool : WorkerPool) : Counts where
  work := pool.eventQueue.queue.length
  blocked := pool.threads.countP WorkerThread.isBlocked
  notified := pool.threads.countP WorkerThread.isNotified
  due := pool.notifications
  closed := pool.eventQueue.stopped
  allDue := decide (pool.stopPhase = .marked)

/-- The counts after a thread has gone on. -/
theorem countP_set
    {index : Nat} {thread : WorkerThread}
    (found : pool.threads[index]? = some thread) (reached : WorkerThread) :
    (pool.threads.set index reached).countP WorkerThread.isBlocked +
          thread.isBlocked.toNat =
        pool.threads.countP WorkerThread.isBlocked +
          reached.isBlocked.toNat ∧
      (pool.threads.set index reached).countP WorkerThread.isNotified +
          thread.isNotified.toNat =
        pool.threads.countP WorkerThread.isNotified +
          reached.isNotified.toNat :=
  ⟨countP_set_add found reached WorkerThread.isBlocked,
    countP_set_add found reached WorkerThread.isNotified⟩

/-- A thread that neither was blocked or notified nor is leaves the counts. -/
theorem wakeups_set
    {index : Nat} {thread reached : WorkerThread}
    (found : pool.threads[index]? = some thread)
    (wasBlocked : thread.isBlocked = false)
    (wasNotified : thread.isNotified = false)
    (isBlocked : reached.isBlocked = false)
    (isNotified : reached.isNotified = false) :
    { pool with threads := pool.threads.set index reached }.wakeups =
      pool.wakeups := by
  obtain ⟨blocked, notified⟩ := countP_set found reached
  rw [wasBlocked, isBlocked] at blocked
  rw [wasNotified, isNotified] at notified
  simp only [wakeups, Nat.add_right_cancel blocked,
    Nat.add_right_cancel notified]

/-- A blocked thread is notified or wakes up. -/
theorem countP_unblocked
    {index : Nat} (found : pool.threads[index]? = some .blocked) :
    ∃ blocked notified,
      pool.threads.countP WorkerThread.isBlocked = blocked + 1 ∧
        pool.threads.countP WorkerThread.isNotified = notified ∧
        (pool.threads.set index .notified).countP WorkerThread.isBlocked =
          blocked ∧
        (pool.threads.set index .notified).countP WorkerThread.isNotified =
          notified + 1 := by
  obtain ⟨blocked, notified⟩ := countP_set found .notified
  exact ⟨_, _, blocked.symm, rfl, rfl, notified⟩

/-- A thread tests the predicate for the first time or after a notification. -/
theorem countP_tested
    {index : Nat} {thread : WorkerThread} (reached : WorkerThread)
    (found : pool.threads[index]? = some thread)
    (waits : thread = .entering ∨ thread = .notified)
    (isNotified : reached.isNotified = false) :
    (pool.threads.set index reached).countP WorkerThread.isBlocked =
        pool.threads.countP WorkerThread.isBlocked +
          reached.isBlocked.toNat ∧
      ∃ notified,
        (pool.threads.set index reached).countP WorkerThread.isNotified =
            notified ∧
          (pool.threads.countP WorkerThread.isNotified = notified ∨
            pool.threads.countP WorkerThread.isNotified = notified + 1) := by
  obtain ⟨blocked, notified⟩ := countP_set found reached
  rw [isNotified] at notified
  rcases waits with rfl | rfl
  · exact ⟨blocked, _, rfl, Or.inl notified.symm⟩
  · exact ⟨blocked, _, rfl, Or.inr notified.symm⟩

theorem step_of_notifyOne
    {index : Option Nat} (taken : pool.notifyOne index = some next) :
    Wakeups.Step pool.wakeups next.wakeups := by
  unfold notifyOne at taken
  split at taken
  · cases taken
  · rename_i due isDue
    split at taken
    · obtain ⟨found, rfl⟩ := unblock_eq_some taken
      obtain ⟨blocked, notified, wasBlocked, wasNotified, isBlocked,
        isNotified⟩ := countP_unblocked found
      simp only [wakeups, isDue, wasBlocked, wasNotified, isBlocked,
        isNotified]
      exact .notify
    · split at taken
      · rename_i noneBlocked
        cases taken
        simp only [wakeups, isDue, noneBlocked]
        exact .notifyNobody
      · cases taken

theorem step_of_unblock
    {index : Nat} (taken : pool.unblock index = some next) :
    Wakeups.Step pool.wakeups next.wakeups := by
  obtain ⟨found, rfl⟩ := unblock_eq_some taken
  obtain ⟨blocked, notified, wasBlocked, wasNotified, isBlocked, isNotified⟩ :=
    countP_unblocked found
  simp only [wakeups, wasBlocked, wasNotified, isBlocked, isNotified]
  exact .wake

theorem step_of_advance
    {index : Nat} (taken : pool.advance index = some next) :
    next.wakeups = pool.wakeups ∨
      Wakeups.Step pool.wakeups next.wakeups := by
  cases advance_eq_some taken with
  | tested found =>
      refine Or.inl (wakeups_set found rfl rfl ?_ ?_) <;>
        cases pool.running <;>
        rfl
  | finishes event found =>
      exact Or.inl (wakeups_set found rfl rfl rfl rfl)
  | blocks thread found waits empty isOpen =>
      obtain ⟨blocked, notified, isNotified, wasNotified⟩ :=
        countP_tested .blocked found waits rfl
      refine Or.inr ?_
      rcases wasNotified with wasNotified | wasNotified
      · simp only [wakeups, empty, isOpen, blocked, isNotified, wasNotified]
        exact .block
      · simp only [wakeups, empty, isOpen, blocked, isNotified, wasNotified]
        exact .blockNotified
  | leaves thread found waits empty isStopped =>
      obtain ⟨blocked, notified, isNotified, wasNotified⟩ :=
        countP_tested .testing found waits rfl
      rcases wasNotified with wasNotified | wasNotified
      · refine Or.inl ?_
        simp only [wakeups, blocked, isNotified, wasNotified]
        rfl
      · refine Or.inr ?_
        simp only [wakeups, empty, isStopped, blocked, isNotified,
          wasNotified]
        exact .leaveNotified
  | pops thread event rest found waits first =>
      obtain ⟨blocked, notified, isNotified, wasNotified⟩ :=
        countP_tested (.processing event) found waits rfl
      refine Or.inr ?_
      rcases wasNotified with wasNotified | wasNotified
      · simp only [wakeups, first, blocked, isNotified, wasNotified]
        exact .take
      · simp only [wakeups, first, blocked, isNotified, wasNotified]
        exact .takeNotified

/-- After `notify_all` the blocked threads are notified ones. -/
theorem countP_notify (threads : List WorkerThread) :
    (threads.map WorkerThread.notify).countP WorkerThread.isBlocked = 0 ∧
      (threads.map WorkerThread.notify).countP WorkerThread.isNotified =
        threads.countP WorkerThread.isNotified +
          threads.countP WorkerThread.isBlocked := by
  induction threads with
  | nil =>
      exact ⟨rfl, rfl⟩
  | cons thread rest inductionHypothesis =>
      obtain ⟨blocked, notified⟩ := inductionHypothesis
      cases thread <;>
        simp only [List.map_cons, List.countP_cons, WorkerThread.notify,
          WorkerThread.isBlocked, WorkerThread.isNotified, blocked, notified,
          if_true, Bool.false_eq_true, if_false, Nat.add_zero, true_and] <;>
        omega

theorem countP_returned
    {threads : List WorkerThread}
    (returned : threads.all WorkerThread.isReturned = true) :
    threads.countP WorkerThread.isBlocked = 0 ∧
      threads.countP WorkerThread.isNotified = 0 := by
  rw [List.all_eq_true] at returned
  constructor <;>
    rw [List.countP_eq_zero] <;>
    intro thread member <;>
    have isReturned := returned thread member <;>
    cases thread <;>
    cases isReturned <;>
    exact Bool.false_ne_true

theorem step_of_continueStop
    (taken : pool.continueStop = some next) :
    next.wakeups = pool.wakeups ∨
      Wakeups.Step pool.wakeups next.wakeups := by
  unfold continueStop at taken
  split at taken
  · cases taken
  · cases taken
    exact Or.inr (.close pool.wakeups)
  · cases taken
    obtain ⟨blocked, notified⟩ := countP_notify pool.threads
    refine Or.inr ?_
    simp only [wakeups, blocked, notified]
    exact .notifyAll pool.wakeups
  · rename_i joining
    split at taken
    · rename_i returned
      cases taken
      obtain ⟨blocked, notified⟩ := countP_returned returned
      refine Or.inl ?_
      simp only [wakeups, blocked, notified, joining]
      rfl
    · cases taken

/-- `stop` begins with clearing `running_` and ends with joining. -/
structure Ordered (pool : WorkerPool) : Prop where
  running : pool.running = true → pool.stopPhase = .idle
  stopped :
    pool.stopPhase = .marked ∨ pool.stopPhase = .joining →
      pool.eventQueue.stopped = true

/-- Every step of the pool is one with the condition variable or does not
concern it. -/
theorem wakeups_step
    {action : PoolAction} (ordered : pool.Ordered)
    (taken : pool.step action = some next) :
    next.wakeups = pool.wakeups ∨
      Wakeups.Step pool.wakeups next.wakeups := by
  cases action with
  | start =>
      simp only [step, start] at taken
      split at taken
      · split at taken
        · cases taken
          exact Or.inl rfl
        · cases taken
          refine Or.inl ?_
          simp [wakeups, WorkerThread.isBlocked, WorkerThread.isNotified]
      · cases taken
  | push event =>
      cases taken
      rcases pool.push_cases event with same | ⟨_, pushed⟩
      · rw [same]
        exact Or.inl rfl
      · rw [pushed]
        refine Or.inr ?_
        simp only [wakeups, List.length_append, List.length_singleton]
        exact .add pool.wakeups
  | notifyOne index =>
      exact Or.inr (step_of_notifyOne taken)
  | wakeUp index =>
      exact Or.inr (step_of_unblock taken)
  | advance index =>
      exact step_of_advance taken
  | stop =>
      refine Or.inl ?_
      simp only [step] at taken
      split at taken
      · rename_i isRunning
        cases taken
        simp only [wakeups, ordered.running isRunning]
        rfl
      · cases taken
        rfl
  | continueStop =>
      exact step_of_continueStop taken

/-! ## Runs -/

theorem Ordered.of_same
    (ordered : pool.Ordered) (running : next.running = pool.running)
    (stopPhase : next.stopPhase = pool.stopPhase)
    (stopped : next.eventQueue.stopped = pool.eventQueue.stopped) :
    next.Ordered where
  running := by
    rw [running, stopPhase]
    exact ordered.running
  stopped := by
    rw [stopPhase, stopped]
    exact ordered.stopped

theorem Ordered.step
    (ordered : pool.Ordered) {action : PoolAction}
    (taken : pool.step action = some next) :
    next.Ordered := by
  cases action with
  | start =>
      simp only [WorkerPool.step, start] at taken
      split at taken
      · rename_i idle
        split at taken
        · cases taken
          exact ordered
        · cases taken
          refine ⟨fun _ => idle, ?_⟩
          exact ordered.stopped
      · cases taken
  | push event =>
      cases taken
      rcases pool.push_cases event with same | ⟨_, pushed⟩
      · rw [same]
        exact ordered
      · rw [pushed]
        exact ordered.of_same rfl rfl rfl
  | notifyOne index =>
      simp only [WorkerPool.step, notifyOne] at taken
      split at taken
      · cases taken
      · split at taken
        · obtain ⟨_, rfl⟩ := unblock_eq_some taken
          exact ordered.of_same rfl rfl rfl
        · split at taken
          · cases taken
            exact ordered.of_same rfl rfl rfl
          · cases taken
  | wakeUp index =>
      obtain ⟨_, rfl⟩ := unblock_eq_some taken
      exact ordered.of_same rfl rfl rfl
  | advance index =>
      cases advance_eq_some taken <;>
        exact ordered.of_same rfl rfl rfl
  | stop =>
      simp only [WorkerPool.step] at taken
      split at taken
      · cases taken
        refine ⟨fun isRunning => (Bool.false_ne_true isRunning).elim, ?_⟩
        rintro (phase | phase) <;>
          cases phase
      · cases taken
        exact ordered
  | continueStop =>
      simp only [WorkerPool.step, continueStop] at taken
      have notRunning
          (isPhase : pool.stopPhase ≠ .idle) : pool.running ≠ true :=
        fun isRunning => isPhase (ordered.running isRunning)
      split at taken
      · cases taken
      · rename_i isCleared
        cases taken
        refine ⟨fun isRunning => (notRunning ?_ isRunning).elim, ?_⟩
        · rw [isCleared]
          exact StopPhase.noConfusion
        · exact fun _ => rfl
      · rename_i isMarked
        cases taken
        refine ⟨fun isRunning => (notRunning ?_ isRunning).elim, ?_⟩
        · rw [isMarked]
          exact StopPhase.noConfusion
        · exact fun _ => ordered.stopped (Or.inl isMarked)
      · split at taken
        · cases taken
          refine ⟨fun _ => rfl, ?_⟩
          rintro (phase | phase) <;>
            cases phase
        · cases taken

/-- Everything that was accepted was taken in its order or waits, and what was
taken is or was processed. -/
structure InOrder (pool : WorkerPool) : Prop where
  pushed : pool.pushed = pool.taken ++ pool.eventQueue.queue
  length : pool.eventQueue.queue.length ≤ pool.eventQueue.capacity.toNat
  taken :
    pool.taken.Perm
      (pool.processed ++ pool.threads.flatMap WorkerThread.inHand)

/-- The events that the threads process, after one has gone on. -/
theorem flatMap_set
    {index : Nat} {thread : WorkerThread}
    (found : pool.threads[index]? = some thread) (reached : WorkerThread) :
    ∃ others,
      (pool.threads.flatMap WorkerThread.inHand).Perm
          (thread.inHand ++ others) ∧
        ((pool.threads.set index reached).flatMap WorkerThread.inHand).Perm
          (reached.inHand ++ others) := by
  obtain ⟨others, before, after⟩ := exists_others found
  exact
    ⟨others.flatMap WorkerThread.inHand,
      before.flatMap_right WorkerThread.inHand,
      (after reached).flatMap_right WorkerThread.inHand⟩

theorem InOrder.of_same
    (inOrder : pool.InOrder)
    (eventQueue : next.eventQueue = pool.eventQueue)
    (pushed : next.pushed = pool.pushed) (taken : next.taken = pool.taken)
    (processed : next.processed = pool.processed)
    (threads :
      (next.threads.flatMap WorkerThread.inHand).Perm
        (pool.threads.flatMap WorkerThread.inHand)) :
    next.InOrder where
  pushed := by
    rw [pushed, taken, eventQueue]
    exact inOrder.pushed
  length := by
    rw [eventQueue]
    exact inOrder.length
  taken := by
    rw [taken, processed]
    exact inOrder.taken.trans (threads.symm.append_left pool.processed)

/-- A thread with no event in its hands goes on without one. -/
theorem InOrder.set
    (inOrder : pool.InOrder) {index : Nat} {thread reached : WorkerThread}
    (found : pool.threads[index]? = some thread)
    (before : thread.inHand = []) (after : reached.inHand = []) :
    { pool with threads := pool.threads.set index reached }.InOrder := by
  obtain ⟨others, was, is⟩ := flatMap_set found reached
  rw [before] at was
  rw [after] at is
  exact inOrder.of_same rfl rfl rfl rfl (is.trans was.symm)

theorem InOrder.advance
    (inOrder : pool.InOrder) {index : Nat}
    (taken : pool.advance index = some next) :
    next.InOrder := by
  cases advance_eq_some taken with
  | tested found =>
      apply inOrder.set found rfl
      cases pool.running <;>
        rfl
  | blocks thread found waits _ _ | leaves thread found waits _ _ =>
      refine inOrder.set found ?_ rfl
      rcases waits with rfl | rfl <;>
        rfl
  | pops thread event rest found waits first =>
      obtain ⟨others, was, is⟩ := flatMap_set found (.processing event)
      have nothing : thread.inHand = [] := by
        rcases waits with rfl | rfl <;>
          rfl
      rw [nothing, List.nil_append] at was
      have pushed := inOrder.pushed
      have length := inOrder.length
      rw [first] at pushed length
      refine ⟨?_, Nat.le_of_succ_le length, ?_⟩
      · rw [pushed, List.append_assoc]
        rfl
      · calc
          (pool.taken ++ [event]).Perm (event :: pool.taken) :=
            List.perm_append_singleton event pool.taken
          _ |>.Perm (event :: (pool.processed ++ others)) :=
            (inOrder.taken.trans (was.append_left _)).cons event
          _ |>.Perm (pool.processed ++ event :: others) :=
            List.perm_middle.symm
          _ |>.Perm _ := is.symm.append_left pool.processed
  | finishes event found =>
      obtain ⟨others, was, is⟩ := flatMap_set found .testing
      refine ⟨inOrder.pushed, inOrder.length, ?_⟩
      calc
        pool.taken.Perm (pool.processed ++ ([event] ++ others)) :=
          inOrder.taken.trans (was.append_left pool.processed)
        _ |>.Perm (pool.processed ++ [event] ++ others) :=
          List.Perm.of_eq (List.append_assoc _ _ _).symm
        _ |>.Perm _ := is.symm.append_left (pool.processed ++ [event])

theorem inHand_notify (threads : List WorkerThread) :
    (threads.map WorkerThread.notify).flatMap WorkerThread.inHand =
      threads.flatMap WorkerThread.inHand := by
  rw [List.flatMap_map]
  congr 1
  funext thread
  cases thread <;>
    rfl

theorem inHand_returned
    {threads : List WorkerThread}
    (returned : threads.all WorkerThread.isReturned = true) :
    threads.flatMap WorkerThread.inHand = [] := by
  rw [List.flatMap_eq_nil_iff]
  intro thread member
  have isReturned := List.all_eq_true.mp returned thread member
  cases thread <;>
    cases isReturned
  rfl

theorem InOrder.unblock
    (inOrder : pool.InOrder) {index : Nat}
    (taken : pool.unblock index = some next) :
    next.InOrder := by
  obtain ⟨found, rfl⟩ := unblock_eq_some taken
  exact inOrder.set found rfl rfl

theorem InOrder.step
    (inOrder : pool.InOrder) {action : PoolAction}
    (taken : pool.step action = some next) :
    next.InOrder := by
  cases action with
  | start =>
      simp only [WorkerPool.step, start] at taken
      split at taken
      · split at taken
        · cases taken
          exact inOrder
        · cases taken
          refine inOrder.of_same rfl rfl rfl rfl (List.Perm.of_eq ?_)
          simp [WorkerThread.inHand]
      · cases taken
  | push event =>
      cases taken
      rcases pool.push_cases event with same | ⟨room, isPushed⟩
      · rw [same]
        exact inOrder
      · rw [isPushed]
        refine ⟨?_, ?_, inOrder.taken⟩
        · rw [inOrder.pushed, List.append_assoc]
        · rw [List.length_append]
          exact room
  | notifyOne index =>
      simp only [WorkerPool.step, notifyOne] at taken
      split at taken
      · cases taken
      · split at taken
        · have same (due : Nat) :
              { pool with notifications := due }.InOrder :=
            inOrder.of_same rfl rfl rfl rfl (List.Perm.refl _)
          exact (same _).unblock taken
        · split at taken
          · cases taken
            exact inOrder.of_same rfl rfl rfl rfl (List.Perm.refl _)
          · cases taken
  | wakeUp index =>
      exact inOrder.unblock taken
  | advance index =>
      exact inOrder.advance taken
  | stop =>
      simp only [WorkerPool.step] at taken
      split at taken
      · cases taken
        exact inOrder.of_same rfl rfl rfl rfl (List.Perm.refl _)
      · cases taken
        exact inOrder
  | continueStop =>
      simp only [WorkerPool.step, continueStop] at taken
      split at taken
      · cases taken
      · cases taken
        exact ⟨inOrder.pushed, inOrder.length, inOrder.taken⟩
      · cases taken
        refine inOrder.of_same rfl rfl rfl rfl (List.Perm.of_eq ?_)
        exact inHand_notify pool.threads
      · split at taken
        · rename_i returned
          cases taken
          refine inOrder.of_same rfl rfl rfl rfl (List.Perm.of_eq ?_)
          exact (inHand_returned returned).symm
        · cases taken

/-- What holds of a pool whatever its threads have done. -/
structure Sound (pool : WorkerPool) : Prop where
  ordered : pool.Ordered
  awaited : Awaited pool.wakeups
  inOrder : pool.InOrder

theorem sound_new (numWorkers : UInt32) (capacity : UInt64) :
    (new numWorkers capacity).Sound where
  ordered := by
    refine ⟨fun _ => rfl, ?_⟩
    rintro (phase | phase) <;>
      cases phase
  awaited := Awaited.of_none_blocked rfl
  inOrder := ⟨rfl, Nat.zero_le _, List.Perm.refl _⟩

theorem Sound.step
    (sound : pool.Sound) {action : PoolAction}
    (taken : pool.step action = some next) :
    next.Sound where
  ordered := sound.ordered.step taken
  awaited := by
    rcases wakeups_step sound.ordered taken with same | stepped
    · rw [same]
      exact sound.awaited
    · exact sound.awaited.step stepped
  inOrder := sound.inOrder.step taken

theorem sound_of_execute
    {numWorkers : UInt32} {capacity : UInt64} {actions : List PoolAction}
    (run : execute step (new numWorkers capacity) actions = some pool) :
    pool.Sound :=
  invariant_of_execute (fun _ _ _ taken sound => sound.step taken) run
    (sound_new numWorkers capacity)

/-- While a thread is blocked, the queue holds no more events than notifications
are due and threads have been notified, and it is stopped only as long as all
threads are going to be notified. -/
theorem no_wakeup_lost
    {numWorkers : UInt32} {capacity : UInt64} {actions : List PoolAction}
    (run : execute step (new numWorkers capacity) actions = some pool)
    (someBlocked : ∃ thread ∈ pool.threads, thread.isBlocked = true) :
    pool.eventQueue.queue.length ≤
        pool.notifications + pool.threads.countP WorkerThread.isNotified ∧
      (pool.eventQueue.stopped = true → pool.stopPhase = .marked) := by
  have awaited := (sound_of_execute run).awaited
  have positive : 0 < pool.wakeups.blocked :=
    List.countP_pos_iff.mpr someBlocked
  refine ⟨awaited.work positive, ?_⟩
  intro stopped
  exact of_decide_eq_true (awaited.closed positive stopped)

/-- An event is pushed while the only thread is blocked. -/
def sampleBlocked : List PoolAction :=
  [.start, .advance 0, .advance 0, .push ⟨7, .cleared⟩]

theorem no_wakeup_lost_sampleBlocked :
    ∃ pool,
      execute step (new 1 1) sampleBlocked = some pool ∧
        pool.eventQueue.queue.length = 1 ∧
        pool.eventQueue.queue.length ≤
          pool.notifications +
            pool.threads.countP WorkerThread.isNotified := by
  have blocked :
      (execute step (new 1 1) sampleBlocked).map
          (fun pool =>
            (pool.eventQueue.queue.length,
              pool.threads.any WorkerThread.isBlocked)) =
        some (1, true) := rfl
  obtain ⟨pool, run, facts⟩ := Option.map_eq_some_iff.mp blocked
  obtain ⟨length, someBlocked⟩ := Prod.mk.inj facts
  exact
    ⟨pool, run, length,
      (no_wakeup_lost run (List.any_eq_true.mp someBlocked)).1⟩

/-- Every accepted event is taken once, in the order of the pushes, and has been
processed when the thread that took it has returned. -/
theorem accepted_events_processed
    {numWorkers : UInt32} {capacity : UInt64} {actions : List PoolAction}
    (run : execute step (new numWorkers capacity) actions = some pool) :
    pool.pushed = pool.taken ++ pool.eventQueue.queue ∧
      pool.eventQueue.queue.length ≤ pool.eventQueue.capacity.toNat ∧
      pool.taken.Perm
        (pool.processed ++ pool.threads.flatMap WorkerThread.inHand) ∧
      (pool.threads.all WorkerThread.isReturned = true →
        pool.taken.Perm pool.processed) := by
  have inOrder := (sound_of_execute run).inOrder
  refine ⟨inOrder.pushed, inOrder.length, inOrder.taken, ?_⟩
  intro returned
  have taken := inOrder.taken
  rwa [inHand_returned returned, List.append_nil] at taken

/-- The thread takes the event, and another one is pushed before `stop`. -/
def sampleStopped : List PoolAction :=
  sampleBlocked ++
    [.notifyOne (some 0), .advance 0, .push ⟨8, .cleared⟩, .stop,
      .continueStop, .continueStop]

theorem accepted_events_processed_sampleStopped :
    ∃ pool,
      execute step (new 1 1) (sampleStopped ++ [.advance 0, .advance 0]) =
          some pool ∧
        pool.eventQueue.queue = [⟨8, .cleared⟩] ∧
        pool.taken.Perm pool.processed := by
  have stopped :
      (execute step (new 1 1)
            (sampleStopped ++ [.advance 0, .advance 0])).map
          (fun pool =>
            (pool.eventQueue.queue,
              pool.threads.all WorkerThread.isReturned)) =
        some ([⟨8, .cleared⟩], true) := rfl
  obtain ⟨pool, run, facts⟩ := Option.map_eq_some_iff.mp stopped
  obtain ⟨queue, returned⟩ := Prod.mk.inj facts
  obtain ⟨_, _, _, processed⟩ := accepted_events_processed run
  exact ⟨pool, run, queue, processed returned⟩

/-! ## Stopping -/

end WorkerPool

/-- The sections a thread still goes through, at most, once `stop` joins it. -/
def WorkerThread.remaining : WorkerThread → Nat
  | .returned => 0
  | .testing => 1
  | .processing _ => 2
  | .entering | .blocked | .notified => 3

def PoolAction.isAdvance : PoolAction → Bool
  | .advance _ => true
  | _ => false

namespace WorkerPool

variable {pool next : WorkerPool}

def remaining (pool : WorkerPool) : Nat :=
  (pool.threads.map WorkerThread.remaining).sum

theorem remaining_le (pool : WorkerPool) :
    pool.remaining ≤ 3 * pool.threads.length := by
  unfold remaining
  induction pool.threads with
  | nil =>
      exact Nat.le_refl _
  | cons thread rest inductionHypothesis =>
      have bound : thread.remaining ≤ 3 := by
        cases thread <;>
          simp [WorkerThread.remaining]
      rw [List.map_cons, List.sum_cons, List.length_cons]
      omega

/-- A thread that goes on has fewer sections before it. -/
theorem remaining_lt
    {index : Nat} {thread reached : WorkerThread}
    (found : pool.threads[index]? = some thread)
    (threads : next.threads = pool.threads.set index reached)
    (fewer : reached.remaining < thread.remaining) :
    next.remaining < pool.remaining := by
  obtain ⟨others, before, after⟩ := exists_others found
  unfold remaining
  rw [threads, (before.map WorkerThread.remaining).sum_nat,
    ((after reached).map WorkerThread.remaining).sum_nat]
  exact Nat.add_lt_add_right fewer _

/-- `stop` waits in `join`, and the threads know it. -/
structure Joining (pool : WorkerPool) : Prop where
  phase : pool.stopPhase = .joining
  running : pool.running = false
  stopped : pool.eventQueue.stopped = true
  noneBlocked : pool.threads.countP WorkerThread.isBlocked = 0

theorem Sound.joining
    (sound : pool.Sound) (phase : pool.stopPhase = .joining) :
    pool.Joining where
  phase := phase
  running := by
    cases running : pool.running with
    | false =>
        rfl
    | true =>
        have idle := sound.ordered.running running
        rw [phase] at idle
        cases idle
  stopped := sound.ordered.stopped (Or.inr phase)
  noneBlocked := by
    apply Nat.eq_zero_of_not_pos
    intro someBlocked
    have marked :=
      of_decide_eq_true
        (sound.awaited.closed someBlocked
          (sound.ordered.stopped (Or.inr phase)))
    rw [phase] at marked
    cases marked

theorem Joining.not_blocked
    (isJoining : pool.Joining) {index : Nat} {thread : WorkerThread}
    (found : pool.threads[index]? = some thread) :
    thread.isBlocked = false := by
  have none :=
    List.countP_eq_zero.mp isJoining.noneBlocked thread
      (List.mem_of_getElem? found)
  exact eq_false_of_ne_true none

theorem Joining.advance
    (isJoining : pool.Joining) {index : Nat}
    (taken : pool.advance index = some next) :
    next.stopPhase = .joining ∧ next.remaining < pool.remaining := by
  cases advance_eq_some taken with
  | tested found =>
      refine ⟨isJoining.phase, remaining_lt found rfl ?_⟩
      rw [isJoining.running]
      exact Nat.zero_lt_one
  | blocks thread found waits empty isOpen =>
      rw [isJoining.stopped] at isOpen
      cases isOpen
  | leaves thread found waits empty isStopped =>
      refine ⟨isJoining.phase, remaining_lt found rfl ?_⟩
      rcases waits with rfl | rfl <;>
        simp [WorkerThread.remaining]
  | pops thread event rest found waits first =>
      refine ⟨isJoining.phase, remaining_lt found rfl ?_⟩
      rcases waits with rfl | rfl <;>
        simp [WorkerThread.remaining]
  | finishes event found =>
      exact
        ⟨isJoining.phase, remaining_lt found rfl (Nat.lt_succ_self 1)⟩

/-- Nothing but a thread of the pool changes what the threads have before them. -/
theorem Joining.step
    (isJoining : pool.Joining) {action : PoolAction}
    (taken : pool.step action = some next)
    (notJoined : action ≠ .continueStop) :
    next.stopPhase = .joining ∧
      action.isAdvance.toNat + next.remaining ≤ pool.remaining := by
  have noUnblock (source : WorkerPool) (index : Nat)
      (threads : source.threads = pool.threads)
      (unblocked : source.unblock index = some next) : False := by
    obtain ⟨found, _⟩ := unblock_eq_some unblocked
    rw [threads] at found
    have notBlocked := isJoining.not_blocked found
    cases notBlocked
  cases action with
  | start =>
      simp only [WorkerPool.step, start, isJoining.phase] at taken
      cases taken
  | push event =>
      cases taken
      rcases pool.push_cases event with same | ⟨_, isPushed⟩
      · rw [same]
        exact ⟨isJoining.phase, Nat.le_of_eq (Nat.zero_add _)⟩
      · rw [isPushed]
        exact ⟨isJoining.phase, Nat.le_of_eq (Nat.zero_add _)⟩
  | notifyOne index =>
      simp only [WorkerPool.step, notifyOne] at taken
      split at taken
      · cases taken
      · split at taken
        · refine (noUnblock _ _ ?_ taken).elim
          rfl
        · split at taken
          · cases taken
            exact ⟨isJoining.phase, Nat.le_of_eq (Nat.zero_add _)⟩
          · cases taken
  | wakeUp index =>
      exact (noUnblock pool index rfl taken).elim
  | advance index =>
      obtain ⟨phase, fewer⟩ := isJoining.advance taken
      refine ⟨phase, ?_⟩
      rw [Nat.add_comm]
      exact fewer
  | stop =>
      simp only [WorkerPool.step, isJoining.running] at taken
      cases taken
      exact ⟨isJoining.phase, Nat.le_of_eq (Nat.zero_add _)⟩
  | continueStop =>
      exact (notJoined rfl).elim

theorem Sound.countP_advance
    (sound : pool.Sound) (phase : pool.stopPhase = .joining)
    {actions : List PoolAction} {final : WorkerPool}
    (run : execute WorkerPool.step pool actions = some final)
    (notJoined : .continueStop ∉ actions) :
    actions.countP PoolAction.isAdvance + final.remaining ≤
      pool.remaining := by
  induction actions generalizing pool with
  | nil =>
      cases run
      exact Nat.le_of_eq (Nat.zero_add _)
  | cons action rest inductionHypothesis =>
      obtain ⟨next, taken, remaining⟩ := execute_cons_eq_some run
      rw [List.mem_cons, not_or] at notJoined
      obtain ⟨nextPhase, fewer⟩ :=
        (sound.joining phase).step taken (Ne.symm notJoined.1)
      have later :=
        inductionHypothesis (sound.step taken) nextPhase remaining notJoined.2
      rw [List.countP_cons]
      cases isAdvance : action.isAdvance with
      | false =>
          rw [isAdvance, Bool.toNat_false] at fewer
          simp only [Bool.false_eq_true, if_false]
          omega
      | true =>
          rw [isAdvance, Bool.toNat_true] at fewer
          simp only [if_true]
          omega

/-- Once `stop` joins the threads, each of them can always go on until it has
returned, they go through at most three sections each, and then `stop` returns. -/
theorem stop_returns
    {numWorkers : UInt32} {capacity : UInt64} {actions : List PoolAction}
    (run : execute step (new numWorkers capacity) actions = some pool)
    (phase : pool.stopPhase = .joining) :
    (∀ index thread, pool.threads[index]? = some thread →
        thread.isReturned = false → (pool.advance index).isSome = true) ∧
      (pool.threads.all WorkerThread.isReturned = true →
        (pool.step .continueStop).isSome = true) ∧
      ∀ later final, execute step pool later = some final →
        .continueStop ∉ later →
          later.countP PoolAction.isAdvance ≤ 3 * pool.threads.length := by
  have sound := sound_of_execute run
  refine ⟨?_, ?_, ?_⟩
  · intro index thread found notReturned
    have notBlocked := (sound.joining phase).not_blocked found
    unfold advance
    rw [found]
    cases thread with
    | testing | entering | notified | processing _ =>
        rfl
    | blocked =>
        cases notBlocked
    | returned =>
        cases notReturned
  · intro returned
    simp only [step, continueStop, phase, returned, if_true]
    rfl
  · intro later final continued notJoined
    have bounded := sound.countP_advance phase continued notJoined
    have few := pool.remaining_le
    omega

/-- One thread has nothing left to do but to join. -/
theorem stop_returns_sampleStopped :
    ∃ pool,
      execute step (new 1 1) sampleStopped = some pool ∧
        pool.stopPhase = .joining ∧
        ∀ later final, execute step pool later = some final →
          .continueStop ∉ later →
            later.countP PoolAction.isAdvance ≤ 3 := by
  have run :
      (execute step (new 1 1) sampleStopped).map WorkerPool.stopPhase =
        some .joining := rfl
  obtain ⟨pool, run, phase⟩ := Option.map_eq_some_iff.mp run
  obtain ⟨_, _, few⟩ := stop_returns run phase
  refine ⟨pool, run, phase, ?_⟩
  have threads :
      (execute step (new 1 1) sampleStopped).map
          (fun pool => pool.threads.length) =
        some 1 := rfl
  rw [run, Option.map_some, Option.some_inj] at threads
  rw [threads] at few
  exact few

end WorkerPool

end RdmaKvCache
