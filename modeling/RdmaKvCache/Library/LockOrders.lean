import RdmaKvCache.Library.LabelledRuns
import RdmaKvCache.Library.ScopedLocks
import Mathlib.Algebra.BigOperators.Group.Finset.Basic
import Mathlib.Algebra.Order.BigOperators.Group.Finset
import Mathlib.Algebra.Ring.Nat
import Mathlib.Data.Fintype.Basic
import Mathlib.Logic.Relation
import Mathlib.Order.WellFounded

/-!
# Lock orders

Threads that share mutexes.  Of each thread the development keeps its locking
program: where it acquires and releases mutexes, and where the rest of its code
decides to branch or to repeat.  The mutexes have ranks, and a program follows
the ranks when it acquires a mutex only while everything it holds has a lower
rank.

When all programs follow the ranks, no threads wait for one another in a circle,
and the threads that wait can be led on.  A program may also come to places
where it acquires a mutex that it holds already; there the thread waits for
itself, and every circle of waits has such a thread on it.  Threads may be
interrupted: a handler then runs before the rest of their programs.
-/

namespace LockOrders

open ScopedLocks (LockMode)

universe u v w

inductive LockProgram (Lock : Type u) where
  | skip
  | acquire (lock : Lock) (mode : LockMode)
  | release (lock : Lock)
  | seq (first second : LockProgram Lock)
  | either (first second : LockProgram Lock)
  | loop (body : LockProgram Lock)
  | pick (choices : Nat → LockProgram Lock)

namespace LockProgram

variable {Lock : Type u}

/-- A scope that holds a mutex. -/
def locked (lock : Lock) (mode : LockMode) (body : LockProgram Lock) :
    LockProgram Lock :=
  .seq (.acquire lock mode) (.seq body (.release lock))

def sequence : List (LockProgram Lock) → LockProgram Lock
  | [] => .skip
  | program :: rest => .seq program (sequence rest)

def optional (program : LockProgram Lock) : LockProgram Lock :=
  .either program .skip

/-- The steps of a program that always takes its first choice. -/
def size : LockProgram Lock → Nat
  | .skip => 1
  | .acquire _ _ => 1
  | .release _ => 1
  | .seq first second => first.size + second.size + 1
  | .either first _ => first.size + 1
  | .loop _ => 1
  | .pick choices => (choices 0).size + 1

end LockProgram

open LockProgram

/-- A mutex held in one of the modes cannot be acquired in the other one. -/
def Conflict (mode other : LockMode) : Prop :=
  ¬(mode = .shared ∧ other = .shared)

/-- What a thread still has to run, and the mutexes it holds. -/
structure Thread (Lock : Type u) where
  code : List (LockProgram Lock)
  held : List (Lock × LockMode)

namespace Thread

variable {Lock : Type u} [DecidableEq Lock]

/-- One step of a thread; `branch` is the choice it makes. -/
def step (free : Lock → LockMode → Bool) (branch : Nat)
    (thread : Thread Lock) : Option (Thread Lock) :=
  match thread.code with
  | [] => none
  | .skip :: rest => some { thread with code := rest }
  | .acquire lock mode :: rest =>
      if free lock mode then
        some { code := rest, held := (lock, mode) :: thread.held }
      else none
  | .release lock :: rest =>
      some
        { code := rest
          held := thread.held.eraseP fun entry => entry.1 = lock }
  | .seq first second :: rest =>
      some { thread with code := first :: second :: rest }
  | .either first second :: rest =>
      some
        { thread with
          code := (if branch = 0 then first else second) :: rest }
  | .loop body :: rest =>
      some
        { thread with
          code := if branch = 0 then rest else body :: .loop body :: rest }
  | .pick choices :: rest =>
      some { thread with code := choices branch :: rest }

def size (thread : Thread Lock) : Nat :=
  (thread.code.map LockProgram.size).sum

/-- The thread is about to acquire `lock`. -/
def Awaits (thread : Thread Lock) (lock : Lock) (mode : LockMode) : Prop :=
  ∃ rest, thread.code = .acquire lock mode :: rest

/-- The mutex that the thread is about to acquire, if it is at one. -/
def awaited (thread : Thread Lock) : Option (Lock × LockMode) :=
  match thread.code with
  | .acquire lock mode :: _ => some (lock, mode)
  | _ => none

omit [DecidableEq Lock] in
theorem awaits_of_awaited
    {thread : Thread Lock} {lock : Lock} {mode : LockMode}
    (atLock : thread.awaited = some (lock, mode)) :
    thread.Awaits lock mode := by
  unfold awaited at atLock
  split at atLock
  case h_1 rest code =>
    cases atLock
    exact ⟨rest, code⟩
  case h_2 =>
    cases atLock

omit [DecidableEq Lock] in
theorem Awaits.unique
    {thread : Thread Lock} {lock other : Lock} {mode otherMode : LockMode}
    (awaits : thread.Awaits lock mode) (again : thread.Awaits other otherMode) :
    lock = other ∧ mode = otherMode := by
  obtain ⟨rest, code⟩ := awaits
  obtain ⟨otherRest, otherCode⟩ := again
  rw [code] at otherCode
  injection otherCode with same
  injection same with sameLock sameMode
  exact ⟨sameLock, sameMode⟩

variable {free : Lock → LockMode → Bool} {branch : Nat}
variable {thread next : Thread Lock}

/-- A thread that takes its first choices comes to its end. -/
theorem size_step
    (taken : thread.step free 0 = some next) : next.size < thread.size := by
  obtain ⟨code, held⟩ := thread
  cases code with
  | nil =>
      cases taken
  | cons program rest =>
      cases program with
      | acquire lock mode =>
          obtain ⟨_, same⟩ := Option.ite_none_right_eq_some.mp taken
          cases same
          simp [size, LockProgram.size]
      | skip | release _ | seq _ _ | either _ _ | loop _ | pick _ =>
          cases taken
          simp [size, LockProgram.size, Nat.add_assoc]

/-- Only a thread at its end and a thread at a mutex cannot go on. -/
theorem awaits_of_step_none
    (unfinished : thread.code ≠ []) (stopped : thread.step free branch = none) :
    ∃ lock mode, thread.Awaits lock mode ∧ free lock mode = false := by
  obtain ⟨code, held⟩ := thread
  cases code with
  | nil =>
      exact absurd rfl unfinished
  | cons program rest =>
      cases program with
      | acquire lock mode =>
          by_cases isFree : free lock mode = true
          · simp [step, isFree] at stopped
          · exact
              ⟨lock, mode, ⟨rest, rfl⟩, Bool.eq_false_of_not_eq_true isFree⟩
      | skip | release _ | seq _ _ | either _ _ | loop _ | pick _ =>
          cases stopped

end Thread

/-! ## Programs that follow the ranks -/

section Following

variable {Lock : Type u} [DecidableEq Lock]
variable {Rank : Type v} [Preorder Rank]

/-- Everything that is held has a lower rank. -/
def Below (rank : Lock → Rank) (bound : Rank)
    (held : List (Lock × LockMode)) : Prop :=
  ∀ entry ∈ held, rank entry.1 < bound

/-- A program that starts with `held` follows the ranks, and holds `after` at
its end.  It comes to no end where it acquires a mutex that it holds in a
conflicting mode; the mutexes at which it may do so are those of `again`. -/
inductive Follows (rank : Lock → Rank) (again : Lock → Prop) :
    List (Lock × LockMode) → LockProgram Lock →
      List (Lock × LockMode) → Prop where
  | skip (held : List (Lock × LockMode)) : Follows rank again held .skip held
  | acquire {held : List (Lock × LockMode)} {lock : Lock} (mode : LockMode)
      (below : Below rank (rank lock) held) :
      Follows rank again held (.acquire lock mode) ((lock, mode) :: held)
  | acquireAgain {held : List (Lock × LockMode)} {lock : Lock}
      {mode other : LockMode} (after : List (Lock × LockMode))
      (holds : (lock, other) ∈ held) (conflict : Conflict mode other)
      (isAgain : again lock) :
      Follows rank again held (.acquire lock mode) after
  | release (held : List (Lock × LockMode)) (lock : Lock) :
      Follows rank again held (.release lock)
        (held.eraseP fun entry => entry.1 = lock)
  | seq {held middle after : List (Lock × LockMode)}
      {first second : LockProgram Lock}
      (begins : Follows rank again held first middle)
      (ends : Follows rank again middle second after) :
      Follows rank again held (.seq first second) after
  | either {held after : List (Lock × LockMode)}
      {first second : LockProgram Lock}
      (left : Follows rank again held first after)
      (right : Follows rank again held second after) :
      Follows rank again held (.either first second) after
  | loop {held : List (Lock × LockMode)} {body : LockProgram Lock}
      (round : Follows rank again held body held) :
      Follows rank again held (.loop body) held
  | pick {held after : List (Lock × LockMode)}
      {choices : Nat → LockProgram Lock}
      (each : ∀ choice, Follows rank again held (choices choice) after) :
      Follows rank again held (.pick choices) after

/-- A program that ends with what it starts with. -/
abbrev Keeps (rank : Lock → Rank) (again : Lock → Prop)
    (held : List (Lock × LockMode)) (program : LockProgram Lock) : Prop :=
  Follows rank again held program held

/-- What a thread has to run follows the ranks, and it holds nothing at its
end. -/
inductive FollowsAll (rank : Lock → Rank) (again : Lock → Prop) :
    List (Lock × LockMode) → List (LockProgram Lock) → Prop where
  | nil : FollowsAll rank again [] []
  | cons {held middle : List (Lock × LockMode)}
      {program : LockProgram Lock} {rest : List (LockProgram Lock)}
      (begins : Follows rank again held program middle)
      (ends : FollowsAll rank again middle rest) :
      FollowsAll rank again held (program :: rest)

variable {rank : Lock → Rank} {again : Lock → Prop}
variable {held : List (Lock × LockMode)}

omit [DecidableEq Lock] in
theorem Below.mono
    {bound larger : Rank} (le : bound ≤ larger)
    (below : Below rank bound held) :
    Below rank larger held :=
  fun entry member => lt_of_lt_of_le (below entry member) le

omit [DecidableEq Lock] in
theorem Below.cons
    {bound : Rank} {lock : Lock} {mode : LockMode}
    (lower : rank lock < bound) (below : Below rank bound held) :
    Below rank bound ((lock, mode) :: held) := by
  intro entry member
  rcases List.mem_cons.mp member with rfl | before
  · exact lower
  · exact below entry before

theorem eraseP_cons_self (lock : Lock) (mode : LockMode) :
    ((lock, mode) :: held).eraseP (fun entry => entry.1 = lock) = held :=
  List.eraseP_cons_of_pos (by simp)

theorem eraseP_cons_of_ne
    {lock other : Lock} (different : other ≠ lock) (mode : LockMode) :
    ((other, mode) :: held).eraseP (fun entry => entry.1 = lock) =
      (other, mode) :: held.eraseP fun entry => entry.1 = lock :=
  List.eraseP_cons_of_neg (by simpa using different)

theorem follows_release (lock : Lock) (mode : LockMode) :
    Follows rank again ((lock, mode) :: held) (.release lock) held := by
  have released :
      Follows rank again ((lock, mode) :: held) (.release lock)
        (((lock, mode) :: held).eraseP fun entry => entry.1 = lock) :=
    .release ((lock, mode) :: held) lock
  rwa [eraseP_cons_self] at released

/-- The mutex acquired last stays when the one before it is released. -/
theorem follows_release_below
    {lock other : Lock} (different : other ≠ lock) (mode otherMode : LockMode) :
    Follows rank again ((other, otherMode) :: (lock, mode) :: held)
      (.release lock) ((other, otherMode) :: held) := by
  have released :
      Follows rank again ((other, otherMode) :: (lock, mode) :: held)
        (.release lock)
        (((other, otherMode) :: (lock, mode) :: held).eraseP
          fun entry => entry.1 = lock) :=
    .release ((other, otherMode) :: (lock, mode) :: held) lock
  rwa [eraseP_cons_of_ne different, eraseP_cons_self] at released

/-- A scope of a mutex that follows the ranks inside. -/
theorem keeps_locked
    {lock : Lock} {mode : LockMode} {body : LockProgram Lock}
    (below : Below rank (rank lock) held)
    (inside : Keeps rank again ((lock, mode) :: held) body) :
    Keeps rank again held (locked lock mode body) :=
  .seq (.acquire mode below) (.seq inside (follows_release lock mode))

theorem keeps_optional
    {program : LockProgram Lock} (keeps : Keeps rank again held program) :
    Keeps rank again held (optional program) :=
  .either keeps (.skip held)

theorem FollowsAll.held_eq_nil
    (follows : FollowsAll rank again held []) : held = [] := by
  cases follows
  rfl

/-- The thread acquires a mutex that it holds. -/
def Thread.WaitsForItself (again : Lock → Prop) (thread : Thread Lock) : Prop :=
  ∃ lock mode other, thread.Awaits lock mode ∧
    (lock, other) ∈ thread.held ∧ Conflict mode other ∧ again lock

/-- Every mutex that is held has a lower rank than the one that is acquired, or
that one is held. -/
theorem FollowsAll.below_of_acquire
    {lock : Lock} {mode : LockMode} {rest : List (LockProgram Lock)}
    (follows : FollowsAll rank again held (.acquire lock mode :: rest)) :
    Below rank (rank lock) held ∨
      ∃ other, (lock, other) ∈ held ∧ Conflict mode other ∧ again lock := by
  cases follows with
  | cons begins _ =>
      cases begins with
      | acquire _ below =>
          exact Or.inl below
      | acquireAgain _ holds conflict isAgain =>
          exact Or.inr ⟨_, holds, conflict, isAgain⟩

/-- A step of a thread leaves it with a program that follows the ranks, if no
mutex is free that the thread itself holds in a conflicting mode. -/
theorem FollowsAll.step
    {thread next : Thread Lock} {free : Lock → LockMode → Bool} {branch : Nat}
    (notFree :
      ∀ lock mode other, (lock, other) ∈ thread.held →
        Conflict mode other → free lock mode = false)
    (follows : FollowsAll rank again thread.held thread.code)
    (taken : thread.step free branch = some next) :
    FollowsAll rank again next.held next.code := by
  obtain ⟨code, held⟩ := thread
  cases follows with
  | nil =>
      cases taken
  | cons begins ends =>
      cases begins with
      | skip =>
          cases taken
          exact ends
      | acquire mode below =>
          obtain ⟨_, same⟩ := Option.ite_none_right_eq_some.mp taken
          cases same
          exact ends
      | acquireAgain after holds conflict _ =>
          obtain ⟨isFree, _⟩ := Option.ite_none_right_eq_some.mp taken
          rw [notFree _ _ _ holds conflict] at isFree
          cases isFree
      | release =>
          cases taken
          exact ends
      | seq begins continues =>
          cases taken
          exact .cons begins (.cons continues ends)
      | either left right =>
          cases taken
          by_cases first : branch = 0
          · simp only [first, if_true]
            exact .cons left ends
          · simp only [first, if_false]
            exact .cons right ends
      | loop round =>
          cases taken
          by_cases stops : branch = 0
          · simp only [stops, if_true]
            exact ends
          · simp only [stops, if_false]
            exact .cons round (.cons (.loop round) ends)
      | pick each =>
          cases taken
          exact .cons (each branch) ends

end Following

/-! ## Threads that share the mutexes -/

section Sharing

variable {ι : Type w}
variable {Lock : Type u} [DecidableEq Lock]

/-- No thread holds the mutex in a way that keeps others from this mode. -/
def Free (threads : ι → Thread Lock) (lock : Lock) (mode : LockMode) : Prop :=
  ∀ index, ∀ entry ∈ (threads index).held, entry.1 = lock →
    mode = .shared ∧ entry.2 = .shared

/-- A thread cannot acquire a mutex because of how another one holds it, or
itself. -/
def WaitsFor (threads : ι → Thread Lock) (index holder : ι) : Prop :=
  ∃ lock mode, (threads index).Awaits lock mode ∧
    ∃ other, (lock, other) ∈ (threads holder).held ∧ Conflict mode other

/-- A thread may have to wait for a holder of the mutex that it acquires, in
whatever modes: a mutex need not let readers in while a writer waits. -/
def MayWaitFor (threads : ι → Thread Lock) (index holder : ι) : Prop :=
  ∃ lock mode, (threads index).Awaits lock mode ∧
    ∃ other, (lock, other) ∈ (threads holder).held

variable {Rank : Type v} [Preorder Rank]

/-- The programs of all threads follow the ranks. -/
def Ordered (rank : Lock → Rank) (again : Lock → Prop)
    (threads : ι → Thread Lock) : Prop :=
  ∀ index, FollowsAll rank again (threads index).held (threads index).code

variable {rank : Lock → Rank} {again : Lock → Prop}
variable {threads : ι → Thread Lock}

/-! ### Waiting -/

omit [DecidableEq Lock] in
theorem WaitsFor.mayWaitFor
    {index holder : ι} (waits : WaitsFor threads index holder) :
    MayWaitFor threads index holder := by
  obtain ⟨lock, mode, awaits, other, member, _⟩ := waits
  exact ⟨lock, mode, awaits, other, member⟩

/-- A thread that holds a mutex is not at its end. -/
theorem Ordered.code_ne_nil_of_mayWaitFor
    {index holder : ι} (ordered : Ordered rank again threads)
    (waits : MayWaitFor threads index holder) :
    (threads holder).code ≠ [] := by
  obtain ⟨_, _, _, _, member⟩ := waits
  intro ended
  have follows := ordered holder
  rw [ended] at follows
  rw [follows.held_eq_nil] at member
  cases member

/-- The mutex that a waiting thread is about to acquire has a lower rank than
the one that its holder waits for, unless the holder waits for itself. -/
theorem Ordered.rank_lt_of_mayWaitFor
    {index holder : ι} (ordered : Ordered rank again threads)
    (waits : MayWaitFor threads index holder)
    {lock other : Lock} {mode otherMode : LockMode}
    (awaits : (threads index).Awaits lock mode)
    (holderAwaits : (threads holder).Awaits other otherMode) :
    rank lock < rank other ∨ (threads holder).WaitsForItself again := by
  obtain ⟨awaited, _, awaitsIt, held, member⟩ := waits
  obtain ⟨rfl, rfl⟩ := awaits.unique awaitsIt
  have ⟨rest, code⟩ := holderAwaits
  rcases (code ▸ ordered holder).below_of_acquire with
    below | ⟨heldMode, holds, conflict, isAgain⟩
  · exact Or.inl (below _ member)
  · exact
      Or.inr
        ⟨other, otherMode, heldMode, holderAwaits, holds, conflict, isAgain⟩

/-- Along a chain of waits the ranks of the awaited mutexes grow, unless there
is a thread on it that waits for itself. -/
theorem Ordered.rank_lt_of_chain
    {index last : ι} (ordered : Ordered rank again threads)
    (chain : Relation.TransGen (MayWaitFor threads) index last)
    {lock : Lock} {mode : LockMode}
    (awaits : (threads index).Awaits lock mode) :
    (∃ stuck, Relation.TransGen (MayWaitFor threads) index stuck ∧
      Relation.ReflTransGen (MayWaitFor threads) stuck last ∧
        (threads stuck).WaitsForItself again) ∨
      ∀ other otherMode, (threads last).Awaits other otherMode →
        rank lock < rank other := by
  induction chain with
  | @single last waits =>
      by_cases itself : (threads last).WaitsForItself again
      · exact Or.inl ⟨last, .single waits, .refl, itself⟩
      · refine Or.inr fun other otherMode holderAwaits => ?_
        exact
          (ordered.rank_lt_of_mayWaitFor waits awaits
            holderAwaits).resolve_right itself
  | @tail middle last before waits inductionHypothesis =>
      rcases inductionHypothesis with ⟨stuck, start, rest, itself⟩ | larger
      · exact Or.inl ⟨stuck, start, rest.tail waits, itself⟩
      · by_cases itself : (threads last).WaitsForItself again
        · exact Or.inl ⟨last, before.tail waits, .refl, itself⟩
        · refine Or.inr fun other otherMode holderAwaits => ?_
          have ⟨awaited, awaitedMode, middleAwaits, _⟩ := waits
          have step :=
            (ordered.rank_lt_of_mayWaitFor waits middleAwaits
              holderAwaits).resolve_right itself
          exact lt_trans (larger awaited awaitedMode middleAwaits) step

/-- On every circle of waits there is a thread that waits for itself. -/
theorem Ordered.exists_waitsForItself
    {index : ι} (ordered : Ordered rank again threads)
    (circle : Relation.TransGen (MayWaitFor threads) index index) :
    ∃ stuck, Relation.TransGen (MayWaitFor threads) index stuck ∧
      Relation.ReflTransGen (MayWaitFor threads) stuck index ∧
        (threads stuck).WaitsForItself again := by
  obtain ⟨_, ⟨lock, mode, awaits, _⟩, _⟩ :=
    Relation.TransGen.head'_iff.mp circle
  rcases ordered.rank_lt_of_chain circle awaits with found | larger
  · exact found
  · exact absurd (larger lock mode awaits) (lt_irrefl _)

/-! ### Going on -/

variable [Fintype ι]

instance decidableFree
    (threads : ι → Thread Lock) (lock : Lock) (mode : LockMode) :
    Decidable (Free threads lock mode) :=
  inferInstanceAs (Decidable (∀ index, ∀ entry ∈ (threads index).held,
    entry.1 = lock → mode = .shared ∧ entry.2 = .shared))

/-- The thread can take a step with its first choice. -/
def CanGoOn (threads : ι → Thread Lock) (index : ι) : Prop :=
  ((threads index).step (fun lock mode => Free threads lock mode) 0).isSome =
    true

/-- A thread that cannot go on is at its end or waits for a thread. -/
theorem waitsFor_of_not_canGoOn
    {index : ι} (unfinished : (threads index).code ≠ [])
    (stopped : ¬CanGoOn threads index) :
    ∃ holder, WaitsFor threads index holder := by
  have stays := Option.not_isSome_iff_eq_none.mp stopped
  obtain ⟨lock, mode, awaits, notFree⟩ :=
    Thread.awaits_of_step_none unfinished stays
  have held := of_decide_eq_false notFree
  simp only [Free, not_forall] at held
  obtain ⟨holder, ⟨awaited, otherMode⟩, member, rfl, conflict⟩ := held
  exact ⟨holder, awaited, mode, awaits, otherMode, member, conflict⟩

/-- The awaited ranks grow along a chain of waits, so the chain ends. -/
theorem Ordered.exists_canGoOn_of_waitsFor
    [WellFoundedGT Rank] (ordered : Ordered rank again threads)
    {index holder : ι} (waits : WaitsFor threads index holder)
    {lock : Lock} {mode : LockMode}
    (awaits : (threads index).Awaits lock mode) :
    ∃ last, Relation.ReflTransGen (WaitsFor threads) index last ∧
      (CanGoOn threads last ∨ (threads last).WaitsForItself again) := by
  generalize height : rank lock = bound
  induction bound using WellFoundedGT.induction generalizing
      index holder lock mode with
  | ind bound inductionHypothesis =>
      by_cases goes : CanGoOn threads holder
      · exact ⟨holder, .single waits, Or.inl goes⟩
      obtain ⟨next, holderWaits⟩ :=
        waitsFor_of_not_canGoOn
          (ordered.code_ne_nil_of_mayWaitFor waits.mayWaitFor) goes
      obtain ⟨other, otherMode, holderAwaits, _⟩ := id holderWaits
      rcases ordered.rank_lt_of_mayWaitFor waits.mayWaitFor awaits
          holderAwaits with
        larger | itself
      · obtain ⟨last, chain, settled⟩ :=
          inductionHypothesis (rank other) (height ▸ larger) holderWaits
            holderAwaits rfl
        exact ⟨last, .head waits chain, settled⟩
      · exact ⟨holder, .single waits, Or.inr itself⟩

/-- From a thread that is not at its end the waits lead to one that can go on,
or to one that waits for itself. -/
theorem Ordered.exists_canGoOn
    [WellFoundedGT Rank] (ordered : Ordered rank again threads)
    {index : ι} (unfinished : (threads index).code ≠ []) :
    ∃ last, Relation.ReflTransGen (WaitsFor threads) index last ∧
      (CanGoOn threads last ∨ (threads last).WaitsForItself again) := by
  by_cases goes : CanGoOn threads index
  · exact ⟨index, .refl, Or.inl goes⟩
  · obtain ⟨holder, waits⟩ := waitsFor_of_not_canGoOn unfinished goes
    obtain ⟨lock, mode, awaits, _⟩ := id waits
    exact ordered.exists_canGoOn_of_waitsFor waits awaits

omit [Fintype ι] [DecidableEq Lock] in
theorem not_free
    {threads : ι → Thread Lock} {index : ι}
    {lock : Lock} {mode other : LockMode}
    (holds : (lock, other) ∈ (threads index).held)
    (conflict : Conflict mode other) :
    ¬Free threads lock mode :=
  fun isFree => conflict (isFree index (lock, other) holds rfl)

/-! ### Steps -/

/-- A thread takes a step with some choice, or is interrupted. -/
inductive Action (ι : Type w) where
  | run (index : ι) (branch : Nat)
  | interrupt (index : ι)

def Action.isRun : Action ι → Bool
  | .run _ _ => true
  | .interrupt _ => false

variable [DecidableEq ι]

/-- Run the handler before the rest of a thread that is not at its end. -/
def Thread.interrupt (handler : LockProgram Lock) (thread : Thread Lock) :
    Option (Thread Lock) :=
  match thread.code with
  | [] => none
  | program :: rest => some { thread with code := handler :: program :: rest }

def step (handler : LockProgram Lock) (threads : ι → Thread Lock) :
    Action ι → Option (ι → Thread Lock)
  | .run index branch =>
      ((threads index).step (fun lock mode => Free threads lock mode)
        branch).map (Function.update threads index)
  | .interrupt index =>
      ((threads index).interrupt handler).map (Function.update threads index)

variable {handler : LockProgram Lock}

omit [Preorder Rank] in
/-- Where nothing is interrupted the handler does not matter. -/
theorem execute_eq_of_isRun
    (handler other : LockProgram Lock) {actions : List (Action ι)}
    (runs : ∀ action ∈ actions, action.isRun = true)
    (threads : ι → Thread Lock) :
    LabelledRuns.execute (LockOrders.step handler) threads actions =
      LabelledRuns.execute (LockOrders.step other) threads actions := by
  induction actions generalizing threads with
  | nil =>
      rfl
  | cons action rest inductionHypothesis =>
      obtain ⟨isRun, restRuns⟩ := List.forall_mem_cons.mp runs
      have same :
          LockOrders.step handler threads action =
            LockOrders.step other threads action := by
        cases action with
        | run index branch =>
            rfl
        | interrupt index =>
            cases isRun
      rw [LabelledRuns.execute, LabelledRuns.execute, same]
      congr 1
      funext next
      exact inductionHypothesis restRuns next

theorem Ordered.step
    {action : Action ι} {after : ι → Thread Lock}
    (handled : ∀ held, Keeps rank again held handler)
    (ordered : Ordered rank again threads)
    (taken : LockOrders.step handler threads action = some after) :
    Ordered rank again after := by
  intro index
  cases action with
  | run mover branch =>
      obtain ⟨next, stepped, rfl⟩ := Option.map_eq_some_iff.mp taken
      by_cases moves : index = mover
      · subst moves
        rw [Function.update_self]
        refine (ordered index).step ?_ stepped
        intro lock mode other holds conflict
        exact decide_eq_false (not_free holds conflict)
      · rw [Function.update_of_ne moves]
        exact ordered index
  | interrupt interrupted =>
      obtain ⟨next, stepped, rfl⟩ := Option.map_eq_some_iff.mp taken
      by_cases moves : index = interrupted
      · subst moves
        rw [Function.update_self]
        unfold Thread.interrupt at stepped
        split at stepped
        case h_1 =>
          cases stepped
        case h_2 program rest code =>
          cases stepped
          exact .cons (handled _) (code ▸ ordered index)
      · rw [Function.update_of_ne moves]
        exact ordered index

/-- The programs follow the ranks in every run, whatever is interrupted. -/
theorem Ordered.execute
    {actions : List (Action ι)} {final : ι → Thread Lock}
    (handled : ∀ held, Keeps rank again held handler)
    (ordered : Ordered rank again threads)
    (run :
      LabelledRuns.execute (LockOrders.step handler) threads actions =
        some final) :
    Ordered rank again final :=
  LabelledRuns.invariant_of_execute
    (fun _ _ _ taken holds => holds.step handled taken) run ordered

/-! ### Running the threads on -/

/-- A thread that takes its first choice has less left to run. -/
theorem sum_size_update
    {index : ι} {next : Thread Lock}
    (stepped :
      (threads index).step (fun lock mode => Free threads lock mode) 0 =
        some next) :
    ∑ each, (Function.update threads index next each).size <
      ∑ each, (threads each).size := by
  have smaller : next.size < (threads index).size := Thread.size_step stepped
  refine Finset.sum_lt_sum (fun each _ => ?_)
    ⟨index, Finset.mem_univ index, ?_⟩
  · by_cases moves : each = index
    · subst moves
      rw [Function.update_self]
      exact Nat.le_of_lt smaller
    · rw [Function.update_of_ne moves]
  · rw [Function.update_self]
    exact smaller

/-- The threads can be run on until each is at its end, or the waits lead from
it to a thread that waits for itself. -/
theorem Ordered.exists_settled
    [WellFoundedGT Rank] (handled : ∀ held, Keeps rank again held handler)
    (ordered : Ordered rank again threads) :
    ∃ actions settled,
      (∀ action ∈ actions, action.isRun = true) ∧
        LabelledRuns.execute (LockOrders.step handler) threads actions =
          some settled ∧
        ∀ index, (settled index).code = [] ∨
          ∃ last, Relation.ReflTransGen (WaitsFor settled) index last ∧
            (settled last).WaitsForItself again := by
  generalize length : ∑ each, (threads each).size = total
  induction total using Nat.strong_induction_on generalizing threads with
  | h total inductionHypothesis =>
      by_cases goes : ∃ index, CanGoOn threads index
      · obtain ⟨index, canGoOn⟩ := goes
        obtain ⟨next, stepped⟩ := Option.isSome_iff_exists.mp canGoOn
        have taken :
            LockOrders.step handler threads (.run index 0) =
              some (Function.update threads index next) := by
          simp only [LockOrders.step, stepped, Option.map_some]
        obtain ⟨actions, settled, runs, run, each⟩ :=
          inductionHypothesis _ (length ▸ sum_size_update stepped)
            (ordered.step handled taken) rfl
        refine
          ⟨.run index 0 :: actions, settled,
            List.forall_mem_cons.mpr ⟨rfl, runs⟩, ?_, each⟩
        rw [LabelledRuns.execute, taken]
        exact run
      · refine ⟨[], threads, List.forall_mem_nil _, rfl, fun index => ?_⟩
        by_cases ended : (threads index).code = []
        · exact Or.inl ended
        · obtain ⟨last, chain, canGoOn | itself⟩ :=
            ordered.exists_canGoOn ended
          · exact absurd ⟨last, canGoOn⟩ goes
          · exact Or.inr ⟨last, chain, itself⟩

end Sharing

end LockOrders
