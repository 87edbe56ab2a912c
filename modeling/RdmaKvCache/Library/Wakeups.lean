import Mathlib.Data.Nat.Basic

/-!
# Condition variables

Threads take units of work under a mutex.  A thread that finds none blocks on a
condition variable until it is notified, or for no reason at all, and then tests
again.  Whoever adds a unit leaves the mutex before it notifies one thread;
whoever closes the store leaves the mutex before it notifies all threads.

Counts are all that matters to whether a wake-up is lost.  While a thread is
blocked there are no more units than notifications due and threads notified, and
the store is closed only as long as the notification of all threads is due.
-/

namespace Wakeups

/-- What is there to take, and how many threads do or wait for what. -/
structure Counts where
  work : Nat
  blocked : Nat
  notified : Nat
  due : Nat
  closed : Bool
  allDue : Bool

/-- The sections of threads that use the mutex and the condition variable. -/
inductive Step : Counts → Counts → Prop where
  /-- A unit is added, and one notification is due. -/
  | add (counts : Counts) :
      Step counts
        { counts with work := counts.work + 1, due := counts.due + 1 }
  | notify {work blocked notified due : Nat} {closed allDue : Bool} :
      Step ⟨work, blocked + 1, notified, due + 1, closed, allDue⟩
        ⟨work, blocked, notified + 1, due, closed, allDue⟩
  | notifyNobody {work notified due : Nat} {closed allDue : Bool} :
      Step ⟨work, 0, notified, due + 1, closed, allDue⟩
        ⟨work, 0, notified, due, closed, allDue⟩
  /-- A blocked thread wakes up by itself. -/
  | wake {work blocked notified due : Nat} {closed allDue : Bool} :
      Step ⟨work, blocked + 1, notified, due, closed, allDue⟩
        ⟨work, blocked, notified + 1, due, closed, allDue⟩
  | take {work blocked notified due : Nat} {closed allDue : Bool} :
      Step ⟨work + 1, blocked, notified, due, closed, allDue⟩
        ⟨work, blocked, notified, due, closed, allDue⟩
  | takeNotified {work blocked notified due : Nat} {closed allDue : Bool} :
      Step ⟨work + 1, blocked, notified + 1, due, closed, allDue⟩
        ⟨work, blocked, notified, due, closed, allDue⟩
  | block {blocked notified due : Nat} {allDue : Bool} :
      Step ⟨0, blocked, notified, due, false, allDue⟩
        ⟨0, blocked + 1, notified, due, false, allDue⟩
  | blockNotified {blocked notified due : Nat} {allDue : Bool} :
      Step ⟨0, blocked, notified + 1, due, false, allDue⟩
        ⟨0, blocked + 1, notified, due, false, allDue⟩
  /-- A notified thread finds the store closed and nothing left in it. -/
  | leaveNotified {blocked notified due : Nat} {allDue : Bool} :
      Step ⟨0, blocked, notified + 1, due, true, allDue⟩
        ⟨0, blocked, notified, due, true, allDue⟩
  | close (counts : Counts) :
      Step counts { counts with closed := true, allDue := true }
  | notifyAll (counts : Counts) :
      Step counts
        { counts with
          blocked := 0
          notified := counts.notified + counts.blocked
          allDue := false }

/-- No thread is blocked that nobody is going to wake up. -/
structure Awaited (counts : Counts) : Prop where
  work : 0 < counts.blocked → counts.work ≤ counts.due + counts.notified
  closed : 0 < counts.blocked → counts.closed = true → counts.allDue = true

namespace Awaited

variable {counts next : Counts}

theorem of_none_blocked (none : counts.blocked = 0) : Awaited counts where
  work := fun some => absurd none (Nat.ne_of_gt some)
  closed := fun some => absurd none (Nat.ne_of_gt some)

theorem step (awaited : Awaited counts) (taken : Step counts next) :
    Awaited next := by
  obtain ⟨work, closed⟩ := awaited
  cases taken with
  | add =>
      refine ⟨?_, closed⟩
      intro someBlocked
      have enough := work someBlocked
      show counts.work + 1 ≤ counts.due + 1 + counts.notified
      omega
  | notify | wake =>
      constructor
      · intro someBlocked
        have enough := work (Nat.succ_pos _)
        dsimp only at enough ⊢
        omega
      · intro someBlocked
        exact closed (Nat.succ_pos _)
  | notifyNobody | notifyAll =>
      exact of_none_blocked rfl
  | take | takeNotified =>
      refine ⟨?_, closed⟩
      intro someBlocked
      have enough := work someBlocked
      dsimp only at enough ⊢
      omega
  | block | blockNotified =>
      constructor
      · intro _
        exact Nat.zero_le _
      · intro _ isClosed
        cases isClosed
  | leaveNotified =>
      refine ⟨?_, closed⟩
      intro _
      exact Nat.zero_le _
  | close =>
      exact ⟨work, fun _ _ => rfl⟩

end Awaited

end Wakeups
