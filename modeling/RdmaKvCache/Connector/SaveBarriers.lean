import RdmaKvCache.Connector.SendQueues

/-!
# Waiting for the saves

`wait_for_save` polls one completion, whatever has been posted.  The queue pair
completes the writes in the order in which they are posted, and the completions of
the signaled ones, every eighth over the whole life of the bindings, can be polled.
-/

namespace RdmaKvCache

open SignaledBatches

/-- A posted write is signaled if its number is a multiple of eight. -/
theorem RDMABindings.rdmaWrite_signaled
    {bindings next : RDMABindings} {accepts : UInt32 → SendWorkRequest → Bool}
    {peerId : ByteString} {localAddr remoteOffset size : UInt64}
    {immData : UInt32} {qpNum : UInt32} {request : SendWorkRequest}
    (posted :
      bindings.rdmaWrite accepts peerId localAddr remoteOffset size immData =
        (.posted qpNum request, next)) :
    next.writeCounter = bindings.writeCounter + 1 ∧
      request.signaled = decide (next.writeCounter.toNat % 8 = 0) := by
  obtain ⟨_, _, _, sent, isNext⟩ := rdmaWrite_eq_posted posted
  obtain ⟨_, _, _, _, _, isRequest, _⟩ :=
    RDMAEngine.postWriteExternal_eq_posted_iff.mp (congrArg Prod.fst sent)
  rw [isNext, isRequest]
  exact ⟨rfl, lastOfBatch_iff _⟩

inductive WaitPhase where
  | running
  | waiting
  | returned
  deriving DecidableEq

/-- The bindings, and of the writes to the peer whether they are signaled, the
oldest first. -/
structure SaveBarrier where
  bindings : RDMABindings
  /-- The writes that are posted and not complete. -/
  uncompleted : List Bool := []
  /-- The completions that are not polled. -/
  sendCq : Nat := 0
  /-- The writes since a wait has returned true. -/
  pending : List Bool := []
  /-- Some write has been posted since a wait has returned. -/
  posted : Bool := false
  phase : WaitPhase := .running

/-- A wait ends with true when a completion is polled, or with false when polling
fails. -/
inductive BarrierAction where
  | write (accepts : UInt32 → SendWorkRequest → Bool) (write : PeerWrite)
  | complete
  | callWait
  | returnTrue
  | returnFalse

namespace SaveBarrier

def start (bindings : RDMABindings) : SaveBarrier where
  bindings := bindings

/-- A write that is not posted still counts for the next signal if its memory is
registered. -/
def rdmaWrite
    (peerId : ByteString) (barrier : SaveBarrier)
    (accepts : UInt32 → SendWorkRequest → Bool) (write : PeerWrite) :
    SaveBarrier :=
  let (outcome, bindings) :=
    barrier.bindings.rdmaWrite accepts peerId write.localAddr
      write.remoteOffset write.size write.immData
  match outcome with
  | .posted _ request =>
      { barrier with
        bindings := bindings
        uncompleted := barrier.uncompleted ++ [request.signaled]
        pending := barrier.pending ++ [request.signaled]
        posted := true
        phase := .running }
  | _ => { barrier with bindings := bindings, phase := .running }

def step (peerId : ByteString) (barrier : SaveBarrier) :
    BarrierAction → Option SaveBarrier
  | .write accepts write =>
      if barrier.phase = .waiting then
        none
      else
        some (barrier.rdmaWrite peerId accepts write)
  | .complete =>
      match barrier.uncompleted with
      | [] => none
      | signaled :: rest =>
          some
            { barrier with
              uncompleted := rest
              sendCq := barrier.sendCq + if signaled then 1 else 0 }
  | .callWait =>
      if barrier.phase = .waiting then
        none
      else
        some { barrier with phase := .waiting }
  | .returnTrue =>
      if barrier.phase = .waiting ∧ 0 < barrier.sendCq then
        some
          { barrier with
            sendCq := barrier.sendCq - 1
            pending := []
            posted := false
            phase := .returned }
      else
        none
  | .returnFalse =>
      if barrier.phase = .waiting then
        some { barrier with posted := false, phase := .running }
      else
        none

/-- All is complete when a wait returns true, and one that is called after some
write has been posted can return. -/
structure GetsThrough (barrier : SaveBarrier) : Prop where
  complete : barrier.phase = .returned → barrier.uncompleted = []
  unreaped :
    barrier.phase = .waiting → barrier.posted = true →
      0 < barrier.sendCq + barrier.uncompleted.count true

/-- Nothing is to be waited for, or the last write is the only signaled one. -/
def MayWait (barrier : SaveBarrier) : Prop :=
  barrier.pending = [] ∨ OnlyLast barrier.pending

def Condition (barrier : SaveBarrier) : BarrierAction → Prop
  | .callWait => barrier.MayWait
  | _ => True

instance (barrier : SaveBarrier) : Decidable barrier.MayWait :=
  inferInstanceAs (Decidable (_ ∨ _))

instance (barrier : SaveBarrier) (action : BarrierAction) :
    Decidable (barrier.Condition action) := by
  cases action <;> unfold Condition <;> infer_instance

/-! ## What a wait leaves -/

/-- The completions that are not polled are those of the writes since the last
wait that returned true. -/
structure Clean (barrier : SaveBarrier) : Prop where
  split :
    ∃ completed,
      barrier.pending = completed ++ barrier.uncompleted ∧
        barrier.sendCq = completed.count true
  waiting : barrier.phase = .waiting → barrier.MayWait
  returned : barrier.phase = .returned → barrier.uncompleted = []
  posted : barrier.posted = true → barrier.pending ≠ []

variable {peerId : ByteString} {barrier next : SaveBarrier}

theorem clean_start (bindings : RDMABindings) : (start bindings).Clean where
  split := ⟨[], rfl, rfl⟩
  waiting := fun isWaiting => by cases isWaiting
  returned := fun isReturned => by cases isReturned
  posted := fun isPosted => by cases isPosted

theorem Clean.rdmaWrite
    (clean : barrier.Clean) (accepts : UInt32 → SendWorkRequest → Bool)
    (write : PeerWrite) :
    (barrier.rdmaWrite peerId accepts write).Clean := by
  obtain ⟨completed, split, polled⟩ := clean.split
  rw [SaveBarrier.rdmaWrite]
  rcases barrier.bindings.rdmaWrite accepts peerId write.localAddr
      write.remoteOffset write.size write.immData with ⟨outcome, bindings⟩
  have unposted :
      Clean { barrier with bindings := bindings, phase := .running } :=
    { split := ⟨completed, split, polled⟩
      waiting := fun isWaiting => by cases isWaiting
      returned := fun isReturned => by cases isReturned
      posted := clean.posted }
  cases outcome with
  | posted qpNum request =>
      refine ⟨⟨completed, ?_, polled⟩, ?_, ?_, ?_⟩
      · simp only [split, List.append_assoc]
      · intro isWaiting
        cases isWaiting
      · intro isReturned
        cases isReturned
      · intro _
        exact List.concat_ne_nil _ _
  | refused =>
      exact unposted
  | nothingToPost =>
      exact unposted
  | nullQueuePair =>
      exact unposted

theorem Clean.complete
    (clean : barrier.Clean) (taken : barrier.step peerId .complete = some next) :
    next.Clean := by
  obtain ⟨completed, split, polled⟩ := clean.split
  rw [SaveBarrier.step] at taken
  cases left : barrier.uncompleted with
  | nil =>
      rw [left] at taken
      cases taken
  | cons signaled rest =>
      rw [left] at taken
      cases taken
      refine ⟨⟨completed ++ [signaled], ?_, ?_⟩, clean.waiting, ?_, clean.posted⟩
      · rw [left] at split
        simp only [split, List.append_assoc, List.singleton_append]
      · rw [List.count_append, polled]
        cases signaled <;> rfl
      · intro isReturned
        have nothing := clean.returned isReturned
        rw [left] at nothing
        cases nothing

/-- A wait that returns true has waited for everything. -/
theorem Clean.returnTrue
    (clean : barrier.Clean)
    (taken : barrier.step peerId .returnTrue = some next) :
    next.Clean := by
  obtain ⟨completed, split, polled⟩ := clean.split
  rw [SaveBarrier.step] at taken
  split at taken
  · rename_i ready
    cases taken
    have onlyLast : OnlyLast barrier.pending := by
      rcases clean.waiting ready.1 with nothing | onlyLast
      · rw [nothing] at split
        obtain ⟨noneCompleted, _⟩ := List.append_eq_nil_iff.mp split.symm
        rw [polled, noneCompleted] at ready
        exact absurd ready.2 (Nat.lt_irrefl 0)
      · exact onlyLast
    rw [split] at onlyLast
    have nothingLeft : barrier.uncompleted = [] :=
      onlyLast.eq_nil (polled ▸ ready.2)
    have once := onlyLast.2
    rw [nothingLeft, List.append_nil, ← polled] at once
    refine ⟨⟨[], ?_, ?_⟩, ?_, fun _ => nothingLeft, ?_⟩
    · rw [nothingLeft]
      rfl
    · simp only [once]
      rfl
    · intro isWaiting
      cases isWaiting
    · intro isPosted
      cases isPosted
  · cases taken

theorem Clean.step
    {action : BarrierAction} (clean : barrier.Clean)
    (taken : barrier.step peerId action = some next)
    (condition : barrier.Condition action) :
    next.Clean := by
  cases action with
  | write accepts write =>
      rw [SaveBarrier.step] at taken
      split at taken
      · cases taken
      · cases taken
        exact clean.rdmaWrite accepts write
  | complete =>
      exact clean.complete taken
  | callWait =>
      rw [SaveBarrier.step] at taken
      split at taken
      · cases taken
      · cases taken
        refine ⟨clean.split, fun _ => condition, ?_, clean.posted⟩
        intro isReturned
        cases isReturned
  | returnTrue =>
      exact clean.returnTrue taken
  | returnFalse =>
      rw [SaveBarrier.step] at taken
      split at taken
      · cases taken
        refine ⟨clean.split, ?_, ?_, ?_⟩
        · intro isWaiting
          cases isWaiting
        · intro isReturned
          cases isReturned
        · intro isPosted
          cases isPosted
      · cases taken

theorem Clean.getsThrough (clean : barrier.Clean) : barrier.GetsThrough where
  complete := clean.returned
  unreaped := by
    intro isWaiting isPosted
    obtain ⟨completed, split, polled⟩ := clean.split
    rcases clean.waiting isWaiting with nothing | onlyLast
    · exact absurd nothing (clean.posted isPosted)
    · have once := onlyLast.2
      rw [split, List.count_append, ← polled] at once
      omega

/-- If at each call of a wait nothing has been posted since the last one that
returned true, or the last write is the only signaled one, then every wait is a
barrier and gets through. -/
theorem wait_getsThrough_of_meets
    {bindings : RDMABindings} {actions : List BarrierAction}
    (meets :
      LabelledRuns.Meets (step peerId) Condition (start bindings) actions) :
    LabelledRuns.Throughout (step peerId) GetsThrough (start bindings)
      actions := by
  have preserved :
      ∀ barrier action next,
        step peerId barrier action = some next →
          barrier.Condition action → barrier.Clean → next.Clean :=
    fun _ _ _ taken condition clean => clean.step taken condition
  exact
    LabelledRuns.throughout_of_meets preserved
      (fun _ clean => clean.getsThrough) meets (clean_start bindings)

/-! ## Waits up to the next one -/

/-- Another wait is called. -/
def callsWait : BarrierAction → Bool
  | .callWait => true
  | _ => false

/-- A wait that is called now is a barrier and gets through, whatever happens before
the next one is called. -/
def WaitWorks (peerId : ByteString) (barrier : SaveBarrier) : Prop :=
  ∀ later final,
    (∀ action ∈ later, callsWait action = false) →
      LabelledRuns.execute (step peerId) barrier (.callWait :: later) =
          some final →
        final.GetsThrough

theorem meets_of_no_calls
    {later : List BarrierAction}
    (noCalls : ∀ action ∈ later, callsWait action = false)
    (barrier : SaveBarrier) :
    LabelledRuns.Meets (step peerId) Condition barrier later := by
  induction later generalizing barrier with
  | nil =>
      trivial
  | cons action rest inductionHypothesis =>
      obtain ⟨noCall, noneLater⟩ := List.forall_mem_cons.mp noCalls
      refine ⟨?_, fun next _ => inductionHypothesis noneLater next⟩
      cases action with
      | callWait =>
          cases noCall
      | write _ _ | complete | returnTrue | returnFalse =>
          trivial

theorem Clean.waitWorks
    (clean : barrier.Clean) (mayWait : barrier.MayWait) :
    WaitWorks peerId barrier := by
  intro later final noCalls run
  have meets :
      LabelledRuns.Meets (SaveBarrier.step peerId) Condition barrier
        (.callWait :: later) :=
    ⟨mayWait, fun next _ => meets_of_no_calls noCalls next⟩
  have preserved :
      ∀ barrier action next,
        SaveBarrier.step peerId barrier action = some next →
          barrier.Condition action → barrier.Clean → next.Clean :=
    fun _ _ _ taken condition clean => clean.step taken condition
  exact
    (LabelledRuns.invariant_of_meets preserved run meets clean).getsThrough

/-- The adapter may complete the first writes before anything else happens. -/
theorem execute_complete
    {earlier left : List Bool}
    (uncompleted : barrier.uncompleted = earlier ++ left) :
    LabelledRuns.execute (step peerId) barrier
        (List.replicate earlier.length .complete) =
      some
        { barrier with
          uncompleted := left
          sendCq := barrier.sendCq + earlier.count true } := by
  induction earlier generalizing barrier with
  | nil =>
      rw [List.nil_append] at uncompleted
      rw [← uncompleted]
      rfl
  | cons signaled rest inductionHypothesis =>
      rw [List.length_cons, List.replicate_succ, LabelledRuns.execute, step,
        uncompleted]
      simp only [List.cons_append, Option.bind_some]
      rw [inductionHypothesis rfl, List.count_cons, Nat.add_assoc]
      cases signaled with
      | false =>
          simp
      | true =>
          simp [Nat.add_comm]

theorem execute_returnTrue
    (isWaiting : barrier.phase = .waiting) (polls : 0 < barrier.sendCq) :
    LabelledRuns.execute (step peerId) barrier [.returnTrue] =
      some
        { barrier with
          sendCq := barrier.sendCq - 1
          pending := []
          posted := false
          phase := .returned } := by
  rw [LabelledRuns.execute, step, if_pos ⟨isWaiting, polls⟩]
  rfl

/-- A wait that is called after some write has been posted, otherwise than the
condition says, can fail to be a barrier or never return. -/
theorem not_waitWorks
    (allLeft : barrier.pending = barrier.uncompleted)
    (noneToPoll : barrier.sendCq = 0) (someWrite : barrier.posted = true)
    (notWaiting : barrier.phase ≠ .waiting) (unmet : ¬barrier.MayWait) :
    ¬WaitWorks peerId barrier := by
  intro works
  have called :
      step peerId barrier .callWait =
        some { barrier with phase := .waiting } := by
    rw [step, if_neg notWaiting]
  rw [MayWait, not_or, allLeft] at unmet
  by_cases signaled : true ∈ barrier.uncompleted
  · obtain ⟨earlier, left, split, noneEarlier, someLeft⟩ :=
      exists_left_of_not_onlyLast unmet.2 signaled
    have firstSignal :
        barrier.uncompleted = (earlier ++ [true]) ++ left := by
      rw [split, List.append_assoc, List.singleton_append]
    let waiting : SaveBarrier := { barrier with phase := .waiting }
    have completes :
        LabelledRuns.execute (step peerId) waiting _ = _ :=
      execute_complete firstSignal
    have polls : 0 < waiting.sendCq + (earlier ++ [true]).count true := by
      rw [List.count_append]
      exact Nat.add_pos_right _ (Nat.add_pos_right _ (by decide))
    have run :=
      LabelledRuns.execute_trans completes (execute_returnTrue rfl polls)
    have getsThrough :=
      works _ _ ?_ (by rw [LabelledRuns.execute, called]; exact run)
    · exact someLeft (getsThrough.complete rfl)
    · intro action member
      rcases List.mem_append.mp member with completing | returning
      · rw [List.eq_of_mem_replicate completing]
        rfl
      · rw [List.mem_singleton.mp returning]
        rfl
  · have getsThrough :=
      works [] _ (fun _ member => by cases member)
        (by rw [LabelledRuns.execute, called]; rfl)
    have unreaped := getsThrough.unreaped rfl someWrite
    simp only [noneToPoll, List.count_eq_zero.mpr signaled] at unreaped
    exact absurd unreaped (by decide)

/-! ## Waits after eight writes -/

/-- The writes that are to be waited for are the first ones of a batch. -/
structure Aligned (barrier : SaveBarrier) : Prop where
  pending : barrier.pending = signals 8 barrier.pending.length
  counter :
    barrier.bindings.writeCounter.toNat % 8 = barrier.pending.length % 8

/-- Each write is posted, and the waits meet the condition. -/
def PostedCondition
    (peerId : ByteString) (barrier : SaveBarrier) : BarrierAction → Prop
  | .write accepts write =>
      ∃ qpNum request,
        (barrier.bindings.rdmaWrite accepts peerId write.localAddr
          write.remoteOffset write.size write.immData).1 =
            .posted qpNum request
  | action => barrier.Condition action

instance (outcome : RDMAEngine.PostOutcome) :
    Decidable (∃ qpNum request, outcome = .posted qpNum request) :=
  match outcome with
  | .posted qpNum request => .isTrue ⟨qpNum, request, rfl⟩
  | .refused => .isFalse (by rintro ⟨_, _, ⟨⟩⟩)
  | .nothingToPost => .isFalse (by rintro ⟨_, _, ⟨⟩⟩)
  | .nullQueuePair => .isFalse (by rintro ⟨_, _, ⟨⟩⟩)

instance (barrier : SaveBarrier) :
    ∀ action, Decidable (PostedCondition peerId barrier action)
  | .write _ _ => inferInstanceAs (Decidable (∃ _ _, _ = _))
  | .complete => inferInstanceAs (Decidable (barrier.Condition .complete))
  | .callWait => inferInstanceAs (Decidable (barrier.Condition .callWait))
  | .returnTrue => inferInstanceAs (Decidable (barrier.Condition .returnTrue))
  | .returnFalse =>
      inferInstanceAs (Decidable (barrier.Condition .returnFalse))

theorem PostedCondition.condition
    {action : BarrierAction}
    (posted : PostedCondition peerId barrier action) :
    barrier.Condition action := by
  cases action with
  | write accepts write =>
      trivial
  | complete =>
      trivial
  | callWait =>
      exact posted
  | returnTrue =>
      trivial
  | returnFalse =>
      trivial

theorem Aligned.mayWait_iff (aligned : barrier.Aligned) :
    barrier.MayWait ↔
      barrier.pending.length = 0 ∨ barrier.pending.length = 8 := by
  rw [MayWait, List.length_eq_zero_iff]
  have oneBatch :
      OnlyLast (signals 8 barrier.pending.length) ↔
        barrier.pending.length = 8 :=
    onlyLast_signals_iff (by decide)
  rw [← aligned.pending] at oneBatch
  rw [oneBatch]

theorem Aligned.rdmaWrite
    {accepts : UInt32 → SendWorkRequest → Bool} {write : PeerWrite}
    (aligned : barrier.Aligned)
    (posted : PostedCondition peerId barrier (.write accepts write)) :
    (barrier.rdmaWrite peerId accepts write).Aligned := by
  obtain ⟨qpNum, request, isPosted⟩ := posted
  rw [SaveBarrier.rdmaWrite]
  rcases written :
      barrier.bindings.rdmaWrite accepts peerId write.localAddr
        write.remoteOffset write.size write.immData with
    ⟨outcome, bindings⟩
  rw [written] at isPosted
  simp only at isPosted
  rw [isPosted] at written ⊢
  obtain ⟨counted, signaled⟩ := RDMABindings.rdmaWrite_signaled written
  have sameBatch :
      bindings.writeCounter.toNat % 8 =
        (barrier.pending.length + 1) % 8 := by
    rw [counted, counter_mod_succ, aligned.counter]
    omega
  constructor
  · simp only [List.length_append, List.length_singleton]
    rw [signals_succ, ← aligned.pending, signaled, sameBatch]
  · simp only [List.length_append, List.length_singleton]
    exact sameBatch

/-- After a wait that returns true the next batch begins. -/
theorem Aligned.returnTrue
    (aligned : barrier.Aligned) (clean : barrier.Clean)
    (taken : barrier.step peerId .returnTrue = some next) :
    next.Aligned := by
  rw [step] at taken
  split at taken
  · rename_i ready
    have wholeBatches : barrier.pending.length % 8 = 0 := by
      rcases aligned.mayWait_iff.mp (clean.waiting ready.1) with none | eight
      · rw [none]
      · rw [eight]
    cases taken
    exact ⟨rfl, aligned.counter.trans wholeBatches⟩
  · cases taken

theorem Aligned.step
    {action : BarrierAction} (aligned : barrier.Aligned)
    (clean : barrier.Clean)
    (taken : barrier.step peerId action = some next)
    (posted : PostedCondition peerId barrier action) :
    next.Aligned := by
  cases action with
  | write accepts write =>
      rw [SaveBarrier.step] at taken
      split at taken
      · cases taken
      · cases taken
        exact aligned.rdmaWrite posted
  | complete =>
      rw [SaveBarrier.step] at taken
      split at taken
      · cases taken
      · cases taken
        exact ⟨aligned.pending, aligned.counter⟩
  | callWait =>
      rw [SaveBarrier.step] at taken
      split at taken
      · cases taken
      · cases taken
        exact ⟨aligned.pending, aligned.counter⟩
  | returnTrue =>
      exact aligned.returnTrue clean taken
  | returnFalse =>
      rw [SaveBarrier.step] at taken
      split at taken
      · cases taken
        exact ⟨aligned.pending, aligned.counter⟩
      · cases taken

theorem clean_aligned_of_execute
    {bindings : RDMABindings} {actions : List BarrierAction}
    (wholeBatches : bindings.writeCounter.toNat % 8 = 0)
    (meets :
      LabelledRuns.Meets (step peerId) (PostedCondition peerId)
        (start bindings) actions)
    (run :
      LabelledRuns.execute (step peerId) (start bindings) actions =
        some barrier) :
    barrier.Clean ∧ barrier.Aligned := by
  have preserved :
      ∀ barrier action next,
        step peerId barrier action = some next →
          PostedCondition peerId barrier action →
            barrier.Clean ∧ barrier.Aligned → next.Clean ∧ next.Aligned := by
    intro barrier action next taken posted holds
    exact
      ⟨holds.1.step taken posted.condition,
        holds.2.step holds.1 taken posted⟩
  exact
    LabelledRuns.invariant_of_meets preserved run meets
      ⟨clean_start bindings, rfl, wholeBatches⟩

/-- While every write is posted, starting with a batch, a wait that is called before
any of the writes is complete works exactly if it is for eight of them. -/
theorem waitWorks_iff_eight
    {bindings : RDMABindings} {actions : List BarrierAction}
    (wholeBatches : bindings.writeCounter.toNat % 8 = 0)
    (meets :
      LabelledRuns.Meets (step peerId) (PostedCondition peerId)
        (start bindings) actions)
    (run :
      LabelledRuns.execute (step peerId) (start bindings) actions =
        some barrier)
    (noneComplete : barrier.pending = barrier.uncompleted)
    (someWrite : barrier.posted = true)
    (notWaiting : barrier.phase ≠ .waiting) :
    WaitWorks peerId barrier ↔ barrier.pending.length = 8 := by
  obtain ⟨clean, aligned⟩ := clean_aligned_of_execute wholeBatches meets run
  have mayWait_iff := aligned.mayWait_iff
  have notNone : barrier.pending.length ≠ 0 := by
    rw [ne_eq, List.length_eq_zero_iff]
    exact clean.posted someWrite
  rw [or_iff_right notNone] at mayWait_iff
  rw [← mayWait_iff]
  constructor
  · intro works
    by_contra unmet
    obtain ⟨completed, split, polled⟩ := clean.split
    rw [noneComplete] at split
    rw [List.self_eq_append_left.mp split] at polled
    exact not_waitWorks noneComplete polled someWrite notWaiting unmet works
  · exact clean.waitWorks

/-- Eight writes that are posted. -/
def eightWrites : List BarrierAction :=
  List.replicate 8 (.write (fun _ _ => true) SendQueues.sampleWrite)

theorem waitWorks_eightWrites :
    ∃ barrier,
      LabelledRuns.execute (step [2]) (start SendQueues.sampleBindings)
          eightWrites = some barrier ∧
        barrier.pending.length = 8 ∧ WaitWorks [2] barrier := by
  have outcome :
      (LabelledRuns.execute (step [2]) (start SendQueues.sampleBindings)
          eightWrites).map
          (fun barrier =>
            (barrier.pending, barrier.uncompleted, barrier.posted,
              barrier.phase)) =
        some
          (signals 8 8, signals 8 8, true, .running) := by
    decide +kernel
  obtain ⟨barrier, run, observed⟩ := Option.map_eq_some_iff.mp outcome
  simp only [Prod.mk.injEq] at observed
  obtain ⟨pending, uncompleted, posted, running⟩ := observed
  have eight : barrier.pending.length = 8 := by
    rw [pending, length_signals]
  refine ⟨barrier, run, eight, ?_⟩
  refine
    (waitWorks_iff_eight (by decide) ?_ run (pending.trans uncompleted.symm)
      posted ?_).mpr eight
  · decide +kernel
  · rw [running]
    decide

/-! ## One layer of four requests, and one of one -/

/-- Eight writes, a wait for them, and the completions. -/
def eightWritesAndWait : List BarrierAction :=
  List.replicate 8 (.write (fun _ _ => true) SendQueues.sampleWrite) ++
    .callWait :: List.replicate 8 .complete ++ [.returnTrue]

theorem wait_getsThrough_eightWritesAndWait :
    LabelledRuns.Throughout (step [2]) GetsThrough
      (start SendQueues.sampleBindings) eightWritesAndWait :=
  wait_getsThrough_of_meets (by decide +kernel)

def writesAndCall (writes : Nat) : List BarrierAction :=
  List.replicate writes (.write (fun _ _ => true) SendQueues.sampleWrite) ++
    [.callWait]

/-- After two writes nothing is signaled that the wait could poll, and after ten it
returns while two are still being sent. -/
theorem wait_fails_after_two_and_ten_writes :
    (∃ final,
        LabelledRuns.execute (step [2]) (start SendQueues.sampleBindings)
            (writesAndCall 2) =
          some final ∧
          ¬ final.GetsThrough) ∧
      ∃ final,
        LabelledRuns.execute (step [2]) (start SendQueues.sampleBindings)
            (writesAndCall 10 ++
              (List.replicate 8 .complete ++ [.returnTrue])) =
          some final ∧
          ¬ final.GetsThrough := by
  constructor
  · refine ⟨_, rfl, ?_⟩
    intro getsThrough
    exact absurd (getsThrough.unreaped (by decide) (by decide)) (by decide)
  · refine ⟨_, rfl, ?_⟩
    intro getsThrough
    exact absurd (getsThrough.complete (by decide)) (by decide)

end SaveBarrier

end RdmaKvCache
