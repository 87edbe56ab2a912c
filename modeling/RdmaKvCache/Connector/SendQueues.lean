import RdmaKvCache.Connector.RdmaConnector
import RdmaKvCache.Library.LabelledRuns
import RdmaKvCache.Library.SignaledBatches

/-!
# Send queues over many passes

A pass of the model makes two writes for each layer of each request and then
waits for one completion.  Every eighth write is signaled, and polling its
completion reclaims the slots of the send queue up to it, so that a wait reclaims
eight writes however many the pass has made.
-/

namespace RdmaKvCache

open SignaledBatches

/-- The arguments of a write to the peer. -/
structure PeerWrite where
  localAddr : UInt64
  remoteOffset : UInt64
  size : UInt64
  immData : UInt32

/-- The bindings on a prefill node; for each write whose slot of the send queue is
not reclaimed whether it is signaled, the oldest first; the completions that are
not polled; and the writes left in the pass. -/
structure SendQueues where
  bindings : RDMABindings
  unreclaimed : List Bool
  sendCq : Nat
  remaining : Nat

/-- `complete` is the adapter generating the completion of the next signaled
write. -/
inductive SendAction where
  | write (write : PeerWrite)
  | complete
  | waitForSave

/-- The write, while the adapter takes every work request. -/
def RDMABindings.post
    (bindings : RDMABindings) (peerId : ByteString) (write : PeerWrite) :
    RDMAEngine.PostOutcome × RDMABindings :=
  bindings.rdmaWrite (fun _ _ => true) peerId write.localAddr
    write.remoteOffset write.size write.immData

/-- Some work request is posted. -/
def RDMABindings.Posts
    (bindings : RDMABindings) (peerId : ByteString) (write : PeerWrite) :
    Prop :=
  ∃ qpNum request, (bindings.post peerId write).1 = .posted qpNum request

namespace SendQueues

def writesPerPass (layers requests : Nat) : Nat :=
  2 * layers * requests

/-- Busy polling returns once there is a completion. -/
def pollSendCq (queues : SendQueues) : Option SendQueues :=
  if 0 < queues.sendCq then
    some
      { queues with
        unreclaimed := reclaim queues.unreclaimed
        sendCq := queues.sendCq - 1 }
  else
    none

/-- A pass is made of writes that are posted. -/
def postNext
    (peerId : ByteString) (queues : SendQueues) (write : PeerWrite) :
    Option SendQueues :=
  match queues.bindings.post peerId write with
  | (.posted _ request, bindings) =>
      some
        { queues with
          bindings := bindings
          unreclaimed := queues.unreclaimed ++ [request.signaled]
          remaining := queues.remaining - 1 }
  | _ => none

def step
    (peerId : ByteString) (layers requests : Nat) (queues : SendQueues) :
    SendAction → Option SendQueues
  | .write write =>
      if 0 < queues.remaining then queues.postNext peerId write else none
  | .complete =>
      if queues.sendCq < queues.unreclaimed.count true then
        some { queues with sendCq := queues.sendCq + 1 }
      else
        none
  | .waitForSave =>
      if queues.remaining = 0 then
        queues.pollSendCq.map fun polled =>
          { polled with remaining := writesPerPass layers requests }
      else
        none

def start (bindings : RDMABindings) (layers requests : Nat) : SendQueues where
  bindings := bindings
  unreclaimed := []
  sendCq := 0
  remaining := writesPerPass layers requests

/-- Neither queue holds more than it can. -/
structure Bounded (qpMaxSendWr cqDepth : Int32) (queues : SendQueues) :
    Prop where
  unreclaimed : (queues.unreclaimed.length : Int) ≤ qpMaxSendWr.toInt
  sendCq : (queues.sendCq : Int) ≤ cqDepth.toInt

end SendQueues

/-! ## Posting -/

section Posting

variable {peerId : ByteString} {localAddr remoteOffset size : UInt64}
variable {localLkey immData : UInt32} {signal : Bool}
variable {qpNum : UInt32} {request : SendWorkRequest}

/-- A write that is posted can be posted again: looking the queue pair up leaves it
as it is. -/
theorem RDMAEngine.postWriteExternal_again
    {engine next : RDMAEngine}
    (posted :
      engine.postWriteExternal (fun _ _ => true) peerId localAddr localLkey
        remoteOffset size immData signal = (.posted qpNum request, next))
    (laterSignal : Bool) :
    ∃ later,
      (next.postWriteExternal (fun _ _ => true) peerId localAddr localLkey
        remoteOffset size immData laterSignal).1 =
        .posted qpNum later := by
  obtain ⟨peerInfo, known, connected, inBuffer, nonempty, _, _⟩ :=
    postWriteExternal_eq_posted_iff.mp (congrArg Prod.fst posted)
  have isNext :
      next =
        { engine with peerQps := engine.peerQps.insert peerId (some qpNum) } := by
    rw [← connected, ← postWriteExternal_snd, posted]
  have stillConnected : (next.peerQps.lookup peerId).getD none = some qpNum := by
    rw [isNext, AList.lookup_insert]
    rfl
  rw [isNext] at stillConnected ⊢
  exact
    ⟨_, postWriteExternal_eq_posted_iff.mpr
      ⟨peerInfo, known, stillConnected, inBuffer, nonempty, rfl, rfl⟩⟩

end Posting

/-- A posted write is signaled if it is the last one of its batch, and another one
can be posted after it. -/
theorem RDMABindings.post_posted
    {bindings next : RDMABindings} {peerId : ByteString} {write : PeerWrite}
    {qpNum : UInt32} {request : SendWorkRequest}
    (posted : bindings.post peerId write = (.posted qpNum request, next)) :
    request.signaled = (next.writeCounter % cqBatchSize == 0) ∧
      next.writeCounter = bindings.writeCounter + 1 ∧
      next.Posts peerId write := by
  obtain ⟨lkey, engine, found, sent, isNext⟩ := rdmaWrite_eq_posted posted
  obtain ⟨_, _, _, _, _, isRequest, _⟩ :=
    RDMAEngine.postWriteExternal_eq_posted_iff.mp (congrArg Prod.fst sent)
  obtain ⟨later, isPosted⟩ :=
    RDMAEngine.postWriteExternal_again sent
      ((bindings.writeCounter + 1 + 1) % cqBatchSize == 0)
  rw [isNext, isRequest]
  refine ⟨rfl, rfl, qpNum, later, ?_⟩
  have stillFound :
      getLkeyForPtr
          { bindings with
            rdmaEngine := engine
            writeCounter := bindings.writeCounter + 1 }
          write.localAddr =
        some lkey :=
    found
  simp only [post, rdmaWrite, stillFound]
  exact isPosted

theorem counter_mod_succ (counter : UInt64) :
    (counter + 1).toNat % 8 = (counter.toNat % 8 + 1) % 8 := by
  rw [UInt64.toNat_add, UInt64.toNat_one]
  omega

theorem lastOfBatch_iff (counter : UInt64) :
    (counter % RDMABindings.cqBatchSize == 0) =
      decide (counter.toNat % 8 = 0) := by
  rw [beq_eq_decide, decide_eq_decide, ← UInt64.toNat_inj, UInt64.toNat_mod]
  rfl

namespace SendQueues

/-! ## Batches of eight -/

/-- The unreclaimed writes are signaled in batches, and only generated completions
are polled. -/
structure Batched (queues : SendQueues) : Prop where
  unreclaimed_eq :
    queues.unreclaimed = signals 8 queues.unreclaimed.length
  counter_eq :
    queues.bindings.writeCounter.toNat % 8 =
      queues.unreclaimed.length % 8
  sendCq_le : queues.sendCq ≤ queues.unreclaimed.length / 8

section Steps

variable {peerId : ByteString} {layers requests : Nat}
variable {queues next : SendQueues}

theorem postNext_eq_some
    {write : PeerWrite} (posted : queues.postNext peerId write = some next) :
    ∃ qpNum request bindings,
      queues.bindings.post peerId write =
          (.posted qpNum request, bindings) ∧
        next =
          { queues with
            bindings := bindings
            unreclaimed := queues.unreclaimed ++ [request.signaled]
            remaining := queues.remaining - 1 } := by
  rw [postNext] at posted
  split at posted
  · rename_i qpNum request bindings isPosted
    exact ⟨qpNum, request, bindings, isPosted, (Option.some.inj posted).symm⟩
  · cases posted

/-- A write takes one slot of the send queue. -/
theorem Batched.postNext
    {write : PeerWrite} (batched : queues.Batched)
    (posted : queues.postNext peerId write = some next) :
    next.Batched ∧
      next.unreclaimed.length = queues.unreclaimed.length + 1 ∧
      next.sendCq = queues.sendCq ∧
      next.remaining = queues.remaining - 1 ∧
      next.bindings.Posts peerId write := by
  obtain ⟨qpNum, request, bindings, isPosted, isNext⟩ :=
    postNext_eq_some posted
  obtain ⟨signaled, counter, again⟩ := RDMABindings.post_posted isPosted
  have sameCounter :
      bindings.writeCounter.toNat % 8 =
        (queues.unreclaimed.length + 1) % 8 := by
    rw [counter, counter_mod_succ, batched.counter_eq]
    omega
  rw [lastOfBatch_iff, sameCounter] at signaled
  rw [isNext]
  refine ⟨⟨?_, ?_, ?_⟩, List.length_append, rfl, rfl, again⟩
  · dsimp only
    rw [List.length_append, List.length_singleton, signals_succ, signaled,
      ← batched.unreclaimed_eq]
  · dsimp only
    rw [List.length_append]
    exact sameCounter
  · dsimp only
    rw [List.length_append, List.length_singleton]
    have before := batched.sendCq_le
    omega

/-- Polling a completion reclaims eight slots. -/
theorem Batched.pollSendCq
    (batched : queues.Batched) (polled : queues.pollSendCq = some next) :
    next.Batched ∧
      next.unreclaimed.length + 8 = queues.unreclaimed.length ∧
      next.sendCq + 1 = queues.sendCq ∧
      next.bindings = queues.bindings := by
  rw [SendQueues.pollSendCq] at polled
  split at polled
  · rename_i some
    cases polled
    have completions := batched.sendCq_le
    have counter := batched.counter_eq
    obtain ⟨kept, isLength⟩ :
        ∃ kept, queues.unreclaimed.length = 8 + kept :=
      Nat.exists_eq_add_of_le (by omega)
    have isReclaimed : reclaim queues.unreclaimed = signals 8 kept := by
      rw [batched.unreclaimed_eq, isLength]
      exact reclaim_signals (by decide)
    refine ⟨⟨?_, ?_, ?_⟩, ?_, Nat.sub_add_cancel some, rfl⟩ <;>
      simp only [isReclaimed, length_signals] <;>
      omega
  · cases polled

/-- What a step does to the numbers of writes and completions. -/
inductive Counted
    (layers requests : Nat) (queues next : SendQueues) : Prop where
  | posted
      (left : 0 < queues.remaining)
      (unreclaimed :
        next.unreclaimed.length = queues.unreclaimed.length + 1)
      (sendCq : next.sendCq = queues.sendCq)
      (remaining : next.remaining + 1 = queues.remaining) :
      Counted layers requests queues next
  | completed
      (unreclaimed : next.unreclaimed.length = queues.unreclaimed.length)
      (sendCq : next.sendCq ≤ next.unreclaimed.length / 8)
      (remaining : next.remaining = queues.remaining) :
      Counted layers requests queues next
  | waited
      (done : queues.remaining = 0)
      (unreclaimed :
        next.unreclaimed.length + 8 = queues.unreclaimed.length)
      (sendCq : next.sendCq + 1 = queues.sendCq)
      (remaining : next.remaining = writesPerPass layers requests) :
      Counted layers requests queues next

theorem Batched.step
    {action : SendAction} (batched : queues.Batched)
    (stepped : queues.step peerId layers requests action = some next) :
    next.Batched ∧ Counted layers requests queues next := by
  cases action with
  | write write =>
      rw [SendQueues.step] at stepped
      split at stepped
      · rename_i left
        obtain ⟨nextBatched, unreclaimed, sendCq, remaining, _⟩ :=
          batched.postNext stepped
        exact ⟨nextBatched, .posted left unreclaimed sendCq (by omega)⟩
      · cases stepped
  | complete =>
      rw [SendQueues.step] at stepped
      split at stepped
      · rename_i generated
        cases stepped
        rw [batched.unreclaimed_eq, count_signals] at generated
        exact
          ⟨⟨batched.unreclaimed_eq, batched.counter_eq, generated⟩,
            .completed rfl generated rfl⟩
      · cases stepped
  | waitForSave =>
      rw [SendQueues.step] at stepped
      split at stepped
      · rename_i done
        obtain ⟨polled, isPolled, isNext⟩ :=
          Option.map_eq_some_iff.mp stepped
        obtain ⟨polledBatched, unreclaimed, sendCq, _⟩ :=
          batched.pollSendCq isPolled
        rw [← isNext]
        exact
          ⟨⟨polledBatched.unreclaimed_eq, polledBatched.counter_eq,
              polledBatched.sendCq_le⟩,
            .waited done unreclaimed sendCq rfl⟩
      · cases stepped

/-! ## At most eight writes in a pass -/

/-- The slots of the send queue are those of one pass. -/
structure OnePass (layers requests : Nat) (queues : SendQueues) : Prop where
  batched : queues.Batched
  writes :
    queues.unreclaimed.length + queues.remaining =
      writesPerPass layers requests

theorem OnePass.step
    {action : SendAction} (few : writesPerPass layers requests ≤ 8)
    (onePass : OnePass layers requests queues)
    (stepped : queues.step peerId layers requests action = some next) :
    OnePass layers requests next := by
  obtain ⟨batched, counted⟩ := onePass.batched.step stepped
  refine ⟨batched, ?_⟩
  have writes := onePass.writes
  cases counted with
  | posted left unreclaimed sendCq remaining =>
      omega
  | completed unreclaimed sendCq remaining =>
      omega
  | waited done unreclaimed sendCq remaining =>
      omega

theorem OnePass.bounded
    {qpMaxSendWr cqDepth : Int32}
    (onePass : OnePass layers requests queues)
    (fits : (writesPerPass layers requests : Int) ≤ qpMaxSendWr.toInt)
    (depth :
      ((writesPerPass layers requests / 8 : Nat) : Int) ≤ cqDepth.toInt) :
    queues.Bounded qpMaxSendWr cqDepth := by
  have writes := onePass.writes
  have completions := onePass.batched.sendCq_le
  constructor <;>
    omega

/-! ## More writes than are reclaimed -/

/-- A pass is about to begin, with these slots taken. -/
structure Waiting
    (peerId : ByteString) (layers requests : Nat) (write : PeerWrite)
    (taken : Nat) (queues : SendQueues) : Prop where
  batched : queues.Batched
  length_eq : queues.unreclaimed.length = taken
  sendCq_eq : queues.sendCq = 0
  remaining_eq : queues.remaining = writesPerPass layers requests
  posts : queues.bindings.Posts peerId write

theorem exists_postNext
    {write : PeerWrite} (posts : queues.bindings.Posts peerId write) :
    ∃ next, queues.postNext peerId write = some next := by
  obtain ⟨qpNum, request, posted⟩ := posts
  have isPosted :
      queues.bindings.post peerId write =
        (.posted qpNum request, (queues.bindings.post peerId write).2) :=
    Prod.ext posted rfl
  rw [SendQueues.postNext, isPosted]
  exact ⟨_, rfl⟩

variable (layers requests) in
/-- The writes of a pass are posted one after another. -/
theorem execute_writes
    {write : PeerWrite} (count : Nat) (batched : queues.Batched)
    (posts : queues.bindings.Posts peerId write)
    (enough : count ≤ queues.remaining) :
    ∃ next,
      LabelledRuns.execute (step peerId layers requests) queues
          (List.replicate count (.write write)) =
        some next ∧
        next.Batched ∧
        next.unreclaimed.length = queues.unreclaimed.length + count ∧
        next.sendCq = queues.sendCq ∧
        next.remaining + count = queues.remaining ∧
        next.bindings.Posts peerId write := by
  induction count generalizing queues with
  | zero =>
      exact ⟨queues, rfl, batched, rfl, rfl, rfl, posts⟩
  | succ count inductionHypothesis =>
      obtain ⟨posted, isPosted⟩ := exists_postNext posts
      obtain ⟨postedBatched, unreclaimed, sendCq, remaining, again⟩ :=
        batched.postNext isPosted
      have left : 0 < queues.remaining := by
        omega
      have stepped :
          queues.step peerId layers requests (.write write) =
            some posted := by
        rw [step, if_pos left]
        exact isPosted
      obtain ⟨next, run, nextBatched, length, completions, rest, nextPosts⟩ :=
        inductionHypothesis postedBatched again (by omega)
      refine
        ⟨next, ?_, nextBatched, by omega, completions.trans sendCq, by omega,
          nextPosts⟩
      rw [List.replicate_succ, LabelledRuns.execute, stepped]
      exact run

/-- The writes of a pass, and a completion of one of them. -/
theorem Waiting.execute_pass
    {write : PeerWrite} {taken : Nat}
    (waiting : Waiting peerId layers requests write taken queues)
    (many : 8 ≤ writesPerPass layers requests) :
    ∃ next,
      LabelledRuns.execute (step peerId layers requests) queues
          (List.replicate (writesPerPass layers requests) (.write write) ++
            [.complete]) =
        some next ∧
        next.Batched ∧
        next.unreclaimed.length =
          taken + writesPerPass layers requests ∧
        next.sendCq = 1 ∧ next.remaining = 0 ∧
        next.bindings.Posts peerId write := by
  have remaining := waiting.remaining_eq
  have taken_eq := waiting.length_eq
  obtain ⟨posted, run, batched, length, sendCq, rest, posts⟩ :=
    execute_writes layers requests (writesPerPass layers requests)
      waiting.batched waiting.posts (Nat.le_of_eq remaining.symm)
  rw [waiting.sendCq_eq] at sendCq
  have generated : posted.sendCq < posted.unreclaimed.count true := by
    rw [batched.unreclaimed_eq, count_signals, sendCq]
    omega
  have stepped :
      posted.step peerId layers requests .complete =
        some { posted with sendCq := posted.sendCq + 1 } :=
    if_pos generated
  have executed :
      LabelledRuns.execute (step peerId layers requests) posted [.complete] =
        some { posted with sendCq := posted.sendCq + 1 } := by
    rw [LabelledRuns.execute, stepped]
    rfl
  obtain ⟨nextBatched, _⟩ := batched.step stepped
  refine
    ⟨_, LabelledRuns.execute_trans run executed, nextBatched, ?_, ?_, ?_,
      posts⟩ <;>
    dsimp only <;>
    omega

/-- Each pass leaves all but eight of its slots taken. -/
theorem Waiting.execute_wait
    {write : PeerWrite} {taken : Nat}
    (waiting : Waiting peerId layers requests write taken queues)
    (many : 8 ≤ writesPerPass layers requests) :
    ∃ actions next,
      LabelledRuns.execute (step peerId layers requests) queues actions =
        some next ∧
        Waiting peerId layers requests write
          (taken + (writesPerPass layers requests - 8)) next := by
  obtain ⟨passed, run, batched, length, sendCq, done, posts⟩ :=
    waiting.execute_pass many
  obtain ⟨polled, isPolled⟩ : ∃ polled, passed.pollSendCq = some polled := by
    rw [pollSendCq, if_pos (by omega)]
    exact ⟨_, rfl⟩
  obtain ⟨polledBatched, unreclaimed, polledCq, sameBindings⟩ :=
    batched.pollSendCq isPolled
  have stepped :
      passed.step peerId layers requests .waitForSave =
        some { polled with remaining := writesPerPass layers requests } := by
    rw [step, if_pos done, isPolled]
    rfl
  have executed :
      LabelledRuns.execute (step peerId layers requests) passed
          [.waitForSave] =
        some { polled with remaining := writesPerPass layers requests } := by
    rw [LabelledRuns.execute, stepped]
    rfl
  obtain ⟨nextBatched, _⟩ := batched.step stepped
  refine
    ⟨_, _, LabelledRuns.execute_trans run executed, nextBatched, ?_, ?_, rfl,
      ?_⟩
  · dsimp only
    omega
  · dsimp only
    omega
  · dsimp only
    rw [sameBindings]
    exact posts

/-- What the passes leave adds up. -/
theorem Waiting.execute_passes
    {write : PeerWrite} {taken : Nat} (passes : Nat)
    (waiting : Waiting peerId layers requests write taken queues)
    (many : 8 ≤ writesPerPass layers requests) :
    ∃ actions next,
      LabelledRuns.execute (step peerId layers requests) queues actions =
        some next ∧
        Waiting peerId layers requests write
          (taken + passes * (writesPerPass layers requests - 8)) next := by
  induction passes with
  | zero =>
      refine ⟨[], queues, rfl, ?_⟩
      rw [Nat.zero_mul, Nat.add_zero]
      exact waiting
  | succ passes inductionHypothesis =>
      obtain ⟨actions, middle, run, middleWaiting⟩ := inductionHypothesis
      obtain ⟨others, next, remaining, nextWaiting⟩ :=
        middleWaiting.execute_wait many
      refine
        ⟨actions ++ others, next,
          LabelledRuns.execute_trans run remaining, ?_⟩
      rw [Nat.succ_mul, ← Nat.add_assoc]
      exact nextWaiting

/-- With more than eight writes in a pass the send queue fills up. -/
theorem Waiting.exceeds
    {write : PeerWrite} {taken : Nat}
    (waiting : Waiting peerId layers requests write taken queues)
    (many : 8 < writesPerPass layers requests) (bound : Nat) :
    ∃ actions next,
      LabelledRuns.execute (step peerId layers requests) queues actions =
        some next ∧
        bound < next.unreclaimed.length := by
  obtain ⟨actions, middle, run, middleWaiting⟩ :=
    waiting.execute_passes bound (Nat.le_of_lt many)
  obtain ⟨next, passed, _, length, _⟩ :=
    middleWaiting.execute_pass (Nat.le_of_lt many)
  refine
    ⟨_, next, LabelledRuns.execute_trans run passed, ?_⟩
  have someLeft :
      bound * 1 ≤ bound * (writesPerPass layers requests - 8) :=
    Nat.mul_le_mul_left bound (by omega)
  omega

end Steps

section Start

variable {bindings : RDMABindings} {peerId : ByteString}
variable {layers requests : Nat}

theorem batched_start (new : bindings.writeCounter = 0) :
    (start bindings layers requests).Batched where
  unreclaimed_eq := rfl
  counter_eq := by
    dsimp only [start]
    rw [new]
    rfl
  sendCq_le := Nat.zero_le _

theorem waiting_start
    {write : PeerWrite} (new : bindings.writeCounter = 0)
    (posts : bindings.Posts peerId write) :
    Waiting peerId layers requests write 0
      (start bindings layers requests) where
  batched := batched_start new
  length_eq := rfl
  sendCq_eq := rfl
  remaining_eq := rfl
  posts := posts

theorem onePass_start (new : bindings.writeCounter = 0) :
    OnePass layers requests (start bindings layers requests) where
  batched := batched_start new
  writes := Nat.zero_add _

theorem writesPerPass_eq :
    writesPerPass layers requests = 2 * (layers * requests) :=
  Nat.mul_assoc 2 layers requests

/-- The queues of a new connector stay bounded exactly if a pass makes fewer writes
than a batch has, so that no wait returns, or just as many. -/
theorem send_queues_bounded_iff
    {write : PeerWrite} {qpMaxSendWr cqDepth : Int32}
    (new : bindings.writeCounter = 0)
    (posts : bindings.Posts peerId write)
    (fits : (writesPerPass layers requests : Int) ≤ qpMaxSendWr.toInt) :
    (∀ actions final,
      LabelledRuns.execute (step peerId layers requests)
          (start bindings layers requests) actions =
        some final →
          final.Bounded qpMaxSendWr cqDepth) ↔
      layers * requests < 4 ∧ 0 ≤ cqDepth ∨
        layers * requests = 4 ∧ 0 < cqDepth := by
  rw [Int32.le_iff_toInt_le, Int32.lt_iff_toInt_lt, Int32.toInt_zero]
  constructor
  · intro bounded
    have atStart := (bounded [] _ rfl).sendCq
    dsimp only [start] at atStart
    rcases Nat.lt_trichotomy (layers * requests) 4 with few | eight | many
    · exact Or.inl ⟨few, by omega⟩
    · refine Or.inr ⟨eight, ?_⟩
      have isEight : writesPerPass layers requests = 8 := by
        rw [writesPerPass_eq, eight]
      obtain ⟨next, run, _, _, sendCq, _⟩ :=
        (waiting_start new posts).execute_pass (Nat.le_of_eq isEight.symm)
      have oneCompletion := (bounded _ next run).sendCq
      omega
    · exfalso
      have moreThanEight : 8 < writesPerPass layers requests := by
        rw [writesPerPass_eq]
        omega
      obtain ⟨actions, next, run, exceeds⟩ :=
        (waiting_start new posts).exceeds moreThanEight
          qpMaxSendWr.toInt.toNat
      have isBounded := (bounded actions next run).unreclaimed
      omega
  · intro condition actions final run
    have atMostEight : writesPerPass layers requests ≤ 8 := by
      rw [writesPerPass_eq]
      omega
    have onePass : OnePass layers requests final :=
      LabelledRuns.invariant_of_execute
        (fun _ _ _ stepped before => before.step atMostEight stepped) run
        (onePass_start new)
    apply onePass.bounded fits
    rw [writesPerPass_eq]
    omega

end Start

/-- The bindings of a new connector with one peer and one registered region. -/
def sampleBindings : RDMABindings where
  rdmaEngine := .onePeer
  registeredRegions := [{ gpuPtr := 4096, size := 1048576, lkey := 1 }]

/-- A write of sixteen bytes. -/
def sampleWrite : PeerWrite where
  localAddr := 4096
  remoteOffset := 0
  size := 16
  immData := 0

theorem sampleBindings_posts :
    sampleBindings.Posts [2] sampleWrite := by
  have posted :
      (sampleBindings.post [2] sampleWrite).1 =
        .posted 5
          { wrId := 0
            localAddr := 4096
            length := 16
            lkey := 1
            signaled := false
            immData := 0
            remoteAddr := 0x10000
            rkey := 7 } := by
    decide
  exact ⟨_, _, posted⟩

/-- The eight writes of a pass, and the completion of the last. -/
def eightWrites : List SendAction :=
  List.replicate 8 (.write sampleWrite) ++ [.complete]

/-- Two layers of two requests: each pass makes the eight writes a wait reclaims. -/
theorem send_queues_bounded_iff_eightWrites :
    ∃ final,
      LabelledRuns.execute (step [2] 2 2) (start sampleBindings 2 2)
          (eightWrites ++ .waitForSave :: eightWrites) =
        some final ∧
        final.Bounded 64 128 := by
  have runs :
      (LabelledRuns.execute (step [2] 2 2) (start sampleBindings 2 2)
        (eightWrites ++ .waitForSave :: eightWrites)).isSome = true := by
    decide +kernel
  obtain ⟨final, run⟩ := Option.isSome_iff_exists.mp runs
  exact
    ⟨final, run,
      (send_queues_bounded_iff rfl sampleBindings_posts (by decide)).mpr
        (Or.inr ⟨rfl, by decide⟩) _ final run⟩

/-- One request of 32 layers makes 64 writes in a pass, as many as the send queue
has slots by default, and does not find them free in the second pass. -/
theorem send_queue_exceeded :
    (writesPerPass 32 1 : Int) ≤ (64 : Int32).toInt ∧
      ∃ actions final,
        LabelledRuns.execute (step [2] 32 1) (start sampleBindings 32 1)
            actions =
          some final ∧
          ¬ final.Bounded 64 128 := by
  refine ⟨by decide, ?_⟩
  have waiting :
      Waiting [2] 32 1 sampleWrite 0 (start sampleBindings 32 1) :=
    waiting_start rfl sampleBindings_posts
  obtain ⟨actions, final, run, exceeds⟩ := waiting.exceeds (by decide) 64
  refine ⟨actions, final, run, ?_⟩
  intro bounded
  have isBounded := bounded.unreclaimed
  have isSixtyFour : (64 : Int32).toInt = 64 := by
    decide
  omega

end SendQueues

end RdmaKvCache
