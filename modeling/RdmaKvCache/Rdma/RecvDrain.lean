import RdmaKvCache.Rdma.RdmaEngine
import RdmaKvCache.Rdma.RecvCredits

/-!
# A draining receive queue

Every poll posts as many receive work requests as it has taken completions, one
by one until the adapter refuses one.  Those that are not posted are never made
up for, and the next poll that goes well sets the number of failures back to
zero.  The number of failures tells whether the queue drains exactly if no poll
with a failed completion and no poll whose work requests are refused brings it
down unnoticed.
-/

namespace RdmaKvCache

/-- The engine of a decode node, its queue pairs and the completions that are not
polled yet. -/
structure RecvPolling where
  engine : RDMAEngine
  peerQps : PeerQps
  recvCq : List RecvCompletion

/-- A poll comes with what the adapter answers to it: how many completions
`ibv_poll_cq` takes, unless it fails, and which work requests are posted. -/
inductive RecvPollAction where
  | arrive (peerId : ByteString) (completion : RecvCompletion)
  | poll (polled : Option Nat) (adapter : AdapterAnswers)

namespace RecvPolling

/-- The receive work requests that are posted, or used up by a completion. -/
def total (state : RecvPolling) : Nat :=
  state.peerQps.posted + state.recvCq.length

/-- The completions a poll takes are successful. -/
def AllSuccess (state : RecvPolling) (count : Nat) : Prop :=
  ∀ completion ∈ state.recvCq.take count, completion.success = true

instance (state : RecvPolling) (count : Nat) :
    Decidable (state.AllSuccess count) :=
  inferInstanceAs (Decidable (∀ completion ∈ state.recvCq.take count, _))

def pollRecvCq
    (adapter : AdapterAnswers) (polled : Option Nat) (state : RecvPolling) :
    RecvPolling :=
  match polled with
  | none => { state with engine := (state.engine.pollRecvCq none false).2 }
  | some count =>
      let posted :=
        if 0 < count ∧ state.AllSuccess count then
          postRecvWrs adapter (Int32.ofNat count) state.peerQps
        else
          (false, state.peerQps)
      { engine :=
          (state.engine.pollRecvCq (some (state.recvCq.take count))
            posted.1).2
        peerQps := posted.2
        recvCq := state.recvCq.drop count }

/-- The loop polls up to 32 completions at a time, and no more once the engine is
in a fatal state. -/
def step (state : RecvPolling) : RecvPollAction → Option RecvPolling
  | .arrive peerId completion =>
      (state.peerQps.consume peerId).map fun peerQps =>
        { state with
          peerQps := peerQps
          recvCq := state.recvCq ++ [completion] }
  | .poll polled adapter =>
      if state.engine.rdmaFatalError = false ∧
          ∀ count ∈ polled, count ≤ 32 ∧ count ≤ state.recvCq.length then
        some (state.pollRecvCq adapter polled)
      else
        none

/-- The queue is not drained while the engine goes on, and nothing is lost while
there is no failure. -/
structure DrainDetected (qpMaxRecvWr : Int32) (state : RecvPolling) :
    Prop where
  undrained :
    state.engine.rdmaFatalError = false →
      0 < state.peerQps.posted ∨ state.recvCq ≠ []
  replenished :
    state.engine.recvWrReplenishFailures = 0 →
      (state.peerQps.posted : Int) =
        qpMaxRecvWr.toInt - state.recvCq.length

/-- What may become of a poll that takes completions.  One with a failed
completion posts nothing; one that posts all it should hides what has been lost
before; one that does not is noticed when it is the fifth. -/
structure PollKeeps
    (qpMaxRecvWr : Int32) (adapter : AdapterAnswers) (count : Nat)
    (state : RecvPolling) : Prop where
  failed :
    ¬ state.AllSuccess count →
      state.engine.recvWrReplenishFailures ≠ 0 ∧ count < state.total
  posted :
    state.AllSuccess count →
      PostsRecvs adapter (Int32.ofNat count) state.peerQps →
        (state.total : Int) = qpMaxRecvWr.toInt
  refused :
    state.AllSuccess count →
      ¬ PostsRecvs adapter (Int32.ofNat count) state.peerQps →
        RDMAEngine.maxReplenishFailures ≤
            state.engine.recvWrReplenishFailures + 1 ∨
          count < state.total ∨ adapter.posts 0 = true

def KeepsCredits (qpMaxRecvWr : Int32) (state : RecvPolling) :
    RecvPollAction → Prop
  | .arrive _ _ => True
  | .poll polled adapter =>
      ∀ count ∈ polled, 0 < count → PollKeeps qpMaxRecvWr adapter count state

end RecvPolling

/-! ## What is posted by one call -/

section Posting

variable {adapter : AdapterAnswers}

variable (adapter) in
theorem QueuePair.recvWrs_lt_postRecvs
    {count : Nat} (qp : QueuePair) (positive : 0 < count) :
    qp.recvWrs < (qp.postRecvs adapter count).2.recvWrs ↔
      adapter.posts qp.recvWrs = true := by
  cases count with
  | zero =>
      exact absurd positive (Nat.lt_irrefl 0)
  | succ count =>
      rw [postRecvs]
      by_cases posts : adapter.posts qp.recvWrs = true
      · rw [if_pos posts]
        obtain ⟨posted, result, increased, _⟩ :=
          postRecvs_eq adapter count { qp with recvWrs := qp.recvWrs + 1 }
        rw [result]
        exact iff_of_true increased posts
      · rw [if_neg posts]
        exact iff_of_false (Nat.lt_irrefl _) posts

theorem postRecvWrs_isOk
    {count : Int32} {peer : ByteString × QueuePair} {rest : PeerQps} :
    (postRecvWrs adapter count (peer :: rest)).1 = true ↔
      PostsRecvs adapter count (peer :: rest) := by
  obtain ⟨_, _, _, _, answers⟩ :=
    QueuePair.postRecvs_eq adapter count.toInt.toNat peer.2
  simp only [postRecvWrs, PostsRecvs, answers, List.head?_cons,
    Option.mem_def, Option.some.injEq, exists_eq_left']

end Posting

theorem ofNat_toInt_toNat {count : Nat} (bounded : count ≤ 32) :
    (Int32.ofNat count).toInt.toNat = count := by
  rw [Int32.toInt_ofNat_of_lt (by omega), Int.toNat_natCast]

namespace RecvPolling

/-! ## What a poll does -/

section Polls

variable {state : RecvPolling} {adapter : AdapterAnswers} {count : Nat}

theorem any_failed_iff :
    (state.recvCq.take count).any (fun completion => !completion.success) =
        true ↔
      ¬ state.AllSuccess count := by
  simp [AllSuccess]

theorem take_isEmpty
    (positive : 0 < count) (enough : count ≤ state.recvCq.length) :
    (state.recvCq.take count).isEmpty = false := by
  rw [List.isEmpty_eq_false_iff]
  intro empty
  have noLength := congrArg List.length empty
  rw [List.length_take, List.length_nil] at noLength
  omega

theorem pollRecvCq_zero :
    state.pollRecvCq adapter (some 0) = state := by
  simp [pollRecvCq, RDMAEngine.pollRecvCq]

theorem pollRecvCq_of_failed (failed : ¬ state.AllSuccess count) :
    state.pollRecvCq adapter (some count) =
      { state with recvCq := state.recvCq.drop count } := by
  have notPosted : ¬ (0 < count ∧ state.AllSuccess count) := fun posts =>
    failed posts.2
  simp only [pollRecvCq, if_neg notPosted, RDMAEngine.pollRecvCq,
    if_pos (any_failed_iff.mpr failed)]

theorem pollRecvCq_of_success
    (positive : 0 < count) (enough : count ≤ state.recvCq.length)
    (success : state.AllSuccess count) :
    state.pollRecvCq adapter (some count) =
      let posted := postRecvWrs adapter (Int32.ofNat count) state.peerQps
      let failures := state.engine.recvWrReplenishFailures + 1
      { engine :=
          if posted.1 then
            { state.engine with recvWrReplenishFailures := 0 }
          else if RDMAEngine.maxReplenishFailures ≤ failures then
            { state.engine with
              recvWrReplenishFailures := failures
              rdmaFatalError := true }
          else
            { state.engine with recvWrReplenishFailures := failures }
        peerQps := posted.2
        recvCq := state.recvCq.drop count } := by
  have noneFailed := mt any_failed_iff.mp (not_not.mpr success)
  have notEmpty :
      ¬ (state.recvCq.take count).isEmpty = true := by
    rw [take_isEmpty positive enough]
    exact Bool.false_ne_true
  simp only [pollRecvCq, if_pos (And.intro positive success),
    RDMAEngine.pollRecvCq, if_neg noneFailed, if_neg notEmpty]
  split
  · rfl
  · split <;> rfl

end Polls

/-! ## One peer -/

/-- What holds while the number of failures tells whether the queue drains. -/
structure Sound (qpMaxRecvWr : Int32) (state : RecvPolling) : Prop where
  detected : state.DrainDetected qpMaxRecvWr
  onePeer : state.peerQps.length = 1
  nonneg : 0 ≤ state.engine.recvWrReplenishFailures.toInt
  below :
    state.engine.rdmaFatalError = false →
      state.engine.recvWrReplenishFailures.toInt < 5

section OnePeer

variable {qpMaxRecvWr : Int32} {state next : RecvPolling}

theorem DrainDetected.of_total
    (undrained :
      state.engine.rdmaFatalError = false → 0 < state.total)
    (replenished :
      state.engine.recvWrReplenishFailures = 0 →
        (state.total : Int) = qpMaxRecvWr.toInt) :
    state.DrainDetected qpMaxRecvWr where
  undrained := by
    intro goesOn
    have some := undrained goesOn
    rw [← List.length_pos_iff]
    simp only [total] at some
    omega
  replenished := by
    intro noFailures
    have all := replenished noFailures
    simp only [total] at all
    omega

theorem DrainDetected.total_pos
    (detected : state.DrainDetected qpMaxRecvWr)
    (goesOn : state.engine.rdmaFatalError = false) : 0 < state.total := by
  have some := detected.undrained goesOn
  rw [← List.length_pos_iff] at some
  simp only [total]
  omega

theorem DrainDetected.total_eq
    (detected : state.DrainDetected qpMaxRecvWr)
    (noFailures : state.engine.recvWrReplenishFailures = 0) :
    (state.total : Int) = qpMaxRecvWr.toInt := by
  have all := detected.replenished noFailures
  simp only [total]
  omega

/-- The receive work requests the only queue pair has after some are posted. -/
theorem posted_postRecvWrs
    (adapter : AdapterAnswers) {count : Nat} {peerQps : PeerQps}
    (onePeer : peerQps.length = 1) (positive : 0 < count)
    (bounded : count ≤ 32) :
    (postRecvWrs adapter (Int32.ofNat count) peerQps).2.length = 1 ∧
      peerQps.posted ≤
        (postRecvWrs adapter (Int32.ofNat count) peerQps).2.posted ∧
      (peerQps.posted <
          (postRecvWrs adapter (Int32.ofNat count) peerQps).2.posted ↔
        adapter.posts peerQps.posted = true) := by
  obtain ⟨peer, isPeer⟩ := List.length_eq_one_iff.mp onePeer
  obtain ⟨posted, result, increased, _⟩ :=
    peer.2.postRecvs_eq adapter count
  have first := peer.2.recvWrs_lt_postRecvs adapter positive
  rw [result] at first
  rw [isPeer]
  simp only [postRecvWrs, ofNat_toInt_toNat bounded, result, PeerQps.posted,
    List.map_cons, List.map_nil, List.sum_cons, List.sum_nil, Nat.add_zero]
  exact ⟨rfl, increased, first⟩

theorem Sound.arrive
    {peerId : ByteString} {completion : RecvCompletion}
    (sound : state.Sound qpMaxRecvWr)
    (taken : step state (.arrive peerId completion) = some next) :
    next.Sound qpMaxRecvWr := by
  obtain ⟨peerQps, consumed, isNext⟩ := Option.map_eq_some_iff.mp taken
  obtain ⟨onePosted, samePeers, _⟩ := PeerQps.consume_eq_some consumed
  have sameLength := congrArg List.length samePeers
  rw [List.length_map, List.length_map] at sameLength
  have sameTotal : next.total = state.total := by
    rw [← isNext]
    simp only [total, List.length_append, List.length_singleton]
    omega
  have sameEngine : next.engine = state.engine := by
    rw [← isNext]
  have isOnePeer : next.peerQps.length = 1 := by
    rw [← isNext]
    exact sameLength.trans sound.onePeer
  refine ⟨?_, isOnePeer, ?_, ?_⟩
  · apply DrainDetected.of_total <;>
      rw [sameTotal, sameEngine]
    · exact sound.detected.total_pos
    · exact sound.detected.total_eq
  · rw [sameEngine]
    exact sound.nonneg
  · rw [sameEngine]
    exact sound.below

end OnePeer

/-! ## Polls of the only peer -/

section Polled

variable {qpMaxRecvWr : Int32} {state : RecvPolling}
variable {adapter : AdapterAnswers} {count : Nat}

variable (adapter) in
theorem total_pollFailed
    (enough : count ≤ state.recvCq.length)
    (failed : ¬ state.AllSuccess count) :
    (state.pollRecvCq adapter (some count)).total + count = state.total := by
  rw [pollRecvCq_of_failed failed]
  simp only [total, List.length_drop]
  omega

variable (sound : state.Sound qpMaxRecvWr)
variable (goesOn : state.engine.rdmaFatalError = false)
variable (positive : 0 < count) (bounded : count ≤ 32)
variable (enough : count ≤ state.recvCq.length)
variable (success : state.AllSuccess count)

section Successful

include sound positive bounded enough success

theorem pollPosted_eq
    (posts : PostsRecvs adapter (Int32.ofNat count) state.peerQps) :
    (state.pollRecvCq adapter (some count)).engine =
        { state.engine with recvWrReplenishFailures := 0 } ∧
      (state.pollRecvCq adapter (some count)).peerQps.length = 1 ∧
      (state.pollRecvCq adapter (some count)).total = state.total := by
  obtain ⟨onePeer, _⟩ :=
    posted_postRecvWrs adapter sound.onePeer positive bounded
  have isOk :
      (postRecvWrs adapter (Int32.ofNat count) state.peerQps).1 = true := by
    obtain ⟨peer, isPeer⟩ := List.length_eq_one_iff.mp sound.onePeer
    rw [isPeer] at posts ⊢
    exact postRecvWrs_isOk.mpr posts
  have allPosted := (postRecvWrs_posted _ _).mpr posts
  rw [ofNat_toInt_toNat bounded] at allPosted
  rw [pollRecvCq_of_success positive enough success]
  refine ⟨if_pos isOk, onePeer, ?_⟩
  simp only [total, List.length_drop, allPosted]
  omega

theorem pollRefused_eq
    (refused : ¬ PostsRecvs adapter (Int32.ofNat count) state.peerQps) :
    (state.pollRecvCq adapter (some count)).engine =
        { state.engine with
          recvWrReplenishFailures := state.engine.recvWrReplenishFailures + 1
          rdmaFatalError :=
            decide
                (RDMAEngine.maxReplenishFailures ≤
                  state.engine.recvWrReplenishFailures + 1) ||
              state.engine.rdmaFatalError } ∧
      (state.pollRecvCq adapter (some count)).peerQps.length = 1 ∧
      (0 < (state.pollRecvCq adapter (some count)).total ↔
        count < state.total ∨ adapter.posts 0 = true) := by
  obtain ⟨onePeer, increased, first⟩ :=
    posted_postRecvWrs adapter sound.onePeer positive bounded
  have isRefused :
      ¬ (postRecvWrs adapter (Int32.ofNat count) state.peerQps).1 = true := by
    obtain ⟨peer, isPeer⟩ := List.length_eq_one_iff.mp sound.onePeer
    rw [isPeer] at refused ⊢
    exact mt postRecvWrs_isOk.mp refused
  rw [pollRecvCq_of_success positive enough success]
  simp only [if_neg isRefused]
  refine ⟨?_, onePeer, ?_⟩
  · by_cases tooOften :
        RDMAEngine.maxReplenishFailures ≤
          state.engine.recvWrReplenishFailures + 1
    · rw [if_pos tooOften, decide_eq_true tooOften, Bool.true_or]
    · rw [if_neg tooOften, decide_eq_false tooOften, Bool.false_or]
  · simp only [total, List.length_drop]
    rcases Nat.eq_zero_or_pos state.peerQps.posted with none | some
    · rw [none] at first ⊢
      rw [← first]
      omega
    · apply iff_of_true
      · omega
      · exact Or.inl (by omega)

end Successful

include sound in
theorem failures_succ
    (goesOn : state.engine.rdmaFatalError = false) :
    (state.engine.recvWrReplenishFailures + 1).toInt =
      state.engine.recvWrReplenishFailures.toInt + 1 := by
  have lower := sound.nonneg
  have upper := sound.below goesOn
  rw [Int32.toInt_add, Int32.toInt_one, Int.bmod_eq_of_le] <;>
    omega

include sound goesOn positive bounded enough in
/-- A poll of successful completions keeps what is sound, apart from what is
lost. -/
theorem Sound.poll_success
    (success : state.AllSuccess count)
    (detected :
      (state.pollRecvCq adapter (some count)).DrainDetected qpMaxRecvWr) :
    (state.pollRecvCq adapter (some count)).Sound qpMaxRecvWr := by
  by_cases posts :
      PostsRecvs adapter (Int32.ofNat count) state.peerQps
  · obtain ⟨isEngine, onePeer, _⟩ :=
      pollPosted_eq sound positive bounded enough success posts
    refine ⟨detected, onePeer, ?_, ?_⟩ <;>
      rw [isEngine] <;>
      dsimp only
    · decide
    · intro _
      decide
  · obtain ⟨isEngine, onePeer, _⟩ :=
      pollRefused_eq sound positive bounded enough success posts
    have oneMore := failures_succ sound goesOn
    have lower := sound.nonneg
    refine ⟨detected, onePeer, ?_, ?_⟩ <;>
      rw [isEngine]
    · dsimp only
      omega
    · intro notFatal
      have notTooOften := (Bool.or_eq_false_iff.mp notFatal).1
      rw [decide_eq_false_iff_not, Int32.not_le,
        Int32.lt_iff_toInt_lt] at notTooOften
      exact notTooOften

include sound in
theorem Sound.poll_failed
    (failed : ¬ state.AllSuccess count)
    (detected :
      (state.pollRecvCq adapter (some count)).DrainDetected qpMaxRecvWr) :
    (state.pollRecvCq adapter (some count)).Sound qpMaxRecvWr := by
  refine ⟨detected, ?_, ?_, ?_⟩ <;>
    rw [pollRecvCq_of_failed failed]
  · exact sound.onePeer
  · exact sound.nonneg
  · exact sound.below

include sound goesOn positive bounded enough in
theorem detected_poll_iff_of_posted
    (success : state.AllSuccess count)
    (posts : PostsRecvs adapter (Int32.ofNat count) state.peerQps) :
    (state.pollRecvCq adapter (some count)).DrainDetected qpMaxRecvWr ↔
      PollKeeps qpMaxRecvWr adapter count state := by
  obtain ⟨isEngine, _, sameTotal⟩ :=
    pollPosted_eq sound positive bounded enough success posts
  constructor
  · intro detected
    have all := detected.total_eq (by rw [isEngine])
    rw [sameTotal] at all
    exact
      ⟨absurd success, fun _ _ => all, fun _ refused => absurd posts refused⟩
  · intro keeps
    apply DrainDetected.of_total <;>
      rw [sameTotal]
    · intro _
      exact sound.detected.total_pos goesOn
    · intro _
      exact keeps.posted success posts

include sound goesOn positive bounded enough in
theorem detected_poll_iff_of_refused
    (success : state.AllSuccess count)
    (posts : ¬ PostsRecvs adapter (Int32.ofNat count) state.peerQps) :
    (state.pollRecvCq adapter (some count)).DrainDetected qpMaxRecvWr ↔
      PollKeeps qpMaxRecvWr adapter count state := by
  obtain ⟨isEngine, _, left⟩ :=
    pollRefused_eq sound positive bounded enough success posts
  have oneMore := failures_succ sound goesOn
  have lower := sound.nonneg
  constructor
  · intro detected
    refine ⟨absurd success, fun _ allPosted => absurd allPosted posts, ?_⟩
    intro _ _
    by_cases tooOften :
        RDMAEngine.maxReplenishFailures ≤
          state.engine.recvWrReplenishFailures + 1
    · exact Or.inl tooOften
    · apply Or.inr
      apply left.mp
      apply detected.total_pos
      rw [isEngine, decide_eq_false tooOften, goesOn]
      rfl
  · intro keeps
    apply DrainDetected.of_total <;>
      rw [isEngine]
    · intro notFatal
      have notTooOften := (Bool.or_eq_false_iff.mp notFatal).1
      rw [decide_eq_false_iff_not] at notTooOften
      rcases keeps.refused success posts with tooOften | some
      · exact absurd tooOften notTooOften
      · exact left.mpr some
    · intro noFailures
      have isZero :
          (state.engine.recvWrReplenishFailures + 1).toInt = 0 :=
        congrArg Int32.toInt noFailures
      omega

include sound goesOn positive enough in
theorem detected_poll_iff_of_failed (success : ¬ state.AllSuccess count) :
    (state.pollRecvCq adapter (some count)).DrainDetected qpMaxRecvWr ↔
      PollKeeps qpMaxRecvWr adapter count state := by
  have totalAfter := total_pollFailed adapter enough success
  have isEngine :
      (state.pollRecvCq adapter (some count)).engine = state.engine := by
    rw [pollRecvCq_of_failed success]
  constructor
  · intro detected
    refine ⟨?_, fun isSuccess => absurd isSuccess success,
      fun isSuccess => absurd isSuccess success⟩
    intro _
    have some := detected.total_pos (isEngine ▸ goesOn)
    refine ⟨?_, by omega⟩
    intro noFailures
    have all := detected.total_eq (isEngine ▸ noFailures)
    have allBefore := sound.detected.total_eq noFailures
    omega
  · intro keeps
    obtain ⟨someFailures, some⟩ := keeps.failed success
    apply DrainDetected.of_total
    · intro _
      omega
    · rw [isEngine]
      intro noFailures
      exact absurd noFailures someFailures

include sound goesOn positive bounded enough in
/-- A poll leaves a state in which draining is detected exactly if it is as it
should be. -/
theorem detected_poll_iff :
    (state.pollRecvCq adapter (some count)).DrainDetected qpMaxRecvWr ↔
      PollKeeps qpMaxRecvWr adapter count state := by
  by_cases success : state.AllSuccess count
  · by_cases posts :
        PostsRecvs adapter (Int32.ofNat count) state.peerQps
    · exact
        detected_poll_iff_of_posted sound goesOn positive bounded enough success
          posts
    · exact
        detected_poll_iff_of_refused sound goesOn positive bounded enough
          success posts
  · exact detected_poll_iff_of_failed sound goesOn positive enough success

end Polled

/-! ## Runs -/

section Runs

variable {qpMaxRecvWr : Int32} {state next : RecvPolling}

theorem step_poll_eq_some
    {polled : Option Nat} {adapter : AdapterAnswers}
    (taken : step state (.poll polled adapter) = some next) :
    state.engine.rdmaFatalError = false ∧
      (∀ count ∈ polled, count ≤ 32 ∧ count ≤ state.recvCq.length) ∧
      next = state.pollRecvCq adapter polled := by
  rw [step] at taken
  split at taken
  · rename_i enabled
    cases taken
    exact ⟨enabled.1, enabled.2, rfl⟩
  · cases taken

theorem Sound.step
    {action : RecvPollAction} (sound : state.Sound qpMaxRecvWr)
    (taken : RecvPolling.step state action = some next)
    (keeps : KeepsCredits qpMaxRecvWr state action) :
    next.Sound qpMaxRecvWr := by
  cases action with
  | arrive peerId completion =>
      exact sound.arrive taken
  | poll polled adapter =>
      obtain ⟨goesOn, enabled, isNext⟩ := step_poll_eq_some taken
      rw [isNext]
      cases polled with
      | none =>
          exact sound
      | some count =>
          obtain ⟨bounded, enough⟩ := enabled count rfl
          rcases Nat.eq_zero_or_pos count with none | positive
          · rw [none, pollRecvCq_zero]
            exact sound
          · have detected :=
              (detected_poll_iff sound goesOn positive bounded enough).mpr
                (keeps count rfl positive)
            by_cases success : state.AllSuccess count
            · exact
                sound.poll_success goesOn positive bounded enough success
                  detected
            · exact sound.poll_failed success detected

theorem keepsCredits_of_detected
    {action : RecvPollAction} (sound : state.Sound qpMaxRecvWr)
    (taken : RecvPolling.step state action = some next)
    (detected : next.DrainDetected qpMaxRecvWr) :
    KeepsCredits qpMaxRecvWr state action := by
  cases action with
  | arrive peerId completion =>
      trivial
  | poll polled adapter =>
      obtain ⟨goesOn, enabled, isNext⟩ := step_poll_eq_some taken
      intro count isCount positive
      rw [isCount] at isNext enabled
      obtain ⟨bounded, enough⟩ := enabled count rfl
      rw [isNext] at detected
      exact
        (detected_poll_iff sound goesOn positive bounded enough).mp detected

end Runs

/-- A successful connection of the only peer posts the whole number of receive work
requests. -/
theorem connected_onePeer
    {nodeInfo : NodeInfo} {adapter : AdapterAnswers} {qpMaxRecvWr : Int32}
    {peer : ByteString × QueuePair} {connected : PeerQps}
    (isDecode : nodeInfo.role = .decode)
    (new : peer.2.recvWrs = 0)
    (succeeded :
      connectAllQps nodeInfo qpMaxRecvWr adapter [peer] =
        (true, connected)) :
    connected.length = 1 ∧ connected.posted = qpMaxRecvWr.toInt.toNat := by
  have isNew : ∀ listed ∈ [peer], listed.2.recvWrs = 0 := by
    intro listed member
    rw [List.mem_singleton.mp member]
    exact new
  obtain ⟨_, conserved⟩ :=
    RecvQueues.conserved_connectAllQps isDecode isNew succeeded
  exact
    ⟨RecvQueues.length_connectAllQps isDecode isNew succeeded,
      conserved.total_eq⟩

theorem sound_start
    {qpMaxRecvWr : Int32} {connected : PeerQps} {engine : RDMAEngine}
    (onePeer : connected.length = 1)
    (isPosted : connected.posted = qpMaxRecvWr.toInt.toNat)
    (noFailures : engine.recvWrReplenishFailures = 0)
    (isPositive : 0 < qpMaxRecvWr.toInt) :
    Sound qpMaxRecvWr ⟨engine, connected, []⟩ := by
  refine ⟨⟨?_, ?_⟩, onePeer, ?_, ?_⟩
  · intro _
    exact Or.inl (by dsimp only; omega)
  · intro _
    dsimp only [List.length_nil]
    omega
  · dsimp only
    rw [noFailures]
    decide
  · intro _
    dsimp only
    rw [noFailures]
    decide

/-- Whether the number of failures tells throughout a run that the queue drains
depends on the polls alone. -/
theorem drain_detected_iff
    {nodeInfo : NodeInfo} {adapter : AdapterAnswers} {qpMaxRecvWr : Int32}
    {peer : ByteString × QueuePair} {connected : PeerQps}
    {engine : RDMAEngine} {actions : List RecvPollAction}
    {final : RecvPolling}
    (isDecode : nodeInfo.role = .decode)
    (new : peer.2.recvWrs = 0)
    (succeeded :
      connectAllQps nodeInfo qpMaxRecvWr adapter [peer] = (true, connected))
    (noFailures : engine.recvWrReplenishFailures = 0)
    (notFatal : engine.rdmaFatalError = false)
    (run :
      LabelledRuns.execute step ⟨engine, connected, []⟩ actions =
        some final) :
    LabelledRuns.Throughout step (DrainDetected qpMaxRecvWr)
        ⟨engine, connected, []⟩ actions ↔
      0 < qpMaxRecvWr ∧
        LabelledRuns.Meets step (KeepsCredits qpMaxRecvWr)
          ⟨engine, connected, []⟩ actions := by
  obtain ⟨onePeer, isPosted⟩ := connected_onePeer isDecode new succeeded
  by_cases positive : 0 < qpMaxRecvWr
  · have isPositive : 0 < qpMaxRecvWr.toInt :=
      Int32.lt_iff_toInt_lt.mp positive
    have preserved
        (state : RecvPolling) (action : RecvPollAction) (next : RecvPolling)
        (taken : step state action = some next)
        (keeps : KeepsCredits qpMaxRecvWr state action)
        (sound : state.Sound qpMaxRecvWr) : next.Sound qpMaxRecvWr :=
      sound.step taken keeps
    have complete
        (state : RecvPolling) (action : RecvPollAction) (next : RecvPolling)
        (taken : step state action = some next)
        (sound : state.Sound qpMaxRecvWr)
        (detected : next.DrainDetected qpMaxRecvWr) :
        KeepsCredits qpMaxRecvWr state action :=
      keepsCredits_of_detected sound taken detected
    rw [and_iff_right positive]
    exact
      LabelledRuns.throughout_iff_meets preserved
        (fun _ sound => sound.detected) complete run
        (sound_start onePeer isPosted noFailures isPositive)
  · refine iff_of_false ?_ (fun both => positive both.1)
    intro throughout
    have isNotPositive : ¬ 0 < qpMaxRecvWr.toInt := fun isPositive =>
      positive (Int32.lt_iff_toInt_lt.mpr isPositive)
    rcases throughout.start.undrained notFatal with some | some
    · dsimp only at some
      omega
    · exact some rfl

/-- An engine nothing has happened to. -/
def sampleEngine : RDMAEngine where
  kvBufferMb := 1
  hostOrder := .littleEndian
  mem := ⟨1048576, 7, 4096⟩
  qmaps := RecvQueues.sampleDecodeInfo.qmaps

/-- Its completions. -/
def sampleCompletion : RecvCompletion where
  success := true
  immBytes := [0, 0, 0, 0]
  qpNum := 37
  byteLen := 64

/-- An adapter that refuses all receive work requests. -/
def reluctantAdapter : AdapterAnswers where
  modifies _ _ := true
  posts _ := false

/-- A queue pair that is connected with two receive work requests. -/
def sampleDraining : RecvPolling where
  engine := sampleEngine
  peerQps :=
    (connectAllQps RecvQueues.sampleDecodeInfo 2 RecvQueues.willingAdapter
      [([1], { qpNum := 37 })]).2
  recvCq := []

theorem drain_detected_iff_replenished :
    LabelledRuns.Throughout step (DrainDetected 2) sampleDraining
      [.arrive [1] sampleCompletion, .poll (some 1) RecvQueues.willingAdapter] := by
  have succeeded :
      connectAllQps RecvQueues.sampleDecodeInfo 2 RecvQueues.willingAdapter
          [([1], { qpNum := 37 })] =
        (true, sampleDraining.peerQps) := by
    decide
  apply (drain_detected_iff (by decide) rfl succeeded rfl rfl rfl).mpr
  refine ⟨by decide, trivial, ?_⟩
  intro next taken
  cases taken
  refine ⟨?_, fun _ _ => trivial⟩
  intro count isCount _
  cases isCount
  have success : AllSuccess
      { sampleDraining with recvCq := [sampleCompletion] } 1 := by
    decide
  refine ⟨fun failed => absurd success failed, fun _ _ => rfl, ?_⟩
  intro _ _
  exact Or.inr (Or.inr rfl)

/-- Two polls whose work requests are refused drain a queue of two work requests,
and the engine goes on. -/
theorem drained_unnoticed :
    ∃ drained,
      LabelledRuns.execute step sampleDraining
          [.arrive [1] sampleCompletion, .poll (some 1) reluctantAdapter,
            .arrive [1] sampleCompletion, .poll (some 1) reluctantAdapter] =
        some drained ∧
      drained.engine.rdmaFatalError = false ∧
        drained.peerQps.posted = 0 ∧ drained.recvCq = [] ∧
        ¬ LabelledRuns.Throughout step (DrainDetected 2) sampleDraining
            [.arrive [1] sampleCompletion, .poll (some 1) reluctantAdapter,
              .arrive [1] sampleCompletion,
              .poll (some 1) reluctantAdapter] := by
  refine ⟨_, rfl, rfl, by decide, rfl, ?_⟩
  intro throughout
  have last := (throughout.2 _ rfl).2 _ rfl
  have detected := ((last.2 _ rfl).2 _ rfl).start
  rcases detected.undrained rfl with some | some
  · revert some
    decide
  · exact some rfl

end RecvPolling

end RdmaKvCache
