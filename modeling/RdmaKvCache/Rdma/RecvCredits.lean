import RdmaKvCache.Library.LabelledRuns
import RdmaKvCache.Rdma.QueuePairs

/-!
# Receive credits

A message that arrives on a queue pair uses up a receive work request of that
queue pair and leaves a completion in the queue all queue pairs share.
`poll_recv_cq` takes completions off this queue and posts as many receive work
requests as it has taken, all of them to the first queue pair.
-/

namespace RdmaKvCache

/-- Each completion is given as the peer on whose queue pair the message has
arrived. -/
structure RecvQueues where
  peerQps : PeerQps
  recvCq : List ByteString

/-- A message can arrive if a receive work request is posted to the queue pair of
the peer. -/
def PeerQps.consume (peerId : ByteString) : PeerQps → Option PeerQps
  | [] => none
  | (tested, qp) :: rest =>
      if tested = peerId then
        if 0 < qp.recvWrs then
          some ((tested, { qp with recvWrs := qp.recvWrs - 1 }) :: rest)
        else
          none
      else
        (consume peerId rest).map fun others => (tested, qp) :: others

inductive RecvAction where
  | arrive (peerId : ByteString)
  | pollRecvCq (polled : Int32)

namespace RecvQueues

/-- All completions are successful; `polled` is what `ibv_poll_cq` returns. -/
def pollRecvCq
    (adapter : AdapterAnswers) (polled : Int32) (queues : RecvQueues) :
    Option RecvQueues :=
  if polled.toInt.toNat ≤ queues.recvCq.length then
    some
      { peerQps :=
          if 0 < polled then
            (postRecvWrs adapter polled queues.peerQps).2
          else
            queues.peerQps
        recvCq := queues.recvCq.drop polled.toInt.toNat }
  else
    none

def step (adapter : AdapterAnswers) (queues : RecvQueues) :
    RecvAction → Option RecvQueues
  | .arrive peerId =>
      (queues.peerQps.consume peerId).map fun peerQps =>
        { peerQps := peerQps, recvCq := queues.recvCq ++ [peerId] }
  | .pollRecvCq polled => queues.pollRecvCq adapter polled

/-- The receive work requests that are posted and those that are used up. -/
def total (queues : RecvQueues) : Nat :=
  queues.peerQps.posted + queues.recvCq.length

/-- The credits of every queue pair add up to the configured number. -/
def HasCredits (qpMaxRecvWr : Int32) (queues : RecvQueues) : Prop :=
  ∀ peer ∈ queues.peerQps,
    ((peer.2.recvWrs + queues.recvCq.count peer.1 : Nat) : Int) =
      qpMaxRecvWr.toInt

end RecvQueues

/-! ## Credits in all -/

theorem PeerQps.consume_eq_some
    {peerId : ByteString} {peerQps next : PeerQps}
    (consumed : peerQps.consume peerId = some next) :
    next.posted + 1 = peerQps.posted ∧
      next.map Prod.fst = peerQps.map Prod.fst ∧
      peerId ∈ peerQps.map Prod.fst := by
  induction peerQps generalizing next with
  | nil =>
      cases consumed
  | cons peer rest inductionHypothesis =>
      rw [consume] at consumed
      split at consumed
      · rename_i isPeer
        split at consumed
        · cases consumed
          simp only [posted, List.map_cons, List.sum_cons]
          refine ⟨by omega, trivial, ?_⟩
          rw [isPeer]
          exact List.mem_cons_self
        · cases consumed
      · obtain ⟨others, later, same⟩ := Option.map_eq_some_iff.mp consumed
        obtain ⟨onePosted, samePeers, listed⟩ := inductionHypothesis later
        rw [← same]
        simp only [posted, List.map_cons, List.sum_cons] at onePosted ⊢
        refine ⟨by omega, by rw [samePeers], List.mem_cons_of_mem _ listed⟩

theorem postRecvWrs_fst
    (adapter : AdapterAnswers) (count : Int32) (peerQps : PeerQps) :
    (postRecvWrs adapter count peerQps).2.map Prod.fst =
      peerQps.map Prod.fst := by
  cases peerQps <;>
    rfl

theorem postRecvWrs_posted_of_success
    {adapter : AdapterAnswers} {count : Int32} {peerQps after : PeerQps}
    (succeeded : postRecvWrs adapter count peerQps = (true, after)) :
    peerQps ≠ [] ∧ after.posted = peerQps.posted + count.toInt.toNat := by
  cases peerQps with
  | nil =>
      cases succeeded
  | cons peer rest =>
      refine ⟨List.cons_ne_nil peer rest, ?_⟩
      obtain ⟨posted, result, _, succeeds, _⟩ :=
        peer.2.postRecvs_eq adapter count.toInt.toNat
      have isPosted :
          (peer.2.postRecvs adapter count.toInt.toNat).1 = true :=
        congrArg Prod.fst succeeded
      have isAfter : (postRecvWrs adapter count (peer :: rest)).2 = after :=
        congrArg Prod.snd succeeded
      rw [← isAfter]
      simp only [postRecvWrs, PeerQps.posted, List.map_cons, List.sum_cons,
        result, succeeds.mp isPosted]
      omega

theorem postsRecvs_of_posts
    {adapter : AdapterAnswers} (count : Int32) {peerQps : PeerQps}
    (posts : ∀ k, adapter.posts k = true) (somePeer : peerQps ≠ []) :
    PostsRecvs adapter count peerQps := by
  intro k _
  cases peerQps with
  | nil =>
      exact absurd rfl somePeer
  | cons peer rest =>
      exact ⟨peer, rfl, posts _⟩

namespace RecvQueues

/-- What no arrival and no poll changes: the credits in all, and whose they are. -/
structure Conserved (credits : Nat) (peers : List ByteString)
    (queues : RecvQueues) : Prop where
  total_eq : queues.total = credits
  peers_eq : queues.peerQps.map Prod.fst = peers
  arrived : queues.recvCq ⊆ peers

section Conservation

variable {adapter : AdapterAnswers} {credits : Nat} {peers : List ByteString}
  {queues next : RecvQueues}

theorem Conserved.arrive
    {peerId : ByteString}
    (conserved : Conserved credits peers queues)
    (stepped : queues.step adapter (.arrive peerId) = some next) :
    Conserved credits peers next := by
  obtain ⟨peerQps, consumed, isNext⟩ := Option.map_eq_some_iff.mp stepped
  obtain ⟨onePosted, samePeers, listed⟩ := PeerQps.consume_eq_some consumed
  have wasTotal := conserved.total_eq
  rw [← isNext]
  refine ⟨?_, samePeers.trans conserved.peers_eq, ?_⟩
  · simp only [total, List.length_append, List.length_singleton]
      at wasTotal ⊢
    omega
  · rw [conserved.peers_eq] at listed
    intro tested member
    rcases List.mem_append.mp member with earlier | last
    · exact conserved.arrived earlier
    · rw [List.mem_singleton.mp last]
      exact listed

theorem Conserved.pollRecvCq
    {polled : Int32} (posts : ∀ k, adapter.posts k = true)
    (conserved : Conserved credits peers queues)
    (stepped : queues.step adapter (.pollRecvCq polled) = some next) :
    Conserved credits peers next := by
  have wasTotal := conserved.total_eq
  simp only [step, RecvQueues.pollRecvCq] at stepped
  split at stepped
  · rename_i enough
    cases stepped
    refine ⟨?_, ?_, ?_⟩
    · by_cases positive : 0 < polled
      · have somePolled : 0 < polled.toInt :=
          Int32.lt_iff_toInt_lt.mp positive
        have somePeer : queues.peerQps ≠ [] := by
          intro none
          have noPeers := conserved.peers_eq
          rw [none] at noPeers
          have noneArrived := conserved.arrived
          rw [← noPeers] at noneArrived
          have empty := List.eq_nil_of_subset_nil noneArrived
          rw [empty, List.length_nil] at enough
          omega
        have posted :=
          (postRecvWrs_posted polled queues.peerQps).mpr
            (postsRecvs_of_posts polled posts somePeer)
        simp only [total, if_pos positive, List.length_drop, posted]
          at wasTotal ⊢
        omega
      · have nonePolled : polled.toInt.toNat = 0 := by
          have notPositive : ¬ 0 < polled.toInt := fun isPositive =>
            positive (Int32.lt_iff_toInt_lt.mpr isPositive)
          omega
        simp only [total, if_neg positive, nonePolled,
          List.drop_zero] at wasTotal ⊢
        exact wasTotal
    · dsimp only
      split
      · rw [postRecvWrs_fst]
        exact conserved.peers_eq
      · exact conserved.peers_eq
    · intro tested member
      exact conserved.arrived (List.mem_of_mem_drop member)
  · cases stepped

theorem Conserved.execute
    {actions : List RecvAction} {final : RecvQueues}
    (posts : ∀ k, adapter.posts k = true)
    (conserved : Conserved credits peers queues)
    (run : LabelledRuns.execute (step adapter) queues actions = some final) :
    Conserved credits peers final :=
  LabelledRuns.invariant_of_execute
    (fun _ action _ taken holds => by
      cases action with
      | arrive =>
          exact holds.arrive taken
      | pollRecvCq =>
          exact holds.pollRecvCq posts taken)
    run conserved

end Conservation

/-- With one peer all credits are those of its queue pair. -/
theorem Conserved.hasCredits_of_one
    {qpMaxRecvWr : Int32} {queues : RecvQueues} {peers : List ByteString}
    (nonneg : 0 ≤ qpMaxRecvWr) (onePeer : peers.length = 1)
    (conserved : Conserved qpMaxRecvWr.toInt.toNat peers queues) :
    queues.HasCredits qpMaxRecvWr := by
  have isNonneg : 0 ≤ qpMaxRecvWr.toInt := Int32.le_iff_toInt_le.mp nonneg
  obtain ⟨peerId, isPeer⟩ := List.length_eq_one_iff.mp onePeer
  have samePeers := conserved.peers_eq
  rw [isPeer] at samePeers
  obtain ⟨peer, isOnly, isFirst⟩ := List.map_eq_singleton_iff.mp samePeers
  have allArrived : queues.recvCq.count peerId = queues.recvCq.length := by
    apply List.count_eq_length.mpr
    intro tested member
    have listed := conserved.arrived member
    rw [isPeer] at listed
    exact (List.mem_singleton.mp listed).symm
  have isTotal := conserved.total_eq
  simp only [total, isOnly, PeerQps.posted, List.map_singleton,
    List.sum_singleton] at isTotal
  intro tested listed
  rw [isOnly] at listed
  rw [List.mem_singleton.mp listed, isFirst, allArrived]
  omega

/-- Without credits nothing happens. -/
theorem Conserved.hasCredits_of_none
    {queues : RecvQueues} {peers : List ByteString}
    (conserved : Conserved 0 peers queues) :
    queues.HasCredits 0 := by
  have isTotal := conserved.total_eq
  rw [total] at isTotal
  have noneArrived : queues.recvCq = [] := by
    apply List.eq_nil_of_length_eq_zero
    omega
  have nonePosted : queues.peerQps.posted = 0 := by
    omega
  intro peer listed
  have isNone : peer.2.recvWrs = 0 :=
    List.sum_eq_zero_iff_forall_eq_nat.mp nonePosted _
      (List.mem_map.mpr ⟨peer, listed, rfl⟩)
  rw [noneArrived, isNone, List.count_nil]
  rfl

/-! ## The queue pairs of a decode node -/

/-- After connecting every queue pair has the configured number of receive work
requests, and after each poll its credits add up to that number. -/
def CreditsKept
    (adapter : AdapterAnswers) (qpMaxRecvWr : Int32) (connected : PeerQps) :
    Prop :=
  (∀ peer ∈ connected, (peer.2.recvWrs : Int) = qpMaxRecvWr.toInt) ∧
    ∀ actions polled final,
      LabelledRuns.execute (step adapter) ⟨connected, []⟩
          (actions ++ [.pollRecvCq polled]) =
        some final →
          final.HasCredits qpMaxRecvWr

section Connected

variable {nodeInfo : NodeInfo} {adapter : AdapterAnswers}
  {qpMaxRecvWr : Int32} {peerQps connected : PeerQps}

/-- The credits in all are the configured number once, not once for each peer. -/
theorem conserved_connectAllQps
    (isDecode : nodeInfo.role = .decode)
    (new : ∀ peer ∈ peerQps, peer.2.recvWrs = 0)
    (succeeded :
      connectAllQps nodeInfo qpMaxRecvWr adapter peerQps =
        (true, connected)) :
    connected ≠ [] ∧
      Conserved qpMaxRecvWr.toInt.toNat (peerQps.map Prod.fst)
        ⟨connected, []⟩ := by
  have sameRecvWrs := connectPeers_recvWrs nodeInfo adapter peerQps
  have samePeers := connectPeers_fst nodeInfo adapter peerQps
  have nonePosted : peerQps.posted = 0 := by
    apply List.sum_eq_zero_iff_forall_eq_nat.mpr
    intro recvWrs member
    obtain ⟨peer, listed, same⟩ := List.mem_map.mp member
    rw [← same]
    exact new peer listed
  rw [connectAllQps] at succeeded
  rcases ofPeers : connectPeers nodeInfo adapter peerQps with ⟨allOk, after⟩
  rw [ofPeers] at succeeded sameRecvWrs samePeers
  cases allOk with
  | false =>
      cases succeeded
  | true =>
      dsimp only at succeeded sameRecvWrs samePeers
      rw [if_pos isDecode] at succeeded
      obtain ⟨somePeer, postedAll⟩ :=
        postRecvWrs_posted_of_success succeeded
      have keptPeers := postRecvWrs_fst adapter qpMaxRecvWr after
      rw [succeeded] at keptPeers
      have alsoNone : after.posted = 0 := by
        unfold PeerQps.posted at nonePosted ⊢
        rw [sameRecvWrs, nonePosted]
      refine ⟨?_, ?_, keptPeers.trans samePeers, List.nil_subset _⟩
      · intro none
        rw [none] at keptPeers
        exact somePeer (List.map_eq_nil_iff.mp keptPeers.symm)
      · simp only [total, List.length_nil]
        omega

theorem length_connectAllQps
    (isDecode : nodeInfo.role = .decode)
    (new : ∀ peer ∈ peerQps, peer.2.recvWrs = 0)
    (succeeded :
      connectAllQps nodeInfo qpMaxRecvWr adapter peerQps =
        (true, connected)) :
    connected.length = peerQps.length := by
  obtain ⟨_, conserved⟩ := conserved_connectAllQps isDecode new succeeded
  have sameLength := congrArg List.length conserved.peers_eq
  rwa [List.length_map, List.length_map] at sameLength

/-- Each queue pair has the configured number only if there is one, or the number
is zero. -/
theorem one_or_none_of_eachPosted
    (somePeer : connected ≠ [])
    (isTotal : connected.posted = qpMaxRecvWr.toInt.toNat)
    (each :
      ∀ peer ∈ connected, (peer.2.recvWrs : Int) = qpMaxRecvWr.toInt) :
    qpMaxRecvWr = 0 ∨ 0 < qpMaxRecvWr ∧ connected.length = 1 := by
  have eachPosted (peer : ByteString × QueuePair)
      (listed : peer ∈ connected) :
      peer.2.recvWrs = qpMaxRecvWr.toInt.toNat := by
    have isPosted := each peer listed
    omega
  have inAll :
      connected.posted = connected.length * qpMaxRecvWr.toInt.toNat := by
    rw [PeerQps.posted]
    rw [List.map_congr_left eachPosted, List.map_const',
      List.sum_replicate_nat]
  have isNonneg : 0 ≤ qpMaxRecvWr.toInt := by
    obtain ⟨peer, listed⟩ := List.exists_mem_of_ne_nil connected somePeer
    have isPosted := each peer listed
    omega
  by_cases none : qpMaxRecvWr.toInt = 0
  · exact Or.inl (Int32.toInt_inj.mp none)
  · apply Or.inr
    have positiveInt : 0 < qpMaxRecvWr.toInt := by
      omega
    refine ⟨Int32.lt_iff_toInt_lt.mpr positiveInt, ?_⟩
    have positive : 0 < qpMaxRecvWr.toInt.toNat := by
      omega
    apply Nat.eq_of_mul_eq_mul_right positive
    rw [← inAll, isTotal, Nat.one_mul]

/-- The credits of all queue pairs are kept exactly if there is one peer, or there
are no credits to keep. -/
theorem recv_credits_kept_iff
    (isDecode : nodeInfo.role = .decode)
    (new : ∀ peer ∈ peerQps, peer.2.recvWrs = 0)
    (posts : ∀ k, adapter.posts k = true)
    (succeeded :
      connectAllQps nodeInfo qpMaxRecvWr adapter peerQps =
        (true, connected)) :
    CreditsKept adapter qpMaxRecvWr connected ↔
      qpMaxRecvWr = 0 ∨ 0 < qpMaxRecvWr ∧ peerQps.length = 1 := by
  obtain ⟨somePeer, conserved⟩ :=
    conserved_connectAllQps isDecode new succeeded
  have samePeers := length_connectAllQps isDecode new succeeded
  constructor
  · intro kept
    rw [← samePeers]
    exact one_or_none_of_eachPosted somePeer conserved.total_eq kept.1
  · intro condition
    have hasCredits (queues : RecvQueues)
        (holds :
          Conserved qpMaxRecvWr.toInt.toNat (peerQps.map Prod.fst) queues) :
        queues.HasCredits qpMaxRecvWr := by
      rcases condition with none | one
      · rw [none] at holds ⊢
        exact holds.hasCredits_of_none
      · apply holds.hasCredits_of_one
        · exact Int32.le_of_lt one.1
        · rw [List.length_map]
          exact one.2
    refine ⟨?_, ?_⟩
    · intro peer listed
      have credits := hasCredits _ conserved peer listed
      rwa [List.count_nil, Nat.add_zero] at credits
    · intro actions polled final run
      exact hasCredits final (conserved.execute posts run)

end Connected

/-- A decode node with two prefill peers. -/
def sampleDecodeInfo : NodeInfo :=
  { NodeInfo.healthy [3] .decode with
    qmaps :=
      [{ PeerInfoandQPs.created [1] ⟨37, 3, none, 5⟩ with remoteQpNum := 17 },
        { PeerInfoandQPs.created [2] ⟨38, 3, none, 6⟩ with
          remoteQpNum := 18 }] }

/-- Its adapter never refuses. -/
def willingAdapter : AdapterAnswers where
  modifies _ _ := true
  posts _ := true

def sampleConnected (peerIds : List ByteString) : Bool × PeerQps :=
  connectAllQps sampleDecodeInfo 4 willingAdapter
    (peerIds.map fun peerId => (peerId, { qpNum := 37 }))

theorem recv_credits_kept_iff_onePeer :
    (sampleConnected [[1]]).1 = true ∧
      CreditsKept willingAdapter 4 (sampleConnected [[1]]).2 := by
  have succeeded :
      sampleConnected [[1]] = (true, (sampleConnected [[1]]).2) := by
    decide
  refine ⟨by rw [succeeded], ?_⟩
  apply (recv_credits_kept_iff (by decide) _ (fun _ => rfl) succeeded).mpr
  · exact Or.inr ⟨by decide, rfl⟩
  · intro peer listed
    rw [List.mem_singleton.mp listed]

/-- The second peer's queue pair gets no receive work request. -/
theorem second_peer_without_credits :
    (sampleConnected [[1], [2]]).1 = true ∧
      ¬ CreditsKept willingAdapter 4 (sampleConnected [[1], [2]]).2 := by
  refine ⟨by decide, ?_⟩
  intro kept
  have eachPosted :
      ∀ peer ∈ (sampleConnected [[1], [2]]).2, (peer.2.recvWrs : Int) = 4 :=
    kept.1
  revert eachPosted
  decide

end RecvQueues

end RdmaKvCache
