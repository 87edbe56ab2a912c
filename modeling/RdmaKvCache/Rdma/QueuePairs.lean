import Mathlib.Algebra.GroupWithZero.Nat
import RdmaKvCache.Common.Types

/-!
# Queue pairs

The engine makes one queue pair for each expected peer, publishes its local
values in `qmaps`, connects all of them once the remote values are known, and
posts receive work requests on a decode node.

`peer_qps_` is a list in the order in which the map is traversed, which is not
specified.  What the adapter answers comes from outside; a transition or a work
request it refuses leaves the queue pair as it is.
-/

namespace RdmaKvCache

inductive QpState where
  | init
  | readyToReceive
  | readyToSend
  deriving DecidableEq

/-- A queue pair with the attributes its transitions set, and the number of
receive work requests posted to it. -/
structure QueuePair where
  qpNum : UInt32
  state : QpState := .init
  destQpNum : UInt32 := 0
  rqPsn : UInt32 := 0
  dlid : UInt16 := 0
  dgid : Vector UInt8 16 := .replicate 16 0
  sqPsn : UInt32 := 0
  recvWrs : Nat := 0
  deriving DecidableEq

/-- A queue pair as the adapter has made it, the identifiers of the port and a
random number. -/
structure CreatedQueuePair where
  qpNum : UInt32
  lid : UInt16
  gid : Option (Vector UInt8 16)
  random : UInt32

abbrev PeerQps := List (ByteString × QueuePair)

/-! ## Making queue pairs -/

def expectedPeers
    (role : NodeRole) (prefillNodes decodeNodes : List ByteString) :
    List ByteString :=
  match role with
  | .prefill => decodeNodes
  | .decode => prefillNodes
  | _ => []

/-- The local values of a queue pair; nothing is known of the remote ones. -/
def PeerInfoandQPs.created
    (peerId : ByteString) (created : CreatedQueuePair) : PeerInfoandQPs where
  peerNodeId := peerId
  localQpNum := created.qpNum
  localLid := created.lid
  localGid := created.gid.getD (.replicate 16 0)
  localPsn := created.random &&& 0x00FFFFFF
  remoteQpNum := 0
  remoteLid := 0
  remoteGid := .replicate 16 0
  remotePsn := 0
  remoteRkey := 0
  remoteAddr := 0

def createQpForPeer
    (nodeInfo : NodeInfo) (peerId : ByteString) (created : CreatedQueuePair) :
    NodeInfo × QueuePair :=
  ({ nodeInfo with
      qmaps := nodeInfo.qmaps ++ [.created peerId created] },
    { qpNum := created.qpNum })

/-- Assignment through `operator[]`. -/
def PeerQps.store (peerQps : PeerQps) (peerId : ByteString) (qp : QueuePair) :
    PeerQps :=
  (peerId, qp) :: peerQps.filter fun peer => decide (peer.1 ≠ peerId)

/-- The loop over the expected peers; `creates` tells what becomes of each
attempt to make a queue pair. -/
def createPeerQps (creates : Nat → Option CreatedQueuePair) :
    List ByteString → NodeInfo × PeerQps → Option (NodeInfo × PeerQps)
  | [], made => some made
  | peerId :: rest, (nodeInfo, peerQps) =>
      (creates nodeInfo.qmaps.length).bind fun created =>
        let (withQp, qp) := createQpForPeer nodeInfo peerId created
        createPeerQps creates rest (withQp, peerQps.store peerId qp)

/-! ## Connecting queue pairs -/

/-- The first entry for the peer. -/
def NodeInfo.findPeerInfo (nodeInfo : NodeInfo) (peerId : ByteString) :
    Option PeerInfoandQPs :=
  nodeInfo.qmaps.find? fun qmap => decide (qmap.peerNodeId = peerId)

def QueuePair.toRtr (qp : QueuePair) (peerInfo : PeerInfoandQPs) : QueuePair :=
  { qp with
    state := .readyToReceive
    destQpNum := peerInfo.remoteQpNum
    rqPsn := peerInfo.remotePsn
    dlid := peerInfo.remoteLid
    dgid := peerInfo.remoteGid }

def QueuePair.toRts (qp : QueuePair) (peerInfo : PeerInfoandQPs) : QueuePair :=
  { qp with
    state := .readyToSend
    sqPsn := peerInfo.localPsn }

/-- What the adapter answers: whether the queue pair of a peer makes the
transition to a state, and whether a receive work request is posted when a
number of them are. -/
structure AdapterAnswers where
  modifies : ByteString → QpState → Bool
  posts : Nat → Bool

def connectQpToPeer
    (nodeInfo : NodeInfo) (adapter : AdapterAnswers) (peerId : ByteString)
    (qp : QueuePair) : Bool × QueuePair :=
  match nodeInfo.findPeerInfo peerId with
  | none => (false, qp)
  | some peerInfo =>
      if peerInfo.remoteQpNum = 0 then
        (false, qp)
      else if adapter.modifies peerId .readyToReceive then
        let receiving := qp.toRtr peerInfo
        if adapter.modifies peerId .readyToSend then
          (true, receiving.toRts peerInfo)
        else
          (false, receiving)
      else
        (false, qp)

/-- The loop of `connect_all_qps`, which ends at the first failure. -/
def connectPeers (nodeInfo : NodeInfo) (adapter : AdapterAnswers) :
    PeerQps → Bool × PeerQps
  | [] => (true, [])
  | (peerId, qp) :: rest =>
      match connectQpToPeer nodeInfo adapter peerId qp with
      | (false, stuck) => (false, (peerId, stuck) :: rest)
      | (true, connected) =>
          let (allConnected, others) := connectPeers nodeInfo adapter rest
          (allConnected, (peerId, connected) :: others)

/-- Post up to `count` receive work requests, until one is refused. -/
def QueuePair.postRecvs (adapter : AdapterAnswers) :
    Nat → QueuePair → Bool × QueuePair
  | 0, qp => (true, qp)
  | count + 1, qp =>
      if adapter.posts qp.recvWrs then
        { qp with recvWrs := qp.recvWrs + 1 }.postRecvs adapter count
      else
        (false, qp)

/-- The first queue pair gets all receive work requests. -/
def postRecvWrs
    (adapter : AdapterAnswers) (count : Int32) (peerQps : PeerQps) :
    Bool × PeerQps :=
  match peerQps with
  | [] => (false, [])
  | (peerId, qp) :: rest =>
      let (posted, anyQp) := qp.postRecvs adapter count.toInt.toNat
      (posted, (peerId, anyQp) :: rest)

def connectAllQps
    (nodeInfo : NodeInfo) (qpMaxRecvWr : Int32) (adapter : AdapterAnswers)
    (peerQps : PeerQps) : Bool × PeerQps :=
  match connectPeers nodeInfo adapter peerQps with
  | (false, stuck) => (false, stuck)
  | (true, connected) =>
      if nodeInfo.role = .decode then
        postRecvWrs adapter qpMaxRecvWr connected
      else
        (true, connected)

/-! ## What the queue pairs have when they are made -/

/-- A queue pair nothing has been done with, and what is known of its peer. -/
structure FreshPeer (nodeInfo : NodeInfo) (peer : ByteString × QueuePair) :
    Prop where
  state : peer.2.state = .init
  recvWrs : peer.2.recvWrs = 0
  known :
    ∃ peerInfo,
      nodeInfo.findPeerInfo peer.1 = some peerInfo ∧
        peerInfo.remoteQpNum = 0

/-- The queue pairs as `initialize` leaves them, in some order. -/
structure FreshPeers (nodeInfo : NodeInfo) (peerQps : PeerQps) : Prop where
  distinct : (peerQps.map Prod.fst).Nodup
  fresh : ∀ peer ∈ peerQps, FreshPeer nodeInfo peer

theorem findPeerInfo_createQpForPeer
    {nodeInfo : NodeInfo} {peerId tested : ByteString}
    {created : CreatedQueuePair} {peerInfo : PeerInfoandQPs}
    (found : nodeInfo.findPeerInfo tested = some peerInfo) :
    (createQpForPeer nodeInfo peerId created).1.findPeerInfo tested =
      some peerInfo := by
  unfold NodeInfo.findPeerInfo createQpForPeer at *
  rw [List.find?_append, found]
  rfl

/-- The new entry is the one found unless the peer has an entry already. -/
theorem findPeerInfo_created
    (nodeInfo : NodeInfo) (peerId : ByteString)
    (created : CreatedQueuePair) :
    (createQpForPeer nodeInfo peerId created).1.findPeerInfo peerId =
      some
        ((nodeInfo.findPeerInfo peerId).getD (.created peerId created)) := by
  unfold NodeInfo.findPeerInfo createQpForPeer
  rw [List.find?_append]
  cases nodeInfo.qmaps.find? fun qmap => decide (qmap.peerNodeId = peerId)
    with
  | none =>
      simp [PeerInfoandQPs.created]
  | some peerInfo =>
      rfl

theorem FreshPeers.create
    {nodeInfo : NodeInfo} {peerQps : PeerQps}
    (fresh : FreshPeers nodeInfo peerQps)
    (unknown : ∀ qmap ∈ nodeInfo.qmaps, qmap.remoteQpNum = 0)
    (peerId : ByteString) (created : CreatedQueuePair) :
    FreshPeers (createQpForPeer nodeInfo peerId created).1
      (peerQps.store peerId (createQpForPeer nodeInfo peerId created).2) where
  distinct := by
    unfold PeerQps.store
    rw [List.map_cons, List.nodup_cons]
    constructor
    · intro member
      obtain ⟨peer, kept, same⟩ := List.mem_map.mp member
      have different := (List.mem_filter.mp kept).2
      exact of_decide_eq_true different same
    · exact fresh.distinct.sublist (List.filter_sublist.map Prod.fst)
  fresh := by
    intro peer stored
    rcases List.mem_cons.mp stored with isNew | kept
    · rw [isNew]
      refine ⟨rfl, rfl, _, findPeerInfo_created nodeInfo peerId created, ?_⟩
      cases found : nodeInfo.findPeerInfo peerId with
      | none =>
          rfl
      | some peerInfo =>
          exact unknown peerInfo (List.mem_of_find?_eq_some found)
    · have earlier := fresh.fresh peer (List.mem_filter.mp kept).1
      obtain ⟨peerInfo, found, zero⟩ := earlier.known
      exact
        ⟨earlier.state, earlier.recvWrs, peerInfo,
          findPeerInfo_createQpForPeer found, zero⟩

theorem mem_qmaps_createQpForPeer
    {nodeInfo : NodeInfo} {peerId : ByteString} {created : CreatedQueuePair}
    (unknown : ∀ qmap ∈ nodeInfo.qmaps, qmap.remoteQpNum = 0) :
    ∀ qmap ∈ (createQpForPeer nodeInfo peerId created).1.qmaps,
      qmap.remoteQpNum = 0 := by
  intro qmap member
  rcases List.mem_append.mp member with earlier | last
  · exact unknown qmap earlier
  · rw [List.mem_singleton.mp last]
    rfl

theorem createPeerQps_fresh
    {creates : Nat → Option CreatedQueuePair} {peers : List ByteString}
    {nodeInfo final : NodeInfo} {peerQps made : PeerQps}
    (fresh : FreshPeers nodeInfo peerQps)
    (unknown : ∀ qmap ∈ nodeInfo.qmaps, qmap.remoteQpNum = 0)
    (created :
      createPeerQps creates peers (nodeInfo, peerQps) = some (final, made)) :
    FreshPeers final made := by
  induction peers generalizing nodeInfo peerQps with
  | nil =>
      cases created
      exact fresh
  | cons peerId rest inductionHypothesis =>
      simp only [createPeerQps, Option.bind_eq_some_iff] at created
      obtain ⟨qp, _, others⟩ := created
      exact
        inductionHypothesis (fresh.create unknown peerId qp)
          (mem_qmaps_createQpForPeer unknown) others

/-- The loop changes nothing but the entries for the peers. -/
theorem createPeerQps_nodeInfo
    {creates : Nat → Option CreatedQueuePair} {peers : List ByteString}
    {nodeInfo final : NodeInfo} {peerQps made : PeerQps}
    (created :
      createPeerQps creates peers (nodeInfo, peerQps) = some (final, made)) :
    final = { nodeInfo with qmaps := final.qmaps } := by
  induction peers generalizing nodeInfo peerQps with
  | nil =>
      cases created
      rfl
  | cons peerId rest inductionHypothesis =>
      simp only [createPeerQps, Option.bind_eq_some_iff] at created
      obtain ⟨qp, _, others⟩ := created
      have same := inductionHypothesis others
      rw [same]
      rfl

/-! ## What connecting leaves -/

/-- The queue pair addresses the peer. -/
structure QueuePair.Targets (qp : QueuePair) (peerInfo : PeerInfoandQPs) :
    Prop where
  destQpNum : qp.destQpNum = peerInfo.remoteQpNum
  rqPsn : qp.rqPsn = peerInfo.remotePsn
  dlid : qp.dlid = peerInfo.remoteLid
  dgid : qp.dgid = peerInfo.remoteGid

/-- The queue pair can send to its peer. -/
structure ConnectedPeer (nodeInfo : NodeInfo) (peer : ByteString × QueuePair) :
    Prop where
  state : peer.2.state = .readyToSend
  targets :
    ∃ peerInfo,
      nodeInfo.findPeerInfo peer.1 = some peerInfo ∧
        peerInfo.remoteQpNum ≠ 0 ∧ peer.2.Targets peerInfo

/-- All that is needed to connect the queue pair of the peer. -/
structure Connects
    (nodeInfo : NodeInfo) (adapter : AdapterAnswers) (peerId : ByteString) :
    Prop where
  known :
    ∃ peerInfo,
      nodeInfo.findPeerInfo peerId = some peerInfo ∧ peerInfo.remoteQpNum ≠ 0
  receives : adapter.modifies peerId .readyToReceive = true
  sends : adapter.modifies peerId .readyToSend = true

/-- The number of receive work requests that are posted. -/
def PeerQps.posted (peerQps : PeerQps) : Nat :=
  (peerQps.map fun peer => peer.2.recvWrs).sum

section Connecting

variable {nodeInfo : NodeInfo} {adapter : AdapterAnswers}

theorem connectQpToPeer_recvWrs (peerId : ByteString) (qp : QueuePair) :
    (connectQpToPeer nodeInfo adapter peerId qp).2.recvWrs = qp.recvWrs := by
  unfold connectQpToPeer
  split
  · rfl
  · split
    · rfl
    · split
      · dsimp only
        split <;> rfl
      · rfl

theorem connectQpToPeer_of_connects
    {peerId : ByteString} (connects : Connects nodeInfo adapter peerId)
    (qp : QueuePair) :
    (connectQpToPeer nodeInfo adapter peerId qp).1 = true ∧
      ConnectedPeer nodeInfo
        (peerId, (connectQpToPeer nodeInfo adapter peerId qp).2) := by
  obtain ⟨peerInfo, found, nonzero⟩ := connects.known
  have result :
      connectQpToPeer nodeInfo adapter peerId qp =
        (true, (qp.toRtr peerInfo).toRts peerInfo) := by
    unfold connectQpToPeer
    rw [found]
    simp only [if_neg nonzero, connects.receives, connects.sends, if_true]
  rw [result]
  exact ⟨rfl, rfl, peerInfo, found, nonzero, rfl, rfl, rfl, rfl⟩

/-- A new queue pair that cannot be connected does not get ready to send. -/
theorem connectQpToPeer_of_not_connects
    {peerId : ByteString} {qp : QueuePair}
    (refused : ¬ Connects nodeInfo adapter peerId) (new : qp.state = .init) :
    (connectQpToPeer nodeInfo adapter peerId qp).1 = false ∧
      (connectQpToPeer nodeInfo adapter peerId qp).2.state ≠ .readyToSend := by
  have unready : qp.state ≠ .readyToSend := by
    rw [new]
    decide
  unfold connectQpToPeer
  cases found : nodeInfo.findPeerInfo peerId with
  | none =>
      exact ⟨rfl, unready⟩
  | some peerInfo =>
      dsimp only
      by_cases zero : peerInfo.remoteQpNum = 0
      · rw [if_pos zero]
        exact ⟨rfl, unready⟩
      · rw [if_neg zero]
        by_cases receives : adapter.modifies peerId .readyToReceive = true
        · rw [if_pos receives]
          by_cases sends : adapter.modifies peerId .readyToSend = true
          · exact
              absurd ⟨⟨peerInfo, found, zero⟩, receives, sends⟩ refused
          · rw [if_neg sends]
            refine ⟨rfl, ?_⟩
            intro ready
            cases ready
        · rw [if_neg receives]
          exact ⟨rfl, unready⟩

theorem connectPeers_cons
    (peerId : ByteString) (qp : QueuePair) (rest : PeerQps) :
    connectPeers nodeInfo adapter ((peerId, qp) :: rest) =
      let connected := connectQpToPeer nodeInfo adapter peerId qp
      if connected.1 then
        ((connectPeers nodeInfo adapter rest).1,
          (peerId, connected.2) :: (connectPeers nodeInfo adapter rest).2)
      else
        (false, (peerId, connected.2) :: rest) := by
  rw [connectPeers]
  rcases connectQpToPeer nodeInfo adapter peerId qp with ⟨succeeded, after⟩
  cases succeeded <;> rfl

variable (nodeInfo adapter) in
theorem connectPeers_fst (peerQps : PeerQps) :
    (connectPeers nodeInfo adapter peerQps).2.map Prod.fst =
      peerQps.map Prod.fst := by
  induction peerQps with
  | nil =>
      rfl
  | cons peer rest inductionHypothesis =>
      rw [connectPeers_cons]
      dsimp only
      split
      · simp only [List.map_cons, inductionHypothesis]
      · rfl

variable (nodeInfo adapter) in
theorem connectPeers_recvWrs (peerQps : PeerQps) :
    ((connectPeers nodeInfo adapter peerQps).2.map fun peer =>
        peer.2.recvWrs) =
      peerQps.map fun peer => peer.2.recvWrs := by
  induction peerQps with
  | nil =>
      rfl
  | cons peer rest inductionHypothesis =>
      rw [connectPeers_cons]
      dsimp only
      split <;>
        simp only [List.map_cons, connectQpToPeer_recvWrs, inductionHypothesis]

theorem connectPeers_of_connects
    {peerQps : PeerQps}
    (connects : ∀ peer ∈ peerQps, Connects nodeInfo adapter peer.1) :
    (connectPeers nodeInfo adapter peerQps).1 = true ∧
      ∀ peer ∈ (connectPeers nodeInfo adapter peerQps).2,
        ConnectedPeer nodeInfo peer := by
  induction peerQps with
  | nil =>
      refine ⟨rfl, ?_⟩
      intro peer listed
      cases listed
  | cons peer rest inductionHypothesis =>
      rw [List.forall_mem_cons] at connects
      obtain ⟨succeeded, isConnected⟩ :=
        connectQpToPeer_of_connects connects.1 peer.2
      obtain ⟨allSucceeded, areConnected⟩ := inductionHypothesis connects.2
      rw [connectPeers_cons]
      dsimp only
      rw [if_pos succeeded, List.forall_mem_cons]
      exact ⟨allSucceeded, isConnected, areConnected⟩

/-- Of new queue pairs one is left that cannot send. -/
theorem connectPeers_of_not_connects
    {peerQps : PeerQps} {refused : ByteString × QueuePair}
    (new : ∀ peer ∈ peerQps, peer.2.state = .init)
    (listed : refused ∈ peerQps)
    (isRefused : ¬ Connects nodeInfo adapter refused.1) :
    (connectPeers nodeInfo adapter peerQps).1 = false ∧
      ∃ peer ∈ (connectPeers nodeInfo adapter peerQps).2,
        peer.2.state ≠ .readyToSend := by
  induction peerQps with
  | nil =>
      cases listed
  | cons peer rest inductionHypothesis =>
      rw [List.forall_mem_cons] at new
      rw [connectPeers_cons]
      dsimp only
      by_cases connects : Connects nodeInfo adapter peer.1
      · have isLater : refused ∈ rest := by
          rcases List.mem_cons.mp listed with isFirst | later
          · rw [isFirst] at isRefused
            exact absurd connects isRefused
          · exact later
        obtain ⟨failed, unready, member, notReady⟩ :=
          inductionHypothesis new.2 isLater
        rw [if_pos (connectQpToPeer_of_connects connects peer.2).1]
        exact
          ⟨failed, unready, List.mem_cons_of_mem _ member, notReady⟩
      · obtain ⟨failed, notReady⟩ :=
          connectQpToPeer_of_not_connects connects new.1
        have isFalse :
            ¬ (connectQpToPeer nodeInfo adapter peer.1 peer.2).1 = true := by
          rw [failed]
          decide
        rw [if_neg isFalse]
        exact ⟨rfl, _, List.mem_cons_self, notReady⟩

end Connecting

/-! ## Posting receive work requests -/

section Posting

variable {adapter : AdapterAnswers}

variable (adapter) in
/-- Only the number of posted work requests changes; all of them are posted unless
one is refused. -/
theorem QueuePair.postRecvs_eq (count : Nat) (qp : QueuePair) :
    ∃ posted,
      (qp.postRecvs adapter count).2 = { qp with recvWrs := posted } ∧
        qp.recvWrs ≤ posted ∧
        ((qp.postRecvs adapter count).1 = true ↔
          posted = qp.recvWrs + count) ∧
        ((qp.postRecvs adapter count).1 = true ↔
          ∀ k < count, adapter.posts (qp.recvWrs + k) = true) := by
  induction count generalizing qp with
  | zero =>
      refine ⟨qp.recvWrs, rfl, Nat.le_refl _, ?_, ?_⟩
      · exact iff_of_true rfl rfl
      · apply iff_of_true rfl
        intro k bounded
        exact absurd bounded (Nat.not_lt_zero k)
  | succ count inductionHypothesis =>
      unfold postRecvs
      by_cases posts : adapter.posts qp.recvWrs = true
      · obtain ⟨posted, result, increased, succeeds, answers⟩ :=
          inductionHypothesis { qp with recvWrs := qp.recvWrs + 1 }
        simp only at increased succeeds answers
        rw [if_pos posts]
        refine ⟨posted, result, by omega, ?_, ?_⟩
        · rw [succeeds]
          omega
        · rw [answers]
          constructor
          · intro allPosted k bounded
            cases k with
            | zero =>
                exact posts
            | succ k =>
                have later := allPosted k (by omega)
                rw [show qp.recvWrs + (k + 1) = qp.recvWrs + 1 + k by omega]
                exact later
          · intro allPosted k bounded
            have later := allPosted (k + 1) (by omega)
            rw [show qp.recvWrs + 1 + k = qp.recvWrs + (k + 1) by omega]
            exact later
      · rw [if_neg posts]
        refine ⟨qp.recvWrs, rfl, Nat.le_refl _, ?_, ?_⟩
        · apply iff_of_false Bool.false_ne_true
          omega
        · apply iff_of_false Bool.false_ne_true
          intro allPosted
          exact posts (allPosted 0 (Nat.succ_pos count))

/-- The adapter takes the work requests the first queue pair gets. -/
def PostsRecvs
    (adapter : AdapterAnswers) (count : Int32) (peerQps : PeerQps) : Prop :=
  ∀ k < count.toInt.toNat,
    ∃ peer ∈ peerQps.head?, adapter.posts (peer.2.recvWrs + k) = true

/-- Only the numbers of posted work requests matter. -/
theorem postsRecvs_iff (count : Int32) (peerQps : PeerQps) :
    PostsRecvs adapter count peerQps ↔
      ∀ k < count.toInt.toNat,
        ∃ posted ∈ (peerQps.map fun peer => peer.2.recvWrs).head?,
          adapter.posts (posted + k) = true := by
  rw [PostsRecvs]
  cases peerQps <;>
    simp

theorem postRecvWrs_posted
    (count : Int32) (peerQps : PeerQps) :
    (postRecvWrs adapter count peerQps).2.posted =
        peerQps.posted + count.toInt.toNat ↔
      PostsRecvs adapter count peerQps := by
  unfold postRecvWrs PostsRecvs
  cases peerQps with
  | nil =>
      simp only [PeerQps.posted, List.map_nil, List.sum_nil, List.head?_nil,
        Option.mem_def, reduceCtorEq, false_and, exists_false, Nat.zero_add]
      constructor
      · intro none k bounded
        omega
      · intro bounded
        by_contra positive
        exact bounded 0 (by omega)
  | cons peer rest =>
      obtain ⟨posted, result, _, succeeds, answers⟩ :=
        QueuePair.postRecvs_eq adapter count.toInt.toNat peer.2
      simp only [PeerQps.posted, List.map_cons, List.sum_cons, result,
        List.head?_cons, Option.mem_def, Option.some.injEq,
        exists_eq_left']
      rw [← answers, succeeds]
      omega

theorem mem_postRecvWrs
    {count : Int32} {peerQps : PeerQps} {peer : ByteString × QueuePair}
    (listed : peer ∈ (postRecvWrs adapter count peerQps).2) :
    ∃ earlier ∈ peerQps, ∃ posted,
      peer = (earlier.1, { earlier.2 with recvWrs := posted }) := by
  unfold postRecvWrs at listed
  cases peerQps with
  | nil =>
      cases listed
  | cons first rest =>
      rcases List.mem_cons.mp listed with isFirst | later
      · obtain ⟨posted, result, _⟩ :=
          QueuePair.postRecvs_eq adapter count.toInt.toNat first.2
        rw [result] at isFirst
        exact ⟨first, List.mem_cons_self, posted, isFirst⟩
      · exact
          ⟨peer, List.mem_cons_of_mem first later, peer.2.recvWrs, rfl⟩

end Posting

/-! ## Connecting all of them -/

section ConnectingAll

variable {nodeInfo : NodeInfo} {adapter : AdapterAnswers}
  {qpMaxRecvWr : Int32} {peerQps : PeerQps}

variable (nodeInfo adapter qpMaxRecvWr peerQps) in
theorem connectAllQps_eq :
    connectAllQps nodeInfo qpMaxRecvWr adapter peerQps =
      let connected := connectPeers nodeInfo adapter peerQps
      if connected.1 then
        if nodeInfo.role = .decode then
          postRecvWrs adapter qpMaxRecvWr connected.2
        else
          (true, connected.2)
      else
        (false, connected.2) := by
  rw [connectAllQps]
  rcases connectPeers nodeInfo adapter peerQps with ⟨succeeded, after⟩
  cases succeeded <;> rfl

theorem connectAllQps_connected
    (connects : ∀ peer ∈ peerQps, Connects nodeInfo adapter peer.1) :
    ∀ peer ∈ (connectAllQps nodeInfo qpMaxRecvWr adapter peerQps).2,
      ConnectedPeer nodeInfo peer := by
  obtain ⟨succeeded, areConnected⟩ := connectPeers_of_connects connects
  intro peer listed
  rw [connectAllQps_eq] at listed
  dsimp only at listed
  rw [if_pos succeeded] at listed
  split at listed
  · obtain ⟨earlier, isEarlier, posted, same⟩ := mem_postRecvWrs listed
    have isConnected := areConnected earlier isEarlier
    obtain ⟨peerInfo, found, nonzero, targets⟩ := isConnected.targets
    rw [same]
    exact
      ⟨isConnected.state, peerInfo, found, nonzero, targets.destQpNum,
        targets.rqPsn, targets.dlid, targets.dgid⟩
  · exact areConnected peer listed

theorem connectAllQps_posted
    (connects : ∀ peer ∈ peerQps, Connects nodeInfo adapter peer.1)
    (isDecode : nodeInfo.role = .decode) :
    (connectAllQps nodeInfo qpMaxRecvWr adapter peerQps).2.posted =
        peerQps.posted + qpMaxRecvWr.toInt.toNat ↔
      PostsRecvs adapter qpMaxRecvWr peerQps := by
  obtain ⟨succeeded, _⟩ := connectPeers_of_connects connects
  have keptRecvWrs := connectPeers_recvWrs nodeInfo adapter peerQps
  have samePosted :
      (connectPeers nodeInfo adapter peerQps).2.posted = peerQps.posted :=
    congrArg List.sum keptRecvWrs
  rw [connectAllQps_eq]
  dsimp only
  rw [if_pos succeeded, if_pos isDecode, ← samePosted, postRecvWrs_posted,
    postsRecvs_iff, postsRecvs_iff, keptRecvWrs]

/-- Of new queue pairs one is left that cannot send. -/
theorem connectAllQps_of_not_connects
    {refused : ByteString × QueuePair}
    (new : ∀ peer ∈ peerQps, peer.2.state = .init)
    (listed : refused ∈ peerQps)
    (isRefused : ¬ Connects nodeInfo adapter refused.1) :
    ∃ peer ∈ (connectAllQps nodeInfo qpMaxRecvWr adapter peerQps).2,
      peer.2.state ≠ .readyToSend := by
  obtain ⟨failed, unready⟩ :=
    connectPeers_of_not_connects new listed isRefused
  rw [connectAllQps_eq]
  dsimp only
  rw [failed]
  exact unready

end ConnectingAll

end RdmaKvCache
