import RdmaKvCache.Node.NodeSetup
import RdmaKvCache.Node.RdmaReadiness

/-!
# The two ends of a connection

Each node makes its queue pairs by itself and registers their numbers and packet
sequence numbers.  Once two nodes have gone through the list of members, a queue
pair of one for the other that can send is addressed to the queue pair of the other
for it, and expects the packets that this one sends.
-/

namespace RdmaKvCache

/-- What the node publishes for the peer is its queue pair for it, with a packet
sequence number of 24 bits. -/
def LocalEnd (nodeInfo : NodeInfo) (peer : ByteString × QueuePair) : Prop :=
  ∃ qmap,
    nodeInfo.findPeerInfo peer.1 = some qmap ∧
      qmap.localQpNum = peer.2.qpNum ∧ qmap.localPsn.toNat < 2 ^ 24

/-! ## Making queue pairs -/

theorem localPsn_created_lt (peerId : ByteString) (created : CreatedQueuePair) :
    (PeerInfoandQPs.created peerId created).localPsn.toNat < 2 ^ 24 := by
  have bounded : created.random.toNat &&& 0x00FFFFFF ≤ 0x00FFFFFF :=
    Nat.and_le_right
  simp only [PeerInfoandQPs.created, UInt32.toNat_and]
  exact Nat.lt_of_le_of_lt bounded (by decide)

/-- A new peer gets an entry and a queue pair with the same number, and the ends of
the others stay. -/
theorem localEnd_create
    {nodeInfo : NodeInfo} {peerQps : PeerQps} {peerId : ByteString}
    (ends : ∀ peer ∈ peerQps, LocalEnd nodeInfo peer)
    (new : ∀ qmap ∈ nodeInfo.qmaps, qmap.peerNodeId ≠ peerId)
    (created : CreatedQueuePair) :
    ∀ peer ∈ peerQps.store peerId (createQpForPeer nodeInfo peerId created).2,
      LocalEnd (createQpForPeer nodeInfo peerId created).1 peer := by
  intro peer stored
  rcases List.mem_cons.mp stored with rfl | kept
  · have unknown : nodeInfo.findPeerInfo peerId = none := by
      rw [NodeInfo.findPeerInfo, List.find?_eq_none]
      intro qmap entry isPeer
      exact new qmap entry (of_decide_eq_true isPeer)
    refine
      ⟨.created peerId created, ?_, rfl, localPsn_created_lt peerId created⟩
    rw [findPeerInfo_created, unknown]
    rfl
  · obtain ⟨qmap, found, sameNumber, bounded⟩ :=
      ends peer (List.mem_filter.mp kept).1
    exact ⟨qmap, findPeerInfo_createQpForPeer found, sameNumber, bounded⟩

theorem createPeerQps_localEnds
    {creates : Nat → Option CreatedQueuePair} {peers : List ByteString}
    {nodeInfo final : NodeInfo} {peerQps made : PeerQps}
    (ends : ∀ peer ∈ peerQps, LocalEnd nodeInfo peer)
    (nodup : peers.Nodup)
    (new : ∀ qmap ∈ nodeInfo.qmaps, qmap.peerNodeId ∉ peers)
    (distinct : (nodeInfo.qmaps.map PeerInfoandQPs.peerNodeId).Nodup)
    (created :
      createPeerQps creates peers (nodeInfo, peerQps) = some (final, made)) :
    (∀ peer ∈ made, LocalEnd final peer) ∧
      (final.qmaps.map PeerInfoandQPs.peerNodeId).Nodup := by
  induction peers generalizing nodeInfo peerQps with
  | nil =>
      cases created
      exact ⟨ends, distinct⟩
  | cons peerId rest inductionHypothesis =>
      simp only [createPeerQps, Option.bind_eq_some_iff] at created
      obtain ⟨qp, _, others⟩ := created
      obtain ⟨notLater, nodupRest⟩ := List.nodup_cons.mp nodup
      have newPeer : ∀ qmap ∈ nodeInfo.qmaps, qmap.peerNodeId ≠ peerId := by
        intro qmap entry same
        exact new qmap entry (same ▸ List.mem_cons_self)
      apply
        inductionHypothesis (localEnd_create ends newPeer qp) nodupRest ?_ ?_
          others
      · intro qmap entry
        rcases List.mem_append.mp entry with earlier | last
        · exact fun later => new qmap earlier (List.mem_cons_of_mem _ later)
        · rw [List.mem_singleton.mp last]
          exact notLater
      · rw [createQpForPeer, List.map_append, List.nodup_append]
        refine ⟨distinct, List.nodup_singleton _, ?_⟩
        intro earlier isEarlier last isLast same
        obtain ⟨qmap, entry, rfl⟩ := List.mem_map.mp isEarlier
        rw [List.mem_singleton.mp isLast] at same
        exact newPeer qmap entry same

/-- A started node whose configuration names no peer twice. -/
theorem Node.localEnds_of_start
    {config : NodeConfig} {answers : SetupAnswers} {fd : Int32}
    {accepted : List (ByteString × Int32)} {registered : NodeInfo}
    {peerQps : PeerQps}
    (started :
      start config answers fd accepted = some (registered, peerQps))
    (distinctPeers :
      (expectedPeers registered.role config.prefillNodes
        config.decodeNodes).Nodup) :
    (∀ peer ∈ peerQps, LocalEnd registered peer) ∧
      (registered.qmaps.map PeerInfoandQPs.peerNodeId).Nodup := by
  have sameRole := (start_eq_some started).2.1
  rw [start] at started
  split at started
  · cases started
  · obtain ⟨⟨initialized, made⟩, built, same⟩ :=
      Option.map_eq_some_iff.mp started
    cases same
    split at built
    · obtain ⟨allocated, _, isRole, _, noQmaps, created⟩ :=
        NodeInfo.initializeRdma_eq_some built
      have sameAllocated : allocated.role = initialized.role :=
        isRole.trans sameRole.symm
      rw [sameAllocated] at created
      have noEntries : allocated.qmaps = [] := noQmaps
      have noPeers :
          ∀ peer ∈ ([] : PeerQps), LocalEnd allocated peer :=
        List.forall_mem_nil _
      apply createPeerQps_localEnds noPeers distinctPeers ?_ ?_ created
      · rw [noEntries]
        exact List.forall_mem_nil _
      · rw [noEntries]
        exact List.nodup_nil
    · cases built
      exact ⟨List.forall_mem_nil _, List.nodup_nil⟩

/-! ## Connecting them -/

/-- The queue pair is at most as far as its transitions with what is known of the
peer have brought it. -/
def ConnectedFrom
    (nodeInfo : NodeInfo) (peer : ByteString × QueuePair) (after : QueuePair) :
    Prop :=
  after.state = peer.2.state ∨ after.state = .readyToReceive ∨
    ∃ peerInfo recvWrs,
      nodeInfo.findPeerInfo peer.1 = some peerInfo ∧
        after =
          { (peer.2.toRtr peerInfo).toRts peerInfo with recvWrs := recvWrs }

theorem connectedFrom_connectQpToPeer
    {nodeInfo : NodeInfo} {adapter : AdapterAnswers} (peerId : ByteString)
    (qp : QueuePair) :
    ConnectedFrom nodeInfo (peerId, qp)
      (connectQpToPeer nodeInfo adapter peerId qp).2 := by
  unfold connectQpToPeer
  cases found : nodeInfo.findPeerInfo peerId with
  | none =>
      exact Or.inl rfl
  | some peerInfo =>
      dsimp only
      split
      · exact Or.inl rfl
      · split
        · split
          · exact Or.inr (Or.inr ⟨peerInfo, qp.recvWrs, found, rfl⟩)
          · exact Or.inr (Or.inl rfl)
        · exact Or.inl rfl

theorem connectedFrom_connectPeers
    {nodeInfo : NodeInfo} {adapter : AdapterAnswers} {peerQps : PeerQps} :
    ∀ after ∈ (connectPeers nodeInfo adapter peerQps).2,
      ∃ qp,
        (after.1, qp) ∈ peerQps ∧
          ConnectedFrom nodeInfo (after.1, qp) after.2 := by
  induction peerQps with
  | nil =>
      intro after listed
      cases listed
  | cons peer rest inductionHypothesis =>
      obtain ⟨peerId, qp⟩ := peer
      intro after listed
      have connected :
          ConnectedFrom nodeInfo (peerId, qp)
            (connectQpToPeer nodeInfo adapter peerId qp).2 :=
        connectedFrom_connectQpToPeer peerId qp
      rw [connectPeers_cons] at listed
      dsimp only at listed
      split at listed
      · rcases List.mem_cons.mp listed with rfl | later
        · exact ⟨qp, List.mem_cons_self, connected⟩
        · obtain ⟨earlier, isEarlier, connectedLater⟩ :=
            inductionHypothesis after later
          exact ⟨earlier, List.mem_cons_of_mem _ isEarlier, connectedLater⟩
      · rcases List.mem_cons.mp listed with rfl | later
        · exact ⟨qp, List.mem_cons_self, connected⟩
        · exact ⟨after.2, List.mem_cons_of_mem _ later, Or.inl rfl⟩

/-- A queue pair that was new and can send has been connected with what is known of
its peer. -/
theorem readyToSend_connectAllQps
    {nodeInfo : NodeInfo} {adapter : AdapterAnswers} {qpMaxRecvWr : Int32}
    {peerQps : PeerQps} (new : ∀ peer ∈ peerQps, peer.2.state = .init)
    {peerId : ByteString} {after : QueuePair}
    (listed :
      (peerId, after) ∈
        (connectAllQps nodeInfo qpMaxRecvWr adapter peerQps).2)
    (ready : after.state = .readyToSend) :
    ∃ qp peerInfo recvWrs,
      (peerId, qp) ∈ peerQps ∧
        nodeInfo.findPeerInfo peerId = some peerInfo ∧
        after =
          { (qp.toRtr peerInfo).toRts peerInfo with recvWrs := recvWrs } := by
  have connected :
      ∃ recvWrs, ∃ earlier,
        (peerId, earlier) ∈ (connectPeers nodeInfo adapter peerQps).2 ∧
          after = { earlier with recvWrs := recvWrs } := by
    rw [connectAllQps_eq] at listed
    dsimp only at listed
    split at listed
    · split at listed
      · obtain ⟨earlier, isEarlier, posted, same⟩ := mem_postRecvWrs listed
        obtain ⟨rfl, rfl⟩ := Prod.mk.inj same
        exact ⟨posted, earlier.2, isEarlier, rfl⟩
      · exact ⟨after.recvWrs, after, listed, rfl⟩
    · exact ⟨after.recvWrs, after, listed, rfl⟩
  obtain ⟨posted, earlier, isEarlier, rfl⟩ := connected
  obtain ⟨qp, isQp, unmoved | receiving | ⟨peerInfo, recvWrs, found, same⟩⟩ :=
    connectedFrom_connectPeers _ isEarlier
  · have isInit := new _ isQp
    rw [← unmoved] at isInit
    exact absurd (ready.symm.trans isInit) (by decide)
  · exact absurd (ready.symm.trans receiving) (by decide)
  · refine ⟨qp, peerInfo, posted, isQp, found, ?_⟩
    simp only at same
    rw [same]

/-! ## Both ends -/

/-- A node that has been started by a configuration without repeated peers and has
handled a list of members; its queue pairs are traversed in some order. -/
structure JoinedNode where
  config : NodeConfig
  answers : SetupAnswers
  fd : Int32
  accepted : List (ByteString × Int32)
  registered : NodeInfo
  made : PeerQps
  started :
    Node.start config answers fd accepted = some (registered, made)
  distinctPeers :
    (expectedPeers registered.role config.prefillNodes
      config.decodeNodes).Nodup
  memberConfig : MemberConfig
  useGpu : memberConfig.useGpu = true
  adapter : AdapterAnswers
  server : ServerAnswers
  origin : Message.Origin
  members : List NodeInfo
  before : MemberNode
  sameInfo : before.nodeInfo = registered
  traversed : before.peerQps.Perm made
  joined : MemberNode
  handled :
    handleBroadcastMemberInfo memberConfig adapter server origin members
        before =
      .ok joined

namespace JoinedNode

variable {nodes : List NodeInfo} {node other : JoinedNode}

theorem ends (node : JoinedNode) :
    (∀ peer ∈ node.before.peerQps, LocalEnd node.registered peer) ∧
      (node.registered.qmaps.map PeerInfoandQPs.peerNodeId).Nodup := by
  obtain ⟨ends, distinct⟩ :=
    Node.localEnds_of_start node.started node.distinctPeers
  refine ⟨?_, distinct⟩
  intro peer listed
  exact ends peer (node.traversed.mem_iff.mp listed)

theorem new (node : JoinedNode) :
    ∀ peer ∈ node.before.peerQps, peer.2.state = .init := by
  intro peer listed
  have fresh := Node.freshPeers_of_start node.started
  exact (fresh.fresh peer (node.traversed.mem_iff.mp listed)).state

/-- What a queue pair that can send has of both nodes. -/
structure Knows (qp : QueuePair) (qmap peerQmap : PeerInfoandQPs) : Prop where
  qpNum : qp.qpNum = qmap.localQpNum
  sqPsn : qp.sqPsn = qmap.localPsn
  destQpNum : qp.destQpNum = peerQmap.localQpNum
  rqPsn : qp.rqPsn = peerQmap.localPsn

/-- A queue pair that can send comes from one made for the peer. -/
theorem exists_end
    {peerId : ByteString} {qp : QueuePair}
    (listed : (peerId, qp) ∈ node.joined.peerQps)
    (ready : qp.state = .readyToSend) :
    ∃ qmap peerInfo filled,
      node.registered.findPeerInfo peerId = some qmap ∧
        qmap.localPsn.toNat < 2 ^ 24 ∧
        fillRemoteInfo node.registered node.members = .ok filled ∧
        filled.findPeerInfo peerId = some peerInfo ∧
        qp.qpNum = qmap.localQpNum ∧ qp.sqPsn = peerInfo.localPsn ∧
        qp.destQpNum = peerInfo.remoteQpNum ∧
        qp.rqPsn = peerInfo.remotePsn := by
  obtain ⟨filled, exchange, isJoined⟩ :=
    (handleBroadcastMemberInfo_eq_ok node.useGpu).mp node.handled
  rw [node.sameInfo] at exchange
  rw [isJoined] at listed
  obtain ⟨made, peerInfo, recvWrs, isMade, found, rfl⟩ :=
    readyToSend_connectAllQps node.new listed ready
  obtain ⟨qmap, isEntry, sameNumber, bounded⟩ := node.ends.1 _ isMade
  exact
    ⟨qmap, peerInfo, filled, isEntry, bounded, exchange, found,
      sameNumber.symm, rfl, rfl, rfl⟩

theorem knows_of_ready
    (distinctIds : (nodes.map NodeInfo.nodeId).Nodup)
    (registered : AreRegistered nodes node.members)
    (listedOther : other.registered.overTheWire ∈ node.members)
    (different : other.registered.nodeId ≠ node.registered.nodeId)
    {qp : QueuePair} {peerQmap : PeerInfoandQPs}
    (listed : (other.registered.nodeId, qp) ∈ node.joined.peerQps)
    (ready : qp.state = .readyToSend)
    (peerEntry :
      other.registered.findPeerInfo node.registered.nodeId = some peerQmap) :
    ∃ qmap,
      node.registered.findPeerInfo other.registered.nodeId = some qmap ∧
        qmap.localPsn.toNat < 2 ^ 24 ∧ Knows qp qmap peerQmap := by
  obtain
    ⟨qmap, peerInfo, filled, isEntry, bounded, exchange, found, qpNum, sqPsn,
      destQpNum, rqPsn⟩ := exists_end listed ready
  obtain ⟨entry, isPeer⟩ :=
    (NodeInfo.findPeerInfo_eq_some node.ends.2).mp isEntry
  obtain ⟨otherEntry, isNode⟩ :=
    (NodeInfo.findPeerInfo_eq_some other.ends.2).mp peerEntry
  have filledEntry :=
    findPeerInfo_fillRemoteInfo (registered.coherent distinctIds) listedOther
      node.ends.2 other.ends.2 exchange different entry isPeer otherEntry
      isNode
  cases Option.some.inj (filledEntry.symm.trans found)
  exact ⟨qmap, isEntry, bounded, qpNum, sqPsn, destQpNum, rqPsn⟩

/-- The queue pair sends to the peer's and expects its packets. -/
structure Faces (qp peerQp : QueuePair) : Prop where
  destQpNum : qp.destQpNum = peerQp.qpNum
  rqPsn : qp.rqPsn = peerQp.sqPsn
  psn : peerQp.sqPsn.toNat < 2 ^ 24

/-- Of two nodes that have gone through members with both of them, the queue pairs
for each other that can send are the two ends of one connection. -/
theorem queue_pairs_face_each_other
    (distinctIds : (nodes.map NodeInfo.nodeId).Nodup)
    (registered : AreRegistered nodes node.members)
    (otherRegistered : AreRegistered nodes other.members)
    (listedOther : other.registered.overTheWire ∈ node.members)
    (listedNode : node.registered.overTheWire ∈ other.members)
    (different : other.registered.nodeId ≠ node.registered.nodeId)
    {qp peerQp : QueuePair}
    (isQp : (other.registered.nodeId, qp) ∈ node.joined.peerQps)
    (isPeerQp : (node.registered.nodeId, peerQp) ∈ other.joined.peerQps)
    (ready : qp.state = .readyToSend)
    (peerReady : peerQp.state = .readyToSend) :
    Faces qp peerQp ∧ Faces peerQp qp := by
  obtain ⟨qmap, _, _, isEntry, bounded, _⟩ := exists_end isQp ready
  obtain ⟨peerQmap, _, _, isPeerEntry, peerBounded, _⟩ :=
    exists_end isPeerQp peerReady
  obtain ⟨ownQmap, isOwn, _, knows⟩ :=
    knows_of_ready distinctIds registered listedOther different isQp ready
      isPeerEntry
  obtain ⟨ownPeerQmap, isOwnPeer, _, peerKnows⟩ :=
    knows_of_ready distinctIds otherRegistered listedNode different.symm
      isPeerQp peerReady isEntry
  cases isOwn.symm.trans isEntry
  cases isOwnPeer.symm.trans isPeerEntry
  constructor
  · exact
      ⟨knows.destQpNum.trans peerKnows.qpNum.symm,
        knows.rqPsn.trans peerKnows.sqPsn.symm,
        by rw [peerKnows.sqPsn]; exact peerBounded⟩
  · exact
      ⟨peerKnows.destQpNum.trans knows.qpNum.symm,
        peerKnows.rqPsn.trans knows.sqPsn.symm,
        by rw [knows.sqPsn]; exact bounded⟩

/-! ### A prefill node and a decode node -/

def sampleSettings (nodeId : ByteString) (role : String) : NodeConfig where
  nodeId := nodeId
  role := .ofText role
  numLayers := 1
  memory := {}
  prefillNodes := [[1]]
  decodeNodes := [[2]]

def sampleDevices (qpNum random : UInt32) : SetupAnswers where
  devices := some ⟨0, .ofText "GPU", 0, 1024, .ofText "mlx5_0", 1, 0, 100⟩
  deviceBound := true
  deviceOpened := true
  memory := some ⟨4096, 7, 8, 1024⟩
  cqsCreated := true
  creates := fun _ => some ⟨qpNum, 3, none, random⟩

/-- What the prefill node has been started with. -/
def prefillStarted : NodeInfo × PeerQps :=
  (Node.start (sampleSettings [1] "prefill") (sampleDevices 17 3) 4 []).getD
    (.zero, [])

def decodeStarted : NodeInfo × PeerQps :=
  (Node.start (sampleSettings [2] "decode") (sampleDevices 27 4) 4 []).getD
    (.zero, [])

def bothStarted : List NodeInfo :=
  [prefillStarted.1, decodeStarted.1]

/-- The node has been started and has not heard of the others. -/
def waiting (started : NodeInfo × PeerQps) : MemberNode where
  nodeInfo := started.1
  peerQps := started.2
  vllmPid := -1
  state := .waitingForOrchestratorBroadcast
  responses := []

def membersHandled (started : NodeInfo × PeerQps) : MemberNode :=
  ((handleBroadcastMemberInfo RdmaKvCache.sampleConfig (sampleAdapter true)
        sampleServer ⟨.cleared, 0⟩ (bothStarted.map NodeInfo.overTheWire)
        (waiting started)).toOption).getD
    (waiting started)

def prefillEnd : JoinedNode where
  config := sampleSettings [1] "prefill"
  answers := sampleDevices 17 3
  fd := 4
  accepted := []
  registered := prefillStarted.1
  made := prefillStarted.2
  started := by decide +kernel
  distinctPeers := by decide +kernel
  memberConfig := RdmaKvCache.sampleConfig
  useGpu := rfl
  adapter := sampleAdapter true
  server := sampleServer
  origin := ⟨.cleared, 0⟩
  members := bothStarted.map NodeInfo.overTheWire
  before := waiting prefillStarted
  sameInfo := rfl
  traversed := List.Perm.refl _
  joined := membersHandled prefillStarted
  handled := by decide +kernel

def decodeEnd : JoinedNode where
  config := sampleSettings [2] "decode"
  answers := sampleDevices 27 4
  fd := 4
  accepted := []
  registered := decodeStarted.1
  made := decodeStarted.2
  started := by decide +kernel
  distinctPeers := by decide +kernel
  memberConfig := RdmaKvCache.sampleConfig
  useGpu := rfl
  adapter := sampleAdapter true
  server := sampleServer
  origin := ⟨.cleared, 0⟩
  members := bothStarted.map NodeInfo.overTheWire
  before := waiting decodeStarted
  sameInfo := rfl
  traversed := List.Perm.refl _
  joined := membersHandled decodeStarted
  handled := by decide +kernel

/-- The node's queue pair for the other. -/
def sampleEnd (node : JoinedNode) : QueuePair :=
  (node.joined.peerQps.map Prod.snd).headD { qpNum := 0 }

theorem areRegistered_bothStarted :
    AreRegistered bothStarted (bothStarted.map NodeInfo.overTheWire) := by
  intro member listed
  obtain ⟨node, isNode, same⟩ := List.mem_map.mp listed
  exact ⟨node, isNode, same.symm⟩

theorem queue_pairs_face_each_other_bothStarted :
    Faces (sampleEnd prefillEnd) (sampleEnd decodeEnd) ∧
      Faces (sampleEnd decodeEnd) (sampleEnd prefillEnd) := by
  have distinctIds : (bothStarted.map NodeInfo.nodeId).Nodup := by
    decide +kernel
  have listedPrefill :
      prefillEnd.registered.overTheWire ∈ decodeEnd.members :=
    List.mem_map_of_mem List.mem_cons_self
  have listedDecode :
      decodeEnd.registered.overTheWire ∈ prefillEnd.members :=
    List.mem_map_of_mem (List.mem_cons_of_mem _ List.mem_cons_self)
  exact
    queue_pairs_face_each_other distinctIds areRegistered_bothStarted
      areRegistered_bothStarted listedDecode listedPrefill
      (by decide +kernel) (by decide +kernel) (by decide +kernel)
      (by decide +kernel) (by decide +kernel)

end JoinedNode

end RdmaKvCache
