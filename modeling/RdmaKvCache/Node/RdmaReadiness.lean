import RdmaKvCache.Node.NodeSetup
import RdmaKvCache.Node.QueuePairExchange

/-!
# Readiness of a node

`handle_broadcast_member_info` exchanges the queue pairs, connects them on a node
that uses a GPU, starts the vLLM server, sends `RDMA_READY` to the orchestrator
and sets the node to running.  What `connect_all_qps` returns is only logged, and
what `start_vllm_server` returns is not looked at.
-/

namespace RdmaKvCache

inductive NodeState where
  | starting
  | waitingForOrchestratorBroadcast
  | running
  | stopped
  deriving DecidableEq

/-- What a node reads from its configuration when the members are broadcast. -/
structure MemberConfig where
  useGpu : Bool
  qpMaxRecvWr : Int32
  orchestratorFd : Int32

/-- What the operating system answers on starting the server: whether the file
for Mooncake is created and written, and the result of `fork` in the parent. -/
structure ServerAnswers where
  configOpened : Bool
  configWritten : Bool
  forked : Int32

structure MemberNode where
  nodeInfo : NodeInfo
  peerQps : PeerQps
  vllmPid : Int32
  state : NodeState
  responses : List (Int32 × Message)
  deriving DecidableEq

/-- The result and the process id.  `HOME` is taken to be set: without it the
paths are made of a null pointer, which is undefined. -/
def startVllmServer (useGpu : Bool) (server : ServerAnswers) (vllmPid : Int32) :
    Bool × Int32 :=
  if useGpu || (server.configOpened && server.configWritten) then
    (decide (0 ≤ server.forked), server.forked)
  else
    (false, vllmPid)

/-- The handler enqueues its message whatever comes before, unless an exception
is thrown. -/
def handleBroadcastMemberInfo
    (config : MemberConfig) (adapter : AdapterAnswers) (server : ServerAnswers)
    (origin : Message.Origin) (membershipListInfo : List NodeInfo)
    (node : MemberNode) : Except ExchangeError MemberNode :=
  (fillRemoteInfo node.nodeInfo membershipListInfo).map fun nodeInfo =>
    let (_, peerQps) :=
      if config.useGpu then
        connectAllQps nodeInfo config.qpMaxRecvWr adapter node.peerQps
      else
        (true, node.peerQps)
    let (_, vllmPid) := startVllmServer config.useGpu server node.vllmPid
    { nodeInfo := nodeInfo
      peerQps := peerQps
      vllmPid := vllmPid
      responses :=
        node.responses ++
          [(config.orchestratorFd, .createRdmaReady origin nodeInfo.nodeId)]
      state := .running }

/-! ## What the exchange gives the queue pairs -/

theorem NodeInfo.findPeerInfo_exchanged
    (nodeInfo : NodeInfo) (members : List NodeInfo) (peerId : ByteString) :
    { nodeInfo with
        qmaps :=
          nodeInfo.qmaps.map fun qmap =>
            qmap.exchanged nodeInfo.nodeId members : NodeInfo }.findPeerInfo
        peerId =
      (nodeInfo.findPeerInfo peerId).map fun qmap =>
        qmap.exchanged nodeInfo.nodeId members := by
  rw [findPeerInfo]
  rw [List.find?_map]
  congr 2
  funext qmap
  have samePeer :
      (qmap.exchanged nodeInfo.nodeId members).peerNodeId =
        qmap.peerNodeId :=
    (PeerInfoandQPs.sameLocal_exchanged qmap).peerNodeId
  simp only [Function.comp_apply, samePeer]

namespace PeerInfoandQPs

/-- A peer that is listed gives the entry a queue pair. -/
theorem exchanged_remoteQpNum_ne_zero
    {nodeId : ByteString} {members : List NodeInfo} {qmap : PeerInfoandQPs}
    (provided :
      ∀ peer ∈ members, qmap.Matches nodeId peer → peer.Provides nodeId)
    (known :
      qmap.remoteQpNum ≠ 0 ∨ ∃ peer ∈ members, qmap.Matches nodeId peer) :
    (qmap.exchanged nodeId members).remoteQpNum ≠ 0 := by
  rw [exchanged]
  induction members generalizing qmap with
  | nil =>
      rcases known with nonzero | listed
      · exact nonzero
      · obtain ⟨peer, isMember, _⟩ := listed
        cases isMember
  | cons peer rest inductionHypothesis =>
      rw [List.forall_mem_cons] at provided
      rw [List.foldl_cons]
      apply inductionHypothesis
      · intro other listed isMatch
        exact
          provided.2 other listed ((matches_filledFrom other).mp isMatch)
      · by_cases isMatch : qmap.Matches nodeId peer
        · obtain ⟨peerQmap, found, nonzero⟩ := provided.1 isMatch
          rw [filledFrom_of_matches isMatch found]
          exact Or.inl nonzero
        · rw [filledFrom_of_not_matches isMatch]
          rcases known with nonzero | listed
          · exact Or.inl nonzero
          · obtain ⟨other, isMember, otherMatch⟩ := listed
            rcases List.mem_cons.mp isMember with isFirst | later
            · rw [isFirst] at otherMatch
              exact absurd otherMatch isMatch
            · exact Or.inr ⟨other, later, otherMatch⟩

end PeerInfoandQPs

/-- Another node of this name is listed. -/
def Listed (members : List NodeInfo) (nodeId peerId : ByteString) : Prop :=
  ∃ member ∈ members, member.nodeId = peerId ∧ member.nodeId ≠ nodeId

section Exchanged

variable {nodeInfo filled : NodeInfo} {members : List NodeInfo}
  {adapter : AdapterAnswers} {peerId : ByteString}

theorem connects_of_listed
    (exchange : fillRemoteInfo nodeInfo members = .ok filled)
    (known : ∃ qmap, nodeInfo.findPeerInfo peerId = some qmap)
    (listed : Listed members nodeInfo.nodeId peerId)
    (receives : adapter.modifies peerId .readyToReceive = true)
    (sends : adapter.modifies peerId .readyToSend = true) :
    Connects filled adapter peerId := by
  obtain ⟨provided, isFilled⟩ := fillRemoteInfo_eq_ok.mp exchange
  obtain ⟨qmap, found⟩ := known
  obtain ⟨member, isMember, isPeer, other⟩ := listed
  have entry : qmap ∈ nodeInfo.qmaps := List.mem_of_find?_eq_some found
  have isFirst := List.find?_some found
  have forPeer : qmap.peerNodeId = peerId := of_decide_eq_true isFirst
  refine
    ⟨⟨qmap.exchanged nodeInfo.nodeId members, ?_, ?_⟩, receives, sends⟩
  · rw [isFilled, NodeInfo.findPeerInfo_exchanged, found]
    rfl
  · apply PeerInfoandQPs.exchanged_remoteQpNum_ne_zero
    · intro peer peerListed isMatch
      exact provided peer peerListed qmap entry isMatch
    · exact Or.inr ⟨member, isMember, forPeer.trans isPeer.symm, other⟩

/-- A queue pair whose peer has not been known gets connected only if the peer is
listed. -/
theorem connects_iff_listed
    {qmap : PeerInfoandQPs}
    (exchange : fillRemoteInfo nodeInfo members = .ok filled)
    (found : nodeInfo.findPeerInfo peerId = some qmap)
    (unknown : qmap.remoteQpNum = 0) :
    Connects filled adapter peerId ↔
      Listed members nodeInfo.nodeId peerId ∧
        adapter.modifies peerId .readyToReceive = true ∧
        adapter.modifies peerId .readyToSend = true := by
  constructor
  · intro connects
    refine ⟨?_, connects.receives, connects.sends⟩
    by_contra unlisted
    obtain ⟨entry, isEntry, nonzero⟩ := connects.known
    rw [(fillRemoteInfo_eq_ok.mp exchange).2,
      NodeInfo.findPeerInfo_exchanged, found, Option.map_some,
      Option.some.injEq] at isEntry
    have isFirst := List.find?_some found
    have forPeer : qmap.peerNodeId = peerId := of_decide_eq_true isFirst
    have kept : qmap.exchanged nodeInfo.nodeId members = qmap := by
      apply PeerInfoandQPs.exchanged_of_no_match
      intro peer listed isMatch
      exact
        unlisted ⟨peer, listed, isMatch.1.symm.trans forPeer, isMatch.2⟩
    rw [kept] at isEntry
    rw [← isEntry] at nonzero
    exact nonzero unknown
  · intro connectable
    exact
      connects_of_listed exchange ⟨qmap, found⟩ connectable.1 connectable.2.1
        connectable.2.2

end Exchanged

/-- A node is started with new queue pairs. -/
theorem Node.freshPeers_of_start
    {config : NodeConfig} {answers : SetupAnswers} {fd : Int32}
    {accepted : List (ByteString × Int32)} {registered : NodeInfo}
    {peerQps : PeerQps}
    (started :
      start config answers fd accepted = some (registered, peerQps)) :
    FreshPeers registered peerQps := by
  rw [start] at started
  split at started
  · cases started
  · obtain ⟨⟨initialized, made⟩, built, same⟩ :=
      Option.map_eq_some_iff.mp started
    cases same
    have fresh : FreshPeers initialized peerQps := by
      split at built
      · obtain ⟨allocated, _, _, _, noQmaps, created⟩ :=
          NodeInfo.initializeRdma_eq_some built
        have noPeers : FreshPeers allocated [] := by
          refine ⟨List.nodup_nil, ?_⟩
          intro peer listed
          cases listed
        apply createPeerQps_fresh noPeers _ created
        · intro qmap listed
          rw [noQmaps] at listed
          cases listed
      · cases built
        refine ⟨List.nodup_nil, ?_⟩
        intro peer listed
        cases listed
    refine ⟨fresh.distinct, ?_⟩
    intro peer listed
    have isFresh := fresh.fresh peer listed
    exact ⟨isFresh.state, isFresh.recvWrs, isFresh.known⟩

/-! ## When `RDMA_READY` means that the node is ready -/

section Readiness

variable (config : MemberConfig) (adapter : AdapterAnswers)
  (server : ServerAnswers) (origin : Message.Origin)
  (members : List NodeInfo) (node : MemberNode)

/-- The handler has announced the node to the orchestrator. -/
structure Announced (next : MemberNode) : Prop where
  responses :
    next.responses =
      node.responses ++
        [(config.orchestratorFd, .createRdmaReady origin node.nodeInfo.nodeId)]
  state : next.state = .running

/-- All queue pairs are connected, all receive work requests are posted and the
server runs. -/
structure ReadyForTransfers (next : MemberNode) : Prop where
  connected : ∀ peer ∈ next.peerQps, ConnectedPeer next.nodeInfo peer
  posted :
    next.nodeInfo.role = .decode →
      next.peerQps.posted =
        node.peerQps.posted + config.qpMaxRecvWr.toInt.toNat
  server : (startVllmServer config.useGpu server node.vllmPid).1 = true

/-- A node that is announced is ready. -/
def AnnouncedOnlyWhenReady : Prop :=
  ∀ next,
    handleBroadcastMemberInfo config adapter server origin members node =
        .ok next →
      Announced config origin node next →
        ReadyForTransfers config server node next

/-- Some listed peer has no queue pair for the node. -/
def ExchangeThrows : Prop :=
  ∃ peer ∈ members, ∃ qmap ∈ node.nodeInfo.qmaps,
    qmap.Matches node.nodeInfo.nodeId peer ∧
      ¬ peer.Provides node.nodeInfo.nodeId

/-- Nothing fails that the handler does not notice. -/
structure NothingFails : Prop where
  peers :
    ∀ peer ∈ node.peerQps,
      Listed members node.nodeInfo.nodeId peer.1 ∧
        adapter.modifies peer.1 .readyToReceive = true ∧
        adapter.modifies peer.1 .readyToSend = true
  recvWrs :
    node.nodeInfo.role = .decode →
      PostsRecvs adapter config.qpMaxRecvWr node.peerQps
  server : 0 ≤ server.forked

variable {config adapter server origin members node}

theorem handleBroadcastMemberInfo_eq_ok
    {next : MemberNode} (useGpu : config.useGpu = true) :
    handleBroadcastMemberInfo config adapter server origin members node =
        .ok next ↔
      ∃ filled,
        fillRemoteInfo node.nodeInfo members = .ok filled ∧
          next =
            { nodeInfo := filled
              peerQps :=
                (connectAllQps filled config.qpMaxRecvWr adapter
                  node.peerQps).2
              vllmPid := server.forked
              responses :=
                node.responses ++
                  [(config.orchestratorFd,
                    .createRdmaReady origin filled.nodeId)]
              state := .running } := by
  rw [handleBroadcastMemberInfo, startVllmServer]
  rw [useGpu]
  cases exchange : fillRemoteInfo node.nodeInfo members with
  | error failed =>
      constructor
      · intro handled
        cases handled
      · intro filled
        obtain ⟨_, isFilled, _⟩ := filled
        cases isFilled
  | ok filled =>
      constructor
      · intro handled
        cases handled
        exact ⟨filled, rfl, rfl⟩
      · intro result
        obtain ⟨same, isSame, isNext⟩ := result
        cases isSame
        rw [isNext]
        rfl

theorem fillRemoteInfo_nodeId_role
    {nodeInfo filled : NodeInfo}
    (exchange : fillRemoteInfo nodeInfo members = .ok filled) :
    filled.nodeId = nodeInfo.nodeId ∧ filled.role = nodeInfo.role := by
  rw [(fillRemoteInfo_eq_ok.mp exchange).2]
  exact ⟨rfl, rfl⟩

/-- If nothing fails the node is ready, in whatever state it was. -/
theorem readyForTransfers_of_nothingFails
    {next : MemberNode} (useGpu : config.useGpu = true)
    (known :
      ∀ peer ∈ node.peerQps,
        ∃ qmap, node.nodeInfo.findPeerInfo peer.1 = some qmap)
    (nothingFails : NothingFails config adapter server members node)
    (handled :
      handleBroadcastMemberInfo config adapter server origin members node =
        .ok next) :
    ReadyForTransfers config server node next := by
  obtain ⟨filled, exchange, isNext⟩ :=
    (handleBroadcastMemberInfo_eq_ok useGpu).mp handled
  have connects (peer : ByteString × QueuePair) (listed : peer ∈ node.peerQps) :
      Connects filled adapter peer.1 := by
    obtain ⟨isListed, receives, sends⟩ := nothingFails.peers peer listed
    exact
      connects_of_listed exchange (known peer listed) isListed receives sends
  rw [isNext]
  refine ⟨connectAllQps_connected connects, ?_, ?_⟩
  · intro isDecode
    apply (connectAllQps_posted connects isDecode).mpr
    apply nothingFails.recvWrs
    rw [← (fillRemoteInfo_nodeId_role exchange).2]
    exact isDecode
  · rw [startVllmServer]
    rw [useGpu]
    exact decide_eq_true nothingFails.server

/-- A node whose queue pairs are new is not ready if something fails. -/
theorem nothingFails_of_readyForTransfers
    {next : MemberNode} (useGpu : config.useGpu = true)
    (fresh : FreshPeers node.nodeInfo node.peerQps)
    (handled :
      handleBroadcastMemberInfo config adapter server origin members node =
        .ok next)
    (ready : ReadyForTransfers config server node next) :
    NothingFails config adapter server members node := by
  obtain ⟨filled, exchange, isNext⟩ :=
    (handleBroadcastMemberInfo_eq_ok useGpu).mp handled
  rw [isNext] at ready
  have sameRole := (fillRemoteInfo_nodeId_role exchange).2
  have connects (peer : ByteString × QueuePair) (listed : peer ∈ node.peerQps) :
      Connects filled adapter peer.1 := by
    by_contra refused
    obtain ⟨unready, isUnready, notReady⟩ :=
      connectAllQps_of_not_connects
        (fun peer isPeer => (fresh.fresh peer isPeer).state) listed refused
    exact notReady (ready.connected unready isUnready).state
  refine ⟨?_, ?_, ?_⟩
  · intro peer listed
    obtain ⟨qmap, found, unknown⟩ := (fresh.fresh peer listed).known
    exact
      (connects_iff_listed exchange found unknown).mp (connects peer listed)
  · intro isDecode
    have stillDecode : filled.role = .decode := sameRole.trans isDecode
    exact
      (connectAllQps_posted connects stillDecode).mp (ready.posted stillDecode)
  · have started := ready.server
    rw [startVllmServer] at started
    rw [useGpu] at started
    exact of_decide_eq_true started

/-- A node is ready when it is announced if the exchange throws or nothing fails;
on a node that has just been initialised this is the only way. -/
theorem announced_only_when_ready
    (useGpu : config.useGpu = true)
    (known :
      ∀ peer ∈ node.peerQps,
        ∃ qmap, node.nodeInfo.findPeerInfo peer.1 = some qmap) :
    (ExchangeThrows members node ∨
        NothingFails config adapter server members node →
      AnnouncedOnlyWhenReady config adapter server origin members node) ∧
      (FreshPeers node.nodeInfo node.peerQps →
        AnnouncedOnlyWhenReady config adapter server origin members node →
          ExchangeThrows members node ∨
            NothingFails config adapter server members node) := by
  constructor
  · intro condition next handled _
    rcases condition with throws | nothingFails
    · obtain ⟨filled, exchange, _⟩ :=
        (handleBroadcastMemberInfo_eq_ok useGpu).mp handled
      obtain ⟨failed, isFailed⟩ := fillRemoteInfo_eq_error.mpr throws
      rw [exchange] at isFailed
      cases isFailed
    · exact
        readyForTransfers_of_nothingFails useGpu known nothingFails handled
  · intro fresh onlyWhenReady
    cases exchange : fillRemoteInfo node.nodeInfo members with
    | error failed =>
        apply Or.inl
        exact fillRemoteInfo_eq_error.mp ⟨failed, exchange⟩
    | ok filled =>
        apply Or.inr
        have handled :
            handleBroadcastMemberInfo config adapter server origin members
                node =
              .ok _ :=
          (handleBroadcastMemberInfo_eq_ok useGpu).mpr
            ⟨filled, exchange, rfl⟩
        have sameId := (fillRemoteInfo_nodeId_role exchange).1
        have ready := onlyWhenReady _ handled ⟨by rw [← sameId], rfl⟩
        exact
          nothingFails_of_readyForTransfers useGpu fresh handled ready

end Readiness

/-! ## A prefill node and two decode nodes -/

def sampleConfig : MemberConfig :=
  ⟨true, 2, 4⟩

def sampleAdapter (accepts : Bool) : AdapterAnswers where
  modifies _ _ := accepts
  posts _ := accepts

def sampleServer : ServerAnswers :=
  ⟨true, true, 1000⟩

/-- The prefill node has made its queue pairs. -/
def sampleMember : MemberNode where
  nodeInfo := samplePrefill
  peerQps := [([2], { qpNum := 17 }), ([3], { qpNum := 18 })]
  vllmPid := -1
  state := .waitingForOrchestratorBroadcast
  responses := []

theorem freshPeers_sampleMember :
    FreshPeers sampleMember.nodeInfo sampleMember.peerQps where
  distinct := by decide
  fresh := by
    intro peer listed
    rcases List.mem_cons.mp listed with isFirst | later
    · rw [isFirst]
      exact ⟨rfl, rfl, sampleEntry [2] 17, rfl, rfl⟩
    · rw [List.mem_singleton.mp later]
      exact ⟨rfl, rfl, sampleEntry [3] 18, rfl, rfl⟩

theorem announced_only_when_ready_sampleMember :
    AnnouncedOnlyWhenReady sampleConfig (sampleAdapter true) sampleServer
      ⟨.cleared, 0⟩ sampleMembers sampleMember := by
  apply (announced_only_when_ready rfl _).1
  · apply Or.inr
    refine ⟨?_, ?_, by decide⟩
    · intro peer listed
      refine ⟨?_, rfl, rfl⟩
      rcases List.mem_cons.mp listed with isFirst | later
      · rw [isFirst]
        exact ⟨_, List.mem_cons_of_mem _ List.mem_cons_self, rfl, by decide⟩
      · rw [List.mem_singleton.mp later]
        exact
          ⟨_, List.mem_cons_of_mem _ (List.mem_cons_of_mem _
            List.mem_cons_self), rfl, by decide⟩
    · intro isDecode
      cases isDecode
  · intro peer listed
    obtain ⟨qmap, found, _⟩ := (freshPeers_sampleMember.fresh peer listed).known
    exact ⟨qmap, found⟩

/-- No queue pair is connected, and still the node is announced. -/
theorem announced_unconnected :
    FreshPeers sampleMember.nodeInfo sampleMember.peerQps ∧
      ¬ AnnouncedOnlyWhenReady sampleConfig (sampleAdapter false) sampleServer
          ⟨.cleared, 0⟩ sampleMembers sampleMember := by
  refine ⟨freshPeers_sampleMember, ?_⟩
  intro onlyWhenReady
  have ready := onlyWhenReady _ rfl ⟨rfl, rfl⟩
  have unconnected := ready.connected _ List.mem_cons_self
  cases unconnected.state

end RdmaKvCache
