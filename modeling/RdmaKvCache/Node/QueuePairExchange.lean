import Mathlib.Data.List.Forall2
import RdmaKvCache.Common.WireRecords
import RdmaKvCache.Rdma.QueuePairs

/-!
# Exchange of queue pairs

`handle_broadcast_member_info` goes through the list of the members and fills in
the remote values of its own entries with the local values that the peers have
for it.  An exception ends the loop, and as nobody catches it the process, so that
what has been filled in by then is lost.
-/

namespace RdmaKvCache

inductive ExchangeError where
  | missingMapping (peerId nodeId : ByteString)
  | zeroQpNum (peerId : ByteString)
  deriving DecidableEq

/-- The text of the exception. -/
def ExchangeError.what : ExchangeError → ByteString
  | .missingMapping peerId nodeId =>
      .ofText "QP info exchange failed: peer " ++ peerId ++
        .ofText " missing QP mapping for " ++ nodeId
  | .zeroQpNum peerId =>
      .ofText "Invalid QP number (0) received from peer " ++ peerId

/-- The entry with the remote values from the peer's entry for this node. -/
def PeerInfoandQPs.filled
    (qmap peerQmap : PeerInfoandQPs) (peer : NodeInfo) : PeerInfoandQPs :=
  { qmap with
    remoteQpNum := peerQmap.localQpNum
    remoteLid := peerQmap.localLid
    remoteGid := peerQmap.localGid
    remotePsn := peerQmap.localPsn
    remoteRkey := peer.rkey
    remoteAddr := peer.gpuBaseAddr }

/-! ## The loops -/

def fillQmap
    (nodeId : ByteString) (peer : NodeInfo) (qmap : PeerInfoandQPs) :
    Except ExchangeError PeerInfoandQPs :=
  if qmap.peerNodeId = peer.nodeId then
    match peer.findPeerInfo nodeId with
    | none => .error (.missingMapping peer.nodeId nodeId)
    | some peerQmap =>
        let filled := qmap.filled peerQmap peer
        if filled.remoteQpNum = 0 then
          .error (.zeroQpNum peer.nodeId)
        else
          .ok filled
  else
    .ok qmap

def fillQmaps (nodeId : ByteString) (peer : NodeInfo) :
    List PeerInfoandQPs → Except ExchangeError (List PeerInfoandQPs)
  | [] => .ok []
  | qmap :: rest =>
      (fillQmap nodeId peer qmap).bind fun filled =>
        (fillQmaps nodeId peer rest).map fun others => filled :: others

/-- The node skips itself. -/
def fillPeer (nodeInfo peer : NodeInfo) : Except ExchangeError NodeInfo :=
  if peer.nodeId = nodeInfo.nodeId then
    .ok nodeInfo
  else
    (fillQmaps nodeInfo.nodeId peer nodeInfo.qmaps).map fun qmaps =>
      { nodeInfo with qmaps := qmaps }

def fillRemoteInfo :
    NodeInfo → List NodeInfo → Except ExchangeError NodeInfo
  | nodeInfo, [] => .ok nodeInfo
  | nodeInfo, peer :: rest =>
      (fillPeer nodeInfo peer).bind fun filled => fillRemoteInfo filled rest

/-! ## One entry -/

/-- The peer has a queue pair for the node. -/
def NodeInfo.Provides (peer : NodeInfo) (nodeId : ByteString) : Prop :=
  ∃ peerQmap,
    peer.findPeerInfo nodeId = some peerQmap ∧ peerQmap.localQpNum ≠ 0

/-- The entry is for the peer, which is another node. -/
def PeerInfoandQPs.Matches
    (qmap : PeerInfoandQPs) (nodeId : ByteString) (peer : NodeInfo) : Prop :=
  qmap.peerNodeId = peer.nodeId ∧ peer.nodeId ≠ nodeId

instance (qmap : PeerInfoandQPs) (nodeId : ByteString) (peer : NodeInfo) :
    Decidable (qmap.Matches nodeId peer) :=
  inferInstanceAs (Decidable (_ ∧ _))

/-- What becomes of an entry unless the loop throws. -/
def PeerInfoandQPs.filledFrom
    (nodeId : ByteString) (qmap : PeerInfoandQPs) (peer : NodeInfo) :
    PeerInfoandQPs :=
  if qmap.Matches nodeId peer then
    match peer.findPeerInfo nodeId with
    | none => qmap
    | some peerQmap => qmap.filled peerQmap peer
  else
    qmap

namespace PeerInfoandQPs

variable {nodeId : ByteString} {qmap : PeerInfoandQPs} {peer : NodeInfo}

theorem filledFrom_of_matches
    {peerQmap : PeerInfoandQPs} (isMatch : qmap.Matches nodeId peer)
    (found : peer.findPeerInfo nodeId = some peerQmap) :
    qmap.filledFrom nodeId peer = qmap.filled peerQmap peer := by
  unfold filledFrom
  rw [if_pos isMatch, found]

theorem filledFrom_of_not_matches (noMatch : ¬ qmap.Matches nodeId peer) :
    qmap.filledFrom nodeId peer = qmap :=
  if_neg noMatch

@[simp]
theorem filledFrom_peerNodeId :
    (qmap.filledFrom nodeId peer).peerNodeId = qmap.peerNodeId := by
  unfold filledFrom
  split
  · split <;> rfl
  · rfl

theorem matches_filledFrom (other : NodeInfo) :
    (qmap.filledFrom nodeId peer).Matches nodeId other ↔
      qmap.Matches nodeId other := by
  unfold Matches
  rw [filledFrom_peerNodeId]

/-- The local values, and the peer the entry is for. -/
structure SameLocal (before after : PeerInfoandQPs) : Prop where
  peerNodeId : after.peerNodeId = before.peerNodeId
  localQpNum : after.localQpNum = before.localQpNum
  localLid : after.localLid = before.localLid
  localGid : after.localGid = before.localGid
  localPsn : after.localPsn = before.localPsn

theorem SameLocal.trans
    {first second third : PeerInfoandQPs}
    (earlier : first.SameLocal second) (later : second.SameLocal third) :
    first.SameLocal third where
  peerNodeId := later.peerNodeId.trans earlier.peerNodeId
  localQpNum := later.localQpNum.trans earlier.localQpNum
  localLid := later.localLid.trans earlier.localLid
  localGid := later.localGid.trans earlier.localGid
  localPsn := later.localPsn.trans earlier.localPsn

theorem sameLocal_filledFrom (nodeId : ByteString) (qmap : PeerInfoandQPs)
    (peer : NodeInfo) :
    qmap.SameLocal (qmap.filledFrom nodeId peer) := by
  unfold filledFrom
  split
  · split <;>
      exact ⟨rfl, rfl, rfl, rfl, rfl⟩
  · exact ⟨rfl, rfl, rfl, rfl, rfl⟩

/-- The remote values are the local ones of the peer's entry. -/
structure HoldsRemote
    (entry peerQmap : PeerInfoandQPs) (peer : NodeInfo) : Prop where
  remoteQpNum : entry.remoteQpNum = peerQmap.localQpNum
  remoteLid : entry.remoteLid = peerQmap.localLid
  remoteGid : entry.remoteGid = peerQmap.localGid
  remotePsn : entry.remotePsn = peerQmap.localPsn
  remoteRkey : entry.remoteRkey = peer.rkey
  remoteAddr : entry.remoteAddr = peer.gpuBaseAddr

/-! ## One entry and all members -/

/-- The entry once the loop has gone through the members. -/
def exchanged
    (nodeId : ByteString) (members : List NodeInfo) (qmap : PeerInfoandQPs) :
    PeerInfoandQPs :=
  members.foldl (filledFrom nodeId) qmap

variable {members : List NodeInfo}

theorem sameLocal_exchanged (qmap : PeerInfoandQPs) :
    qmap.SameLocal (qmap.exchanged nodeId members) := by
  unfold exchanged
  induction members generalizing qmap with
  | nil =>
      exact ⟨rfl, rfl, rfl, rfl, rfl⟩
  | cons peer rest inductionHypothesis =>
      have first := sameLocal_filledFrom nodeId qmap peer
      have others := inductionHypothesis (qmap.filledFrom nodeId peer)
      exact first.trans others

theorem exchanged_of_no_match
    (noMatch : ∀ peer ∈ members, ¬ qmap.Matches nodeId peer) :
    qmap.exchanged nodeId members = qmap := by
  unfold exchanged
  induction members with
  | nil =>
      rfl
  | cons peer rest inductionHypothesis =>
      rw [List.foldl_cons,
        filledFrom_of_not_matches (noMatch peer List.mem_cons_self)]
      apply inductionHypothesis
      intro other listed
      exact noMatch other (List.mem_cons_of_mem peer listed)

theorem filledFrom_filledFrom :
    (qmap.filledFrom nodeId peer).filledFrom nodeId peer =
      qmap.filledFrom nodeId peer := by
  by_cases isMatch : qmap.Matches nodeId peer
  · cases found : peer.findPeerInfo nodeId with
    | none =>
        have kept : qmap.filledFrom nodeId peer = qmap := by
          unfold filledFrom
          rw [if_pos isMatch, found]
        rw [kept, kept]
    | some peerQmap =>
        have again : (qmap.filledFrom nodeId peer).Matches nodeId peer :=
          (matches_filledFrom peer).mpr isMatch
        rw [filledFrom_of_matches again found,
          filledFrom_of_matches isMatch found]
        rfl
  · rw [filledFrom_of_not_matches isMatch, filledFrom_of_not_matches isMatch]

/-- Equal names stand for the same node. -/
def Coherent (members : List NodeInfo) : Prop :=
  ∀ first ∈ members, ∀ second ∈ members,
    first.nodeId = second.nodeId → first = second

/-- Only the member the entry is for counts, wherever and however often it is
listed. -/
theorem exchanged_of_match
    (coherent : Coherent members) (listed : peer ∈ members)
    (isMatch : qmap.Matches nodeId peer) :
    qmap.exchanged nodeId members = qmap.filledFrom nodeId peer := by
  have others (rest : List NodeInfo) (entry : PeerInfoandQPs)
      (among : rest ⊆ members) (entryMatch : entry.Matches nodeId peer)
      (filled : entry.filledFrom nodeId peer = entry) :
      entry.exchanged nodeId rest = entry := by
    induction rest with
    | nil =>
        rfl
    | cons other rest inductionHypothesis =>
        obtain ⟨otherListed, restAmong⟩ := List.cons_subset.mp among
        have kept : entry.filledFrom nodeId other = entry := by
          by_cases otherMatch : entry.Matches nodeId other
          · have same :=
              coherent other otherListed peer listed
                (otherMatch.1.symm.trans entryMatch.1)
            rw [same]
            exact filled
          · exact filledFrom_of_not_matches otherMatch
        unfold exchanged at inductionHypothesis ⊢
        rw [List.foldl_cons, kept]
        exact inductionHypothesis restAmong
  have throughout (rest : List NodeInfo) (among : rest ⊆ members)
      (restListed : peer ∈ rest) :
      qmap.exchanged nodeId rest = qmap.filledFrom nodeId peer := by
    induction rest with
    | nil =>
        cases restListed
    | cons other rest inductionHypothesis =>
        obtain ⟨otherListed, restAmong⟩ := List.cons_subset.mp among
        unfold exchanged at inductionHypothesis ⊢
        rw [List.foldl_cons]
        by_cases otherMatch : qmap.Matches nodeId other
        · have same :=
            coherent other otherListed peer listed
              (otherMatch.1.symm.trans isMatch.1)
          rw [same]
          apply others rest _ restAmong
          · exact (matches_filledFrom peer).mpr isMatch
          · exact filledFrom_filledFrom
        · rw [filledFrom_of_not_matches otherMatch]
          apply inductionHypothesis restAmong
          rcases List.mem_cons.mp restListed with isOther | later
          · rw [isOther] at isMatch
            exact absurd isMatch otherMatch
          · exact later
  exact throughout members (List.Subset.refl _) listed

/-- The order and the number of times the members are listed do not matter. -/
theorem exchanged_congr
    {others : List NodeInfo} (coherent : Coherent members)
    (same : ∀ peer, peer ∈ others ↔ peer ∈ members) :
    qmap.exchanged nodeId others = qmap.exchanged nodeId members := by
  have coherentOthers : Coherent others := by
    intro first firstListed second secondListed
    exact
      coherent first ((same first).mp firstListed) second
        ((same second).mp secondListed)
  by_cases someMatch : ∃ peer ∈ members, qmap.Matches nodeId peer
  · obtain ⟨peer, listed, isMatch⟩ := someMatch
    rw [exchanged_of_match coherent listed isMatch,
      exchanged_of_match coherentOthers ((same peer).mpr listed) isMatch]
  · have noMatch (peer : NodeInfo) (listed : peer ∈ members) :
        ¬ qmap.Matches nodeId peer :=
      fun isMatch => someMatch ⟨peer, listed, isMatch⟩
    rw [exchanged_of_no_match noMatch, exchanged_of_no_match]
    intro peer listed
    exact noMatch peer ((same peer).mp listed)

/-- A second pass changes nothing. -/
theorem exchanged_exchanged (coherent : Coherent members) :
    (qmap.exchanged nodeId members).exchanged nodeId members =
      qmap.exchanged nodeId members := by
  by_cases someMatch : ∃ peer ∈ members, qmap.Matches nodeId peer
  · obtain ⟨peer, listed, isMatch⟩ := someMatch
    rw [exchanged_of_match coherent listed isMatch,
      exchanged_of_match coherent listed
        ((matches_filledFrom peer).mpr isMatch),
      filledFrom_filledFrom]
  · have noMatch (peer : NodeInfo) (listed : peer ∈ members) :
        ¬ qmap.Matches nodeId peer :=
      fun isMatch => someMatch ⟨peer, listed, isMatch⟩
    rw [exchanged_of_no_match noMatch, exchanged_of_no_match noMatch]

end PeerInfoandQPs

/-! ## All entries -/

open PeerInfoandQPs

theorem fillQmap_eq_ok
    {nodeId : ByteString} {peer : NodeInfo} {qmap filled : PeerInfoandQPs}
    (other : peer.nodeId ≠ nodeId) :
    fillQmap nodeId peer qmap = .ok filled ↔
      (qmap.Matches nodeId peer → peer.Provides nodeId) ∧
        filled = qmap.filledFrom nodeId peer := by
  unfold fillQmap filledFrom
  by_cases same : qmap.peerNodeId = peer.nodeId
  · have isMatch : qmap.Matches nodeId peer := ⟨same, other⟩
    rw [if_pos same, if_pos isMatch]
    cases found : peer.findPeerInfo nodeId with
    | none =>
        constructor
        · intro failed
          cases failed
        · intro provided
          obtain ⟨peerQmap, isFound, _⟩ := provided.1 isMatch
          rw [found] at isFound
          cases isFound
    | some peerQmap =>
        by_cases zero : (qmap.filled peerQmap peer).remoteQpNum = 0
        · simp only [if_pos zero]
          constructor
          · intro failed
            cases failed
          · intro provided
            obtain ⟨provider, isFound, nonzero⟩ := provided.1 isMatch
            rw [found] at isFound
            cases isFound
            exact absurd zero nonzero
        · simp only [if_neg zero, Except.ok.injEq]
          constructor
          · intro isFilled
            exact ⟨fun _ => ⟨peerQmap, found, zero⟩, isFilled.symm⟩
          · intro provided
            exact provided.2.symm
  · have noMatch : ¬ qmap.Matches nodeId peer := fun isMatch => same isMatch.1
    rw [if_neg same, if_neg noMatch, Except.ok.injEq]
    constructor
    · intro kept
      exact ⟨fun isMatch => absurd isMatch noMatch, kept.symm⟩
    · intro kept
      exact kept.2.symm

theorem fillQmaps_eq_ok
    {nodeId : ByteString} {peer : NodeInfo}
    {qmaps filled : List PeerInfoandQPs} (other : peer.nodeId ≠ nodeId) :
    fillQmaps nodeId peer qmaps = .ok filled ↔
      (∀ qmap ∈ qmaps, qmap.Matches nodeId peer → peer.Provides nodeId) ∧
        filled = qmaps.map fun qmap => qmap.filledFrom nodeId peer := by
  induction qmaps generalizing filled with
  | nil =>
      simp [fillQmaps, eq_comm]
  | cons qmap rest inductionHypothesis =>
      rw [List.forall_mem_cons, List.map_cons]
      unfold fillQmaps
      constructor
      · intro succeeded
        cases first : fillQmap nodeId peer qmap with
        | error failed =>
            rw [first] at succeeded
            cases succeeded
        | ok entry =>
            rw [first] at succeeded
            simp only [Except.bind] at succeeded
            cases remaining : fillQmaps nodeId peer rest with
            | error failed =>
                rw [remaining] at succeeded
                cases succeeded
            | ok others =>
                rw [remaining] at succeeded
                cases succeeded
                obtain ⟨provided, isEntry⟩ := (fillQmap_eq_ok other).mp first
                obtain ⟨allProvided, areOthers⟩ :=
                  inductionHypothesis.mp remaining
                rw [isEntry, areOthers]
                exact ⟨⟨provided, allProvided⟩, rfl⟩
      · intro provided
        have first := (fillQmap_eq_ok other).mpr ⟨provided.1.1, rfl⟩
        have remaining := inductionHypothesis.mpr ⟨provided.1.2, rfl⟩
        rw [first, provided.2]
        simp only [Except.bind]
        rw [remaining]
        rfl

theorem fillPeer_eq_ok {nodeInfo peer filled : NodeInfo} :
    fillPeer nodeInfo peer = .ok filled ↔
      (∀ qmap ∈ nodeInfo.qmaps, qmap.Matches nodeInfo.nodeId peer →
          peer.Provides nodeInfo.nodeId) ∧
        filled =
          { nodeInfo with
            qmaps :=
              nodeInfo.qmaps.map fun qmap =>
                qmap.filledFrom nodeInfo.nodeId peer } := by
  unfold fillPeer
  by_cases itself : peer.nodeId = nodeInfo.nodeId
  · have noMatch (qmap : PeerInfoandQPs) :
        ¬ qmap.Matches nodeInfo.nodeId peer :=
      fun isMatch => isMatch.2 itself
    have kept :
        (nodeInfo.qmaps.map fun qmap =>
            qmap.filledFrom nodeInfo.nodeId peer) =
          nodeInfo.qmaps := by
      apply List.map_id''
      intro qmap
      exact filledFrom_of_not_matches (noMatch qmap)
    rw [if_pos itself, kept, Except.ok.injEq]
    constructor
    · intro same
      exact ⟨fun qmap _ isMatch => absurd isMatch (noMatch qmap), same.symm⟩
    · intro same
      exact same.2.symm
  · rw [if_neg itself]
    constructor
    · intro succeeded
      cases entries : fillQmaps nodeInfo.nodeId peer nodeInfo.qmaps with
      | error failed =>
          rw [entries] at succeeded
          cases succeeded
      | ok qmaps =>
          rw [entries] at succeeded
          cases succeeded
          obtain ⟨provided, areFilled⟩ := (fillQmaps_eq_ok itself).mp entries
          rw [areFilled]
          exact ⟨provided, rfl⟩
    · intro provided
      rw [(fillQmaps_eq_ok itself).mpr ⟨provided.1, rfl⟩, provided.2]
      rfl

/-- The loop succeeds if every listed peer this node has an entry for has one for
this node. -/
theorem fillRemoteInfo_eq_ok
    {nodeInfo filled : NodeInfo} {members : List NodeInfo} :
    fillRemoteInfo nodeInfo members = .ok filled ↔
      (∀ peer ∈ members, ∀ qmap ∈ nodeInfo.qmaps,
          qmap.Matches nodeInfo.nodeId peer →
            peer.Provides nodeInfo.nodeId) ∧
        filled =
          { nodeInfo with
            qmaps :=
              nodeInfo.qmaps.map fun qmap =>
                qmap.exchanged nodeInfo.nodeId members } := by
  induction members generalizing nodeInfo with
  | nil =>
      have kept :
          (nodeInfo.qmaps.map fun qmap =>
              qmap.exchanged nodeInfo.nodeId []) =
            nodeInfo.qmaps :=
        List.map_id _
      simp [fillRemoteInfo, kept, eq_comm]
  | cons peer rest inductionHypothesis =>
      rw [List.forall_mem_cons]
      unfold fillRemoteInfo
      constructor
      · intro succeeded
        cases first : fillPeer nodeInfo peer with
        | error failed =>
            rw [first] at succeeded
            cases succeeded
        | ok next =>
            rw [first] at succeeded
            simp only [Except.bind] at succeeded
            obtain ⟨provided, isNext⟩ := fillPeer_eq_ok.mp first
            rw [isNext] at succeeded
            obtain ⟨allProvided, isFilled⟩ :=
              inductionHypothesis.mp succeeded
            refine ⟨⟨provided, ?_⟩, ?_⟩
            · intro other listed qmap entry isMatch
              apply allProvided other listed (qmap.filledFrom _ peer)
              · exact List.mem_map.mpr ⟨qmap, entry, rfl⟩
              · exact (matches_filledFrom other).mpr isMatch
            · rw [isFilled]
              simp only [List.map_map]
              rfl
      · intro provided
        rw [fillPeer_eq_ok.mpr ⟨provided.1.1, rfl⟩]
        simp only [Except.bind]
        apply inductionHypothesis.mpr
        refine ⟨?_, ?_⟩
        · intro other listed qmap entry isMatch
          obtain ⟨earlier, earlierEntry, same⟩ := List.mem_map.mp entry
          apply provided.1.2 other listed earlier earlierEntry
          rw [← same] at isMatch
          exact (matches_filledFrom other).mp isMatch
        · rw [provided.2]
          simp only [List.map_map]
          rfl

theorem fillRemoteInfo_eq_error
    {nodeInfo : NodeInfo} {members : List NodeInfo} :
    (∃ failed, fillRemoteInfo nodeInfo members = .error failed) ↔
      ∃ peer ∈ members, ∃ qmap ∈ nodeInfo.qmaps,
        qmap.Matches nodeInfo.nodeId peer ∧
          ¬ peer.Provides nodeInfo.nodeId := by
  have succeeds (filled : NodeInfo) :
      fillRemoteInfo nodeInfo members = .ok filled ↔ _ ∧ _ :=
    fillRemoteInfo_eq_ok
  constructor
  · intro failing
    obtain ⟨failed, isFailed⟩ := failing
    by_contra allProvided
    have done := (succeeds _).mpr
      ⟨fun peer listed qmap entry isMatch => by
        by_contra missing
        exact allProvided ⟨peer, listed, qmap, entry, isMatch, missing⟩, rfl⟩
    rw [isFailed] at done
    cases done
  · intro missing
    obtain ⟨peer, listed, qmap, entry, isMatch, unprovided⟩ := missing
    cases outcome : fillRemoteInfo nodeInfo members with
    | error failed =>
        exact ⟨failed, rfl⟩
    | ok filled =>
        exact
          absurd (((succeeds filled).mp outcome).1 peer listed qmap entry isMatch)
            unprovided

/-! ## The exchange between the nodes of a cluster -/

/-- The members are nodes as they have been registered. -/
def AreRegistered (nodes members : List NodeInfo) : Prop :=
  ∀ member ∈ members, ∃ node ∈ nodes, member = node.overTheWire

/-- The peer has no queue pair for the node, or one without a number. -/
def NodeInfo.Omits (peer : NodeInfo) (nodeId : ByteString) : Prop :=
  (∀ peerQmap ∈ peer.qmaps, peerQmap.peerNodeId ≠ nodeId) ∨
    ∃ peerQmap ∈ peer.qmaps,
      peerQmap.peerNodeId = nodeId ∧ peerQmap.localQpNum = 0

section Cluster

variable {nodes members : List NodeInfo}

theorem AreRegistered.coherent
    (distinctIds : (nodes.map NodeInfo.nodeId).Nodup)
    (registered : AreRegistered nodes members) :
    Coherent members := by
  intro first firstListed second secondListed sameId
  obtain ⟨node, isNode, fromNode⟩ := registered first firstListed
  obtain ⟨other, isOther, fromOther⟩ := registered second secondListed
  rw [fromNode, fromOther] at sameId ⊢
  have same : node = other :=
    List.inj_on_of_nodup_map distinctIds isNode isOther sameId
  rw [same]

theorem NodeInfo.findPeerInfo_eq_some
    {nodeInfo : NodeInfo} {peerId : ByteString} {qmap : PeerInfoandQPs}
    (distinctPeers : (nodeInfo.qmaps.map PeerInfoandQPs.peerNodeId).Nodup) :
    nodeInfo.findPeerInfo peerId = some qmap ↔
      qmap ∈ nodeInfo.qmaps ∧ qmap.peerNodeId = peerId := by
  unfold findPeerInfo
  constructor
  · intro found
    have isPeer := List.find?_some found
    exact ⟨List.mem_of_find?_eq_some found, of_decide_eq_true isPeer⟩
  · intro entry
    cases found :
        nodeInfo.qmaps.find? fun qmap =>
          decide (qmap.peerNodeId = peerId) with
    | none =>
        have isOther := List.find?_eq_none.mp found qmap entry.1
        exact absurd (decide_eq_true entry.2) isOther
    | some first =>
        have isFirst := List.find?_some found
        have isPeer : first.peerNodeId = peerId := of_decide_eq_true isFirst
        have same : first = qmap :=
          List.inj_on_of_nodup_map distinctPeers
            (List.mem_of_find?_eq_some found) entry.1
            (isPeer.trans entry.2.symm)
        rw [same]

theorem NodeInfo.not_provides_iff
    {peer : NodeInfo} {nodeId : ByteString}
    (distinctPeers : (peer.qmaps.map PeerInfoandQPs.peerNodeId).Nodup) :
    ¬ peer.Provides nodeId ↔ peer.Omits nodeId := by
  have found (qmap : PeerInfoandQPs) :
      peer.findPeerInfo nodeId = some qmap ↔ _ ∧ _ :=
    findPeerInfo_eq_some distinctPeers
  constructor
  · intro unprovided
    by_cases someEntry :
        ∃ peerQmap ∈ peer.qmaps, peerQmap.peerNodeId = nodeId
    · obtain ⟨peerQmap, entry, isNode⟩ := someEntry
      apply Or.inr
      refine ⟨peerQmap, entry, isNode, ?_⟩
      by_contra nonzero
      exact
        unprovided ⟨peerQmap, (found peerQmap).mpr ⟨entry, isNode⟩, nonzero⟩
    · apply Or.inl
      intro peerQmap entry isNode
      exact someEntry ⟨peerQmap, entry, isNode⟩
  · intro omitted provided
    obtain ⟨peerQmap, isFound, nonzero⟩ := provided
    obtain ⟨entry, isNode⟩ := (found peerQmap).mp isFound
    rcases omitted with noEntry | zeroEntry
    · exact noEntry peerQmap entry isNode
    · obtain ⟨other, otherEntry, otherNode, zero⟩ := zeroEntry
      have same : other = peerQmap :=
        List.inj_on_of_nodup_map distinctPeers otherEntry entry
          (otherNode.trans isNode.symm)
      rw [same] at zero
      exact nonzero zero

/-- The entry for a listed peer, after the loop. -/
theorem findPeerInfo_fillRemoteInfo
    {nodeInfo peer filled : NodeInfo} {qmap peerQmap : PeerInfoandQPs}
    (coherent : Coherent members) (listed : peer ∈ members)
    (distinctPeers : (nodeInfo.qmaps.map PeerInfoandQPs.peerNodeId).Nodup)
    (peerDistinct : (peer.qmaps.map PeerInfoandQPs.peerNodeId).Nodup)
    (succeeded : fillRemoteInfo nodeInfo members = .ok filled)
    (other : peer.nodeId ≠ nodeInfo.nodeId)
    (entry : qmap ∈ nodeInfo.qmaps) (isPeer : qmap.peerNodeId = peer.nodeId)
    (peerEntry : peerQmap ∈ peer.qmaps)
    (isNode : peerQmap.peerNodeId = nodeInfo.nodeId) :
    filled.findPeerInfo peer.nodeId = some (qmap.filled peerQmap peer) := by
  have isMatch : qmap.Matches nodeInfo.nodeId peer := ⟨isPeer, other⟩
  have found : peer.findPeerInfo nodeInfo.nodeId = some peerQmap :=
    (NodeInfo.findPeerInfo_eq_some peerDistinct).mpr ⟨peerEntry, isNode⟩
  have isExchanged :
      qmap.exchanged nodeInfo.nodeId members = qmap.filled peerQmap peer := by
    rw [exchanged_of_match coherent listed isMatch,
      filledFrom_of_matches isMatch found]
  rw [(fillRemoteInfo_eq_ok.mp succeeded).2]
  apply (NodeInfo.findPeerInfo_eq_some _).mpr
  · refine ⟨List.mem_map.mpr ⟨qmap, entry, isExchanged⟩, isPeer⟩
  · have samePeers :
        (nodeInfo.qmaps.map fun qmap =>
            qmap.exchanged nodeInfo.nodeId members).map
              PeerInfoandQPs.peerNodeId =
          nodeInfo.qmaps.map PeerInfoandQPs.peerNodeId := by
      rw [List.map_map]
      apply List.map_congr_left
      intro qmap _
      exact (sameLocal_exchanged qmap).peerNodeId
    rw [samePeers]
    exact distinctPeers

theorem holdsRemote_filled
    (qmap peerQmap : PeerInfoandQPs) (node : NodeInfo) :
    (qmap.filled peerQmap node.overTheWire).HoldsRemote peerQmap node :=
  ⟨rfl, rfl, rfl, rfl, rfl, rfl⟩

theorem fillRemoteInfo_frame
    {nodeInfo filled : NodeInfo}
    (succeeded : fillRemoteInfo nodeInfo members = .ok filled) :
    filled = { nodeInfo with qmaps := filled.qmaps } ∧
      List.Forall₂
        (fun before after =>
          before.SameLocal after ∧
            ((∀ member ∈ members, member.nodeId ≠ before.peerNodeId) →
              after = before))
        nodeInfo.qmaps filled.qmaps := by
  rw [(fillRemoteInfo_eq_ok.mp succeeded).2]
  refine ⟨rfl, ?_⟩
  apply List.forall₂_map_right_iff.mpr
  apply List.forall₂_same.mpr
  intro qmap _
  refine ⟨sameLocal_exchanged qmap, ?_⟩
  intro unlisted
  apply exchanged_of_no_match
  intro member listed isMatch
  exact unlisted member listed isMatch.1.symm

theorem fillRemoteInfo_perm
    {nodeInfo : NodeInfo} {others : List NodeInfo}
    (coherent : Coherent members) (reordered : others.Perm members) :
    (fillRemoteInfo nodeInfo others).toOption =
      (fillRemoteInfo nodeInfo members).toOption := by
  have sameResult (filled : NodeInfo) :
      fillRemoteInfo nodeInfo others = .ok filled ↔
        fillRemoteInfo nodeInfo members = .ok filled := by
    have sameEntries :
        (nodeInfo.qmaps.map fun qmap =>
            qmap.exchanged nodeInfo.nodeId others) =
          nodeInfo.qmaps.map fun qmap =>
            qmap.exchanged nodeInfo.nodeId members := by
      apply List.map_congr_left
      intro qmap _
      apply exchanged_congr coherent
      intro peer
      exact reordered.mem_iff
    rw [fillRemoteInfo_eq_ok, fillRemoteInfo_eq_ok, sameEntries]
    simp only [reordered.mem_iff]
  cases first : fillRemoteInfo nodeInfo others with
  | ok filled =>
      rw [(sameResult filled).mp first]
  | error failed =>
      cases second : fillRemoteInfo nodeInfo members with
      | error otherFailed =>
          rfl
      | ok filled =>
          rw [(sameResult filled).mpr second] at first
          cases first

theorem fillRemoteInfo_again
    {nodeInfo filled : NodeInfo} (coherent : Coherent members)
    (succeeded : fillRemoteInfo nodeInfo members = .ok filled) :
    fillRemoteInfo filled members = .ok filled := by
  obtain ⟨provided, isFilled⟩ := fillRemoteInfo_eq_ok.mp succeeded
  apply fillRemoteInfo_eq_ok.mpr
  rw [isFilled]
  refine ⟨?_, ?_⟩
  · intro peer listed qmap entry isMatch
    obtain ⟨earlier, earlierEntry, same⟩ := List.mem_map.mp entry
    have samePeer :
        (earlier.exchanged nodeInfo.nodeId members).peerNodeId =
          earlier.peerNodeId :=
      (sameLocal_exchanged earlier).peerNodeId
    rw [same] at samePeer
    exact
      provided peer listed earlier earlierEntry
        ⟨samePeer.symm.trans isMatch.1, isMatch.2⟩
  · simp only [List.map_map]
    congr 1
    apply List.map_congr_left
    intro qmap _
    exact (exchanged_exchanged coherent).symm

theorem fillRemoteInfo_throws_iff
    {nodeInfo : NodeInfo}
    (distinctPeers :
      ∀ node ∈ nodes, (node.qmaps.map PeerInfoandQPs.peerNodeId).Nodup)
    (registered : AreRegistered nodes members) :
    (∃ failed, fillRemoteInfo nodeInfo members = .error failed) ↔
      ∃ peer ∈ members, ∃ qmap ∈ nodeInfo.qmaps,
        qmap.Matches nodeInfo.nodeId peer ∧ peer.Omits nodeInfo.nodeId := by
  rw [fillRemoteInfo_eq_error]
  have omits (peer : NodeInfo) (listed : peer ∈ members) :
      ¬ peer.Provides nodeInfo.nodeId ↔ peer.Omits nodeInfo.nodeId := by
    obtain ⟨node, isNode, fromNode⟩ := registered peer listed
    apply NodeInfo.not_provides_iff
    rw [fromNode]
    exact distinctPeers node isNode
  constructor
  · intro missing
    obtain ⟨peer, listed, qmap, entry, isMatch, unprovided⟩ := missing
    exact ⟨peer, listed, qmap, entry, isMatch, (omits peer listed).mp unprovided⟩
  · intro missing
    obtain ⟨peer, listed, qmap, entry, isMatch, omitted⟩ := missing
    exact ⟨peer, listed, qmap, entry, isMatch, (omits peer listed).mpr omitted⟩

/-- Two listed nodes that have entries for each other hold each other's local
values; nothing else changes, in whatever order and however often the members are
gone through; and the loop throws exactly on a listed peer that omits the node. -/
theorem queue_pair_exchange_mutual
    (distinctIds : (nodes.map NodeInfo.nodeId).Nodup)
    (distinctPeers :
      ∀ node ∈ nodes, (node.qmaps.map PeerInfoandQPs.peerNodeId).Nodup)
    (registered : AreRegistered nodes members) :
    (∀ i ∈ nodes, ∀ j ∈ nodes,
        i.nodeId ≠ j.nodeId →
          i.overTheWire ∈ members → j.overTheWire ∈ members →
            ∀ filledI filledJ,
              fillRemoteInfo i members = .ok filledI →
                fillRemoteInfo j members = .ok filledJ →
                  ∀ qmapI ∈ i.qmaps, ∀ qmapJ ∈ j.qmaps,
                    qmapI.peerNodeId = j.nodeId →
                      qmapJ.peerNodeId = i.nodeId →
                        ∃ entryI entryJ,
                          filledI.findPeerInfo j.nodeId = some entryI ∧
                            entryI.HoldsRemote qmapJ j ∧
                            filledJ.findPeerInfo i.nodeId = some entryJ ∧
                            entryJ.HoldsRemote qmapI i) ∧
      ∀ i ∈ nodes,
        (∀ filled,
            fillRemoteInfo i members = .ok filled →
              filled = { i with qmaps := filled.qmaps } ∧
                List.Forall₂
                  (fun before after =>
                    before.SameLocal after ∧
                      ((∀ member ∈ members,
                          member.nodeId ≠ before.peerNodeId) →
                        after = before))
                  i.qmaps filled.qmaps ∧
                fillRemoteInfo filled members = .ok filled) ∧
          (∀ others : List NodeInfo, others.Perm members →
            (fillRemoteInfo i others).toOption =
              (fillRemoteInfo i members).toOption) ∧
          ((∃ failed, fillRemoteInfo i members = .error failed) ↔
            ∃ peer ∈ members, ∃ qmap ∈ i.qmaps,
              qmap.Matches i.nodeId peer ∧ peer.Omits i.nodeId) := by
  have coherent := registered.coherent distinctIds
  refine ⟨?_, ?_⟩
  · intro i isI j isJ different listedI listedJ filledI filledJ succeededI
      succeededJ qmapI entryI qmapJ entryJ forJ forI
    have foundI :=
      findPeerInfo_fillRemoteInfo coherent listedJ (distinctPeers i isI)
        (distinctPeers j isJ) succeededI different.symm entryI forJ entryJ
        forI
    have foundJ :=
      findPeerInfo_fillRemoteInfo coherent listedI (distinctPeers j isJ)
        (distinctPeers i isI) succeededJ different entryJ forI entryI forJ
    exact
      ⟨_, _, foundI, holdsRemote_filled qmapI qmapJ j, foundJ,
        holdsRemote_filled qmapJ qmapI i⟩
  · intro i isI
    refine ⟨?_, ?_, ?_⟩
    · intro filled succeeded
      obtain ⟨onlyQmaps, entries⟩ := fillRemoteInfo_frame succeeded
      exact ⟨onlyQmaps, entries, fillRemoteInfo_again coherent succeeded⟩
    · intro others reordered
      exact fillRemoteInfo_perm coherent reordered
    · exact fillRemoteInfo_throws_iff distinctPeers registered

end Cluster

/-! ## A prefill node and two decode nodes -/

def sampleEntry (peerId : ByteString) (qpNum : UInt32) : PeerInfoandQPs :=
  .created peerId ⟨qpNum, 3, none, 5⟩

def sampleNode
    (nodeId : ByteString) (role : NodeRole) (rkey : UInt64)
    (qmaps : List PeerInfoandQPs) : NodeInfo :=
  { NodeInfo.healthy nodeId role with
    gpuBaseAddr := 4096
    rkey := rkey
    qmaps := qmaps }

def samplePrefill : NodeInfo :=
  sampleNode [1] .prefill 7 [sampleEntry [2] 17, sampleEntry [3] 18]

def sampleDecode : NodeInfo :=
  sampleNode [3] .decode 9 [sampleEntry [1] 37]

def sampleNodes : List NodeInfo :=
  [samplePrefill, sampleNode [2] .decode 8 [sampleEntry [1] 27], sampleDecode]

def sampleMembers : List NodeInfo :=
  sampleNodes.map NodeInfo.overTheWire

theorem areRegistered_sampleMembers :
    AreRegistered sampleNodes sampleMembers := by
  intro member listed
  obtain ⟨node, isNode, same⟩ := List.mem_map.mp listed
  exact ⟨node, isNode, same.symm⟩

theorem queue_pair_exchange_mutual_sampleNodes :
    ∃ filledI filledJ entryI entryJ,
      fillRemoteInfo samplePrefill sampleMembers = .ok filledI ∧
        fillRemoteInfo sampleDecode sampleMembers = .ok filledJ ∧
        filledI.findPeerInfo [3] = some entryI ∧
        entryI.HoldsRemote (sampleEntry [1] 37) sampleDecode ∧
        filledJ.findPeerInfo [1] = some entryJ ∧
        entryJ.HoldsRemote (sampleEntry [3] 18) samplePrefill := by
  have exchange :=
    queue_pair_exchange_mutual (by decide) (by decide)
      areRegistered_sampleMembers
  have succeededI :
      ∃ filled, fillRemoteInfo samplePrefill sampleMembers = .ok filled :=
    ⟨_, rfl⟩
  have succeededJ :
      ∃ filled, fillRemoteInfo sampleDecode sampleMembers = .ok filled :=
    ⟨_, rfl⟩
  obtain ⟨filledI, isFilledI⟩ := succeededI
  obtain ⟨filledJ, isFilledJ⟩ := succeededJ
  obtain ⟨entryI, entryJ, foundI, holdsI, foundJ, holdsJ⟩ :=
    exchange.1 samplePrefill (by decide) sampleDecode (by decide) (by decide)
      (by decide) (by decide) filledI filledJ isFilledI isFilledJ
      (sampleEntry [3] 18) (by decide) (sampleEntry [1] 37) (by decide) rfl rfl
  exact
    ⟨filledI, filledJ, entryI, entryJ, isFilledI, isFilledJ, foundI, holdsI,
      foundJ, holdsJ⟩

end RdmaKvCache
