import RdmaKvCache.Library.SortedMaps
import RdmaKvCache.Rdma.QueuePairs
import RdmaKvCache.Rdma.RdmaEngine

/-!
# Refused writes

Both ways of posting a write look the queue pair of the peer up.  `post_write`
searches the map, `post_write_external` reads it through `operator[]`, which leaves
a null pointer behind for a peer it has no entry for.  `post_recv_wrs` takes the
first entry in the order of the peers' names, `connect_all_qps` all of them.
-/

namespace RdmaKvCache

open ByteOrders SortedMaps

/-- The engine with its map of queue pairs and all that has been posted. -/
structure QueuePairEngine where
  kvBufferMb : UInt64
  qpMaxRecvWr : Int32
  hostOrder : ByteOrder
  mem : GpuMemRegion
  nodeInfo : NodeInfo
  /-- A null pointer is `none`. -/
  peerQps : SortedMap ByteString (Option QueuePair)
  posted : List (UInt32 × SendWorkRequest) := []

/-- A call that posts a write, and which work requests are accepted then. -/
inductive WriteCall where
  | external
      (accepts : UInt32 → SendWorkRequest → Bool) (peerId : ByteString)
      (localAddr : UInt64) (localLkey : UInt32)
      (remoteOffset length : UInt64) (immData : UInt32) (signal : Bool)
  | own
      (accepts : UInt32 → SendWorkRequest → Bool) (peerId : ByteString)
      (srcOffset dstOffset length : UInt64) (immData : UInt32)
      (signal : Bool)

/-- Why connecting ends early. -/
inductive ConnectFailure where
  | refused
  | nullQueuePair
  deriving DecidableEq

namespace QueuePairEngine

/-- What matters for a single write. -/
def rdmaEngine (engine : QueuePairEngine) : RDMAEngine where
  kvBufferMb := engine.kvBufferMb
  hostOrder := engine.hostOrder
  mem := engine.mem
  qmaps := engine.nodeInfo.qmaps
  peerQps :=
    engine.peerQps.entries.foldr
      (fun entry peers => peers.insert entry.1 (entry.2.map QueuePair.qpNum)) ∅

/-! ## Posting writes -/

def record (engine : QueuePairEngine) :
    RDMAEngine.PostOutcome → QueuePairEngine
  | .posted qpNum request =>
      { engine with posted := engine.posted ++ [(qpNum, request)] }
  | _ => engine

def postWriteExternal
    (engine : QueuePairEngine) (accepts : UInt32 → SendWorkRequest → Bool)
    (peerId : ByteString) (localAddr : UInt64) (localLkey : UInt32)
    (remoteOffset length : UInt64) (immData : UInt32) (signal : Bool) :
    RDMAEngine.PostOutcome × QueuePairEngine :=
  let outcome :=
    (engine.rdmaEngine.postWriteExternal accepts peerId localAddr localLkey
      remoteOffset length immData signal).1
  (outcome,
    { engine with
      peerQps := engine.peerQps.touch peerId none }.record outcome)

def postWrite
    (engine : QueuePairEngine) (accepts : UInt32 → SendWorkRequest → Bool)
    (peerId : ByteString) (srcOffset dstOffset length : UInt64)
    (immData : UInt32) (signal : Bool) :
    RDMAEngine.PostOutcome × QueuePairEngine :=
  let outcome :=
    engine.rdmaEngine.postWrite accepts peerId srcOffset dstOffset length
      immData signal
  (outcome, engine.record outcome)

def perform (engine : QueuePairEngine) :
    WriteCall → RDMAEngine.PostOutcome × QueuePairEngine
  | .external accepts peerId localAddr localLkey remoteOffset length immData
        signal =>
      engine.postWriteExternal accepts peerId localAddr localLkey
        remoteOffset length immData signal
  | .own accepts peerId srcOffset dstOffset length immData signal =>
      engine.postWrite accepts peerId srcOffset dstOffset length immData
        signal

def performAll : QueuePairEngine → List WriteCall → QueuePairEngine
  | engine, [] => engine
  | engine, call :: rest => performAll (engine.perform call).2 rest

/-- Each call of the sequence returns false. -/
def RefusesAll : QueuePairEngine → List WriteCall → Prop
  | _, [] => True
  | engine, call :: rest =>
      (engine.perform call).1.returned = some false ∧
        RefusesAll (engine.perform call).2 rest

theorem peerQps_record
    (engine : QueuePairEngine) (outcome : RDMAEngine.PostOutcome) :
    (engine.record outcome).peerQps = engine.peerQps := by
  cases outcome <;> rfl

theorem record_of_refused
    (engine : QueuePairEngine) {outcome : RDMAEngine.PostOutcome}
    (refused : outcome.returned = some false) :
    engine.record outcome = engine := by
  cases outcome with
  | refused =>
      rfl
  | nothingToPost =>
      cases refused
  | posted _ _ =>
      cases refused
  | nullQueuePair =>
      cases refused

theorem peerQps_postWriteExternal
    (engine : QueuePairEngine) (accepts : UInt32 → SendWorkRequest → Bool)
    (peerId : ByteString) (localAddr : UInt64) (localLkey : UInt32)
    (remoteOffset length : UInt64) (immData : UInt32) (signal : Bool) :
    (engine.postWriteExternal accepts peerId localAddr localLkey remoteOffset
        length immData signal).2.peerQps =
      engine.peerQps.touch peerId none :=
  peerQps_record _ _

/-! ## Receive work requests and connections -/

def postRecvWrs
    (engine : QueuePairEngine) (adapter : AdapterAnswers) (count : Int32) :
    Bool × QueuePairEngine :=
  let (answer, peerQps) :=
    engine.peerQps.traverse fun _ qp =>
      match qp with
      | none => (some false, none)
      | some anyQp =>
          let (posted, after) := anyQp.postRecvs adapter count.toInt.toNat
          (some posted, some after)
  (answer.getD false, { engine with peerQps := peerQps })

/-- The peer is looked up before the queue pair is used. -/
def connectQp
    (nodeInfo : NodeInfo) (adapter : AdapterAnswers) (peerId : ByteString) :
    Option QueuePair → Option ConnectFailure × Option QueuePair
  | some qp =>
      match connectQpToPeer nodeInfo adapter peerId qp with
      | (true, connected) => (none, some connected)
      | (false, stuck) => (some .refused, some stuck)
  | none =>
      match nodeInfo.findPeerInfo peerId with
      | none => (some .refused, none)
      | some peerInfo =>
          if peerInfo.remoteQpNum = 0 then
            (some .refused, none)
          else
            (some .nullQueuePair, none)

/-- Nothing is returned when a null pointer is dereferenced. -/
def connectAllQps (engine : QueuePairEngine) (adapter : AdapterAnswers) :
    Option Bool × QueuePairEngine :=
  let (failure, peerQps) :=
    engine.peerQps.traverse (connectQp engine.nodeInfo adapter)
  let engine := { engine with peerQps := peerQps }
  match failure with
  | some .nullQueuePair => (none, engine)
  | some .refused => (some false, engine)
  | none =>
      if engine.nodeInfo.role = .decode then
        let (posted, engine) := engine.postRecvWrs adapter engine.qpMaxRecvWr
        (some posted, engine)
      else
        (some true, engine)

/-! ## The engine without null pointers -/

/-- The entries of a map that has a queue pair for each of its peers. -/
def allocated (peerQps : PeerQps) :
    List (ByteString × Option QueuePair) :=
  peerQps.map fun peer => (peer.1, some peer.2)

/-- Without null pointers the loop of `connect_all_qps` is the one over the queue
pairs alone. -/
theorem traverseEntries_allocated
    (nodeInfo : NodeInfo) (adapter : AdapterAnswers) (peerQps : PeerQps) :
    traverseEntries (connectQp nodeInfo adapter) (allocated peerQps) =
      (if (connectPeers nodeInfo adapter peerQps).1 then none
        else some .refused,
        allocated (connectPeers nodeInfo adapter peerQps).2) := by
  induction peerQps with
  | nil =>
      rfl
  | cons peer rest inductionHypothesis =>
      obtain ⟨peerId, qp⟩ := peer
      rw [allocated, List.map_cons, traverseEntries, connectPeers, connectQp]
      rcases connectQpToPeer nodeInfo adapter peerId qp with ⟨ok, next⟩
      cases ok with
      | false =>
          rfl
      | true =>
          have others := inductionHypothesis
          rw [allocated] at others
          simp only [others]
          rfl

theorem connectAllQps_allocated
    {engine : QueuePairEngine} {peerQps : PeerQps} (adapter : AdapterAnswers)
    (noNull : engine.peerQps.entries = allocated peerQps) :
    (engine.connectAllQps adapter).1 =
        some
          (RdmaKvCache.connectAllQps engine.nodeInfo engine.qpMaxRecvWr adapter
            peerQps).1 ∧
      (engine.connectAllQps adapter).2.peerQps.entries =
        allocated
          (RdmaKvCache.connectAllQps engine.nodeInfo engine.qpMaxRecvWr adapter
            peerQps).2 := by
  have connecting :=
    traverseEntries_allocated engine.nodeInfo adapter peerQps
  rw [← noNull] at connecting
  rw [connectAllQps, RdmaKvCache.connectAllQps, SortedMap.traverse]
  rcases connect : connectPeers engine.nodeInfo adapter peerQps with
    ⟨ok, connected⟩
  rw [connect] at connecting
  cases ok with
  | false =>
      simp only [connecting]
      exact ⟨rfl, rfl⟩
  | true =>
      simp only [connecting, if_true]
      split
      · cases connected with
        | nil =>
            exact ⟨rfl, rfl⟩
        | cons peer rest =>
            exact ⟨rfl, rfl⟩
      · exact ⟨rfl, rfl⟩

/-! ## What a refused write leaves -/

/-- The write does not look up a peer the map has no entry for through
`operator[]`. -/
def Knows (engine : QueuePairEngine) : WriteCall → Prop
  | .external _ peerId _ _ _ _ _ _ => (engine.peerQps.lookup peerId).isSome
  | .own _ _ _ _ _ _ _ => True

theorem perform_of_knows
    {engine : QueuePairEngine} {call : WriteCall}
    (refused : (engine.perform call).1.returned = some false)
    (knows : engine.Knows call) :
    (engine.perform call).2 = engine := by
  cases call with
  | external accepts peerId localAddr localLkey remoteOffset length immData
      signal =>
      rw [perform, postWriteExternal] at refused ⊢
      rw [record_of_refused _ refused, SortedMap.touch_of_isSome knows]
  | own accepts peerId srcOffset dstOffset length immData signal =>
      exact record_of_refused engine refused

theorem performAll_of_knows
    {engine : QueuePairEngine} {calls : List WriteCall}
    (refused : engine.RefusesAll calls)
    (knows : ∀ call ∈ calls, engine.Knows call) :
    engine.performAll calls = engine := by
  induction calls with
  | nil =>
      rfl
  | cons call rest inductionHypothesis =>
      obtain ⟨knowsCall, knowsRest⟩ := List.forall_mem_cons.mp knows
      have same := perform_of_knows refused.1 knowsCall
      have refusedRest := refused.2
      rw [same] at refusedRest
      rw [performAll, same]
      exact inductionHypothesis refusedRest knowsRest

/-- No call changes an entry. -/
theorem lookup_perform
    {engine : QueuePairEngine} (call : WriteCall) {peerId : ByteString}
    {qp : Option QueuePair}
    (present : engine.peerQps.lookup peerId = some qp) :
    (engine.perform call).2.peerQps.lookup peerId = some qp := by
  cases call with
  | external accepts target localAddr localLkey remoteOffset length immData
      signal =>
      rw [perform, peerQps_postWriteExternal, SortedMap.lookup_touch]
      split
      · rename_i isTarget
        rw [← isTarget, present]
        rfl
      · exact present
  | own accepts target srcOffset dstOffset length immData signal =>
      rw [perform, postWrite, peerQps_record]
      exact present

theorem lookup_performAll
    {engine : QueuePairEngine} (calls : List WriteCall) {peerId : ByteString}
    {qp : Option QueuePair}
    (present : engine.peerQps.lookup peerId = some qp) :
    (engine.performAll calls).peerQps.lookup peerId = some qp := by
  induction calls generalizing engine with
  | nil =>
      exact present
  | cons call rest inductionHypothesis =>
      exact inductionHypothesis (lookup_perform call present)

theorem knows_perform (engine : QueuePairEngine) (call : WriteCall) :
    (engine.perform call).2.Knows call := by
  cases call with
  | external accepts peerId localAddr localLkey remoteOffset length immData
      signal =>
      rw [Knows, perform, peerQps_postWriteExternal, SortedMap.lookup_touch,
        if_pos rfl]
      rfl
  | own accepts peerId srcOffset dstOffset length immData signal =>
      trivial

/-- The map has an entry for every peer it has been read for. -/
theorem knows_performAll
    {engine : QueuePairEngine} {calls : List WriteCall} {call : WriteCall}
    (performed : call ∈ calls) :
    (engine.performAll calls).Knows call := by
  induction calls generalizing engine with
  | nil =>
      cases performed
  | cons first rest inductionHypothesis =>
      rcases List.mem_cons.mp performed with isFirst | later
      · have known := engine.knows_perform first
        rw [isFirst]
        cases first with
        | external accepts peerId localAddr localLkey remoteOffset length
            immData signal =>
            obtain ⟨qp, present⟩ := Option.isSome_iff_exists.mp known
            exact
              Option.isSome_iff_exists.mpr
                ⟨qp, lookup_performAll rest present⟩
        | own accepts peerId srcOffset dstOffset length immData signal =>
            trivial
      · exact inductionHypothesis later

/-- Refused writes leave the engine as it is, and so what receive work requests and
connections do afterwards, exactly if the map has had an entry for the peer of each
`post_write_external`. -/
theorem refused_writes_unchanged_iff
    {engine : QueuePairEngine} {calls : List WriteCall}
    (refused : engine.RefusesAll calls) :
    (engine.performAll calls = engine ∧
        (∀ adapter count,
          (engine.performAll calls).postRecvWrs adapter count =
            engine.postRecvWrs adapter count) ∧
        ∀ adapter,
          (engine.performAll calls).connectAllQps adapter =
            engine.connectAllQps adapter) ↔
      ∀ call ∈ calls, engine.Knows call := by
  constructor
  · intro unchanged call performed
    have known : (engine.performAll calls).Knows call :=
      knows_performAll performed
    rwa [unchanged.1] at known
  · intro knows
    have same := performAll_of_knows refused knows
    rw [same]
    exact ⟨rfl, fun _ _ => rfl, fun _ => rfl⟩

/-- With a null pointer in its map the engine never connects again. -/
theorem connectAllQps_of_null
    {engine : QueuePairEngine} {peerId : ByteString}
    (null : (peerId, none) ∈ engine.peerQps.entries)
    (adapter : AdapterAnswers) :
    (engine.connectAllQps adapter).1 ≠ some true := by
  have stops :
      (engine.peerQps.traverse
        (connectQp engine.nodeInfo adapter)).1 ≠ none := by
    intro finished
    have visited :=
      traverseEntries_fst_eq_none.mp finished (peerId, none) null
    rw [connectQp] at visited
    split at visited
    · cases visited
    · split at visited <;> cases visited
  rw [connectAllQps]
  rcases visited :
      engine.peerQps.traverse (connectQp engine.nodeInfo adapter) with
    ⟨failure, peerQps⟩
  rw [visited] at stops
  cases failure with
  | none =>
      exact absurd rfl stops
  | some failure =>
      cases failure with
      | refused =>
          intro isTrue
          cases isTrue
      | nullQueuePair =>
          intro isTrue
          cases isTrue

/-- The first call that reads the map for a peer without an entry leaves a null
pointer there. -/
theorem null_of_not_knows
    {engine : QueuePairEngine} {calls : List WriteCall}
    (refused : engine.RefusesAll calls)
    (unknown : ¬∀ call ∈ calls, engine.Knows call) :
    ∃ peerId, (engine.performAll calls).peerQps.lookup peerId = some none := by
  induction calls with
  | nil =>
      exact absurd (fun _ member => by cases member) unknown
  | cons call rest inductionHypothesis =>
      by_cases knows : engine.Knows call
      · have same := perform_of_knows refused.1 knows
        have refusedRest := refused.2
        rw [same] at refusedRest
        rw [performAll, same]
        apply inductionHypothesis refusedRest
        intro knowsRest
        exact unknown (List.forall_mem_cons.mpr ⟨knows, knowsRest⟩)
      · cases call with
        | external accepts peerId localAddr localLkey remoteOffset length
            immData signal =>
            have absent : engine.peerQps.lookup peerId = none :=
              Option.not_isSome_iff_eq_none.mp knows
            refine ⟨peerId, lookup_performAll rest ?_⟩
            rw [perform, peerQps_postWriteExternal, SortedMap.lookup_touch,
              if_pos rfl, absent]
            rfl
        | own accepts peerId srcOffset dstOffset length immData signal =>
            exact absurd trivial knows

/-- After refused writes an engine whose map has had no null pointer connects
exactly if its queue pairs alone can be connected and the map has had an entry for
the peer of each `post_write_external`. -/
theorem connects_after_refused_writes_iff
    {engine : QueuePairEngine} {peerQps : PeerQps} {calls : List WriteCall}
    (noNull : engine.peerQps.entries = allocated peerQps)
    (refused : engine.RefusesAll calls) (adapter : AdapterAnswers) :
    ((engine.performAll calls).connectAllQps adapter).1 = some true ↔
      (∀ call ∈ calls, engine.Knows call) ∧
        (RdmaKvCache.connectAllQps engine.nodeInfo engine.qpMaxRecvWr adapter
          peerQps).1 = true := by
  by_cases knows : ∀ call ∈ calls, engine.Knows call
  · rw [performAll_of_knows refused knows,
      (connectAllQps_allocated adapter noNull).1, Option.some.injEq,
      and_iff_right knows]
  · obtain ⟨peerId, null⟩ := null_of_not_knows refused knows
    have never :=
      connectAllQps_of_null (SortedMap.mem_of_lookup null) adapter
    exact iff_of_false never fun both => knows both.1

/-! ## A decode node with one peer -/

def sampleConnected : QueuePairEngine where
  kvBufferMb := 1
  qpMaxRecvWr := 4
  hostOrder := .littleEndian
  mem := { bytes := 1048576, lkey := 5, addr := 8192 }
  nodeInfo :=
    { NodeInfo.healthy [9] .decode with
      qmaps :=
        [{ PeerInfoandQPs.created [5] ⟨18, 3, none, 5⟩ with
           remoteQpNum := 37 }] }
  peerQps := SortedMap.empty.insert [5] (some { qpNum := 18 })

/-- A write to the peer, or to one nobody has heard of. -/
def sampleWriteTo (peerId : ByteString) : WriteCall :=
  .external (fun _ _ => false) peerId 8192 5 0 512 7 true

theorem refused_writes_unchanged_sampleConnected :
    sampleConnected.performAll [sampleWriteTo [5], sampleWriteTo [5]] =
      sampleConnected := by
  have refused :
      sampleConnected.RefusesAll [sampleWriteTo [5], sampleWriteTo [5]] :=
    ⟨rfl, rfl, trivial⟩
  have unchanged := (refused_writes_unchanged_iff refused).mpr
  refine (unchanged ?_).1
  intro call performed
  rcases List.mem_cons.mp performed with first | later
  · rw [first]
    rfl
  · rw [List.mem_singleton.mp later]
    rfl

theorem sampleConnected_connects_after_refused_write :
    ((sampleConnected.performAll [sampleWriteTo [5]]).connectAllQps
      ⟨fun _ _ => true, fun _ => true⟩).1 = some true := by
  have noNull :
      sampleConnected.peerQps.entries = allocated [([5], { qpNum := 18 })] :=
    rfl
  have refused : sampleConnected.RefusesAll [sampleWriteTo [5]] :=
    ⟨rfl, trivial⟩
  apply (connects_after_refused_writes_iff noNull refused _).mpr
  refine ⟨?_, by decide⟩
  intro call performed
  rw [List.mem_singleton.mp performed]
  rfl

/-- After a refused write to an unknown peer whose name comes first the engine can
neither post receive work requests nor connect. -/
theorem sampleConnected_disabled_by_refused_write :
    sampleConnected.RefusesAll [sampleWriteTo [1]] ∧
      (sampleConnected.performAll [sampleWriteTo [1]]).peerQps ≠
        sampleConnected.peerQps ∧
      (sampleConnected.postRecvWrs ⟨fun _ _ => true, fun _ => true⟩ 4).1 =
        true ∧
      ((sampleConnected.performAll [sampleWriteTo [1]]).postRecvWrs
          ⟨fun _ _ => true, fun _ => true⟩ 4).1 = false ∧
      (sampleConnected.connectAllQps ⟨fun _ _ => true, fun _ => true⟩).1 =
        some true ∧
      ((sampleConnected.performAll [sampleWriteTo [1]]).connectAllQps
          ⟨fun _ _ => true, fun _ => true⟩).1 = some false := by
  refine ⟨⟨rfl, trivial⟩, ?_, by decide, by decide, by decide, by decide⟩
  intro same
  have sameEntries := congrArg SortedMap.entries same
  exact absurd (congrArg List.length sameEntries) (by decide)

end QueuePairEngine

end RdmaKvCache
