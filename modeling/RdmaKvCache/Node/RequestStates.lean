import RdmaKvCache.Library.LabelledRuns
import RdmaKvCache.Node.RecvCompletions
import RdmaKvCache.Node.SequenceNumbers

/-!
# The states of a tracked request

The tracker documents the order of the states of a request.  The handlers and
`rdma_poll_loop` write them in separate critical sections, without looking at the
state that is there.  The order is kept throughout a run exactly if no section
comes too early or too late: a request is added once, its slot is prepared before
its first layer is marked, it is decoded after its last one, and it does not
receive layers after a failure.
-/

namespace RdmaKvCache

namespace RequestTrackerLayer

/-! ## The documented order -/

/-- The place of a state; a request ends in one of the last two. -/
def State.rank : State → Nat
  | .assigned => 0
  | .waitingForPrefill => 1
  | .waitingForKv => 2
  | .receivingKv => 3
  | .readyForDecode => 4
  | .decoding => 5
  | .completed => 6
  | .failed => 6

namespace RequestInfo

def AllMarked (info : RequestInfo) : Prop :=
  ∀ index (bound : index < info.numLayers.toInt.toNat),
    info.layers[index].received = true

instance decidableAllMarked (info : RequestInfo) : Decidable info.AllMarked :=
  inferInstanceAs (Decidable (∀ index (_ : index < _), _ = true))

/-- What the state of a request says of its layers, and the other way round. -/
structure Consistent (info : RequestInfo) : Prop where
  allMarked :
    info.state ∈ [.readyForDecode, .decoding, .completed] → info.AllMarked
  ready : info.AllMarked → State.readyForDecode.rank ≤ info.state.rank

/-- A request whose states have been written in order. -/
structure InOrder (info : RequestInfo) : Prop where
  consistent : info.Consistent
  records : info.Records fun _ => True
  positive : 0 < info.numLayers
  waiting :
    info.state.rank ≤ State.waitingForKv.rank → info.layersReceivedCount = 0
  receiving : info.state = .receivingKv → info.layersReceivedCount ≠ 0

end RequestInfo

/-- No request that stays tracked moves to an earlier state. -/
def Forward (tracker next : RequestTrackerLayer) : Prop :=
  ∀ requestId, ∀ earlier ∈ tracker.getRequest requestId,
    ∀ later ∈ next.getRequest requestId, earlier.state.rank ≤ later.state.rank

/-- No request moves back, and the states agree with the layers afterwards. -/
structure MovesForward (tracker next : RequestTrackerLayer) : Prop where
  forward : tracker.Forward next
  consistent : next.EachRecord fun _ info => info.Consistent

end RequestTrackerLayer

namespace DecodeNode

open RequestTrackerLayer

/-- The section of a worker keeps the order of the states.  A request is added
before a record of it has moved on, and has layers.  None of its layers has been
marked when its slot has been prepared, and all have been when it is decoded. -/
def SectionInOrder (node : DecodeNode) : WorkerTask → Prop
  | .prepareSlot info _ =>
      node.tracker.Admits info.slotId node.numLayers.toInt32 →
        0 < node.numLayers.toInt32 ∧
          ∀ earlier ∈ node.tracker.getRequest info.requestId,
            earlier.state = .assigned
  | .slotPrepared requestId =>
      ∀ info ∈ node.tracker.getRequest requestId,
        info.layersReceivedCount = 0 ∧ info.state ≠ .failed
  | .requestFound found =>
      ∀ info ∈ node.tracker.getRequest found.requestId,
        info.AllMarked ∧ info.state ≠ .completed ∧ info.state ≠ .failed
  | .decoded found _ =>
      ∀ info ∈ node.tracker.getRequest found.requestId, info.AllMarked
  | _ => True

/-- A request that has failed does not receive its first layer, nor its last. -/
def MarkInOrder
    (node : DecodeNode) (requestId : ByteString) (layerId : UInt16) : Prop :=
  ∀ info ∈ node.tracker.getRequest requestId,
    (info.receiveLayer (Int32.ofNat layerId.toNat)).isSome →
      info.state = .failed →
        info.layersReceivedCount ≠ 0 ∧
          info.layersReceivedCount + 1 ≠ info.numLayers

def KeepsOrder (node : DecodeNode) : NodeAction → Prop
  | .work index _ => ∀ task ∈ node.tasks[index]?, node.SectionInOrder task
  | .advanceLoop _ =>
      ∀ marking ∈ node.pollLoop.marking,
        node.MarkInOrder marking.1 marking.2.1
  | _ => True

instance decidableAdmits
    (tracker : RequestTrackerLayer) (assignedSlot numLayers : Int32) :
    Decidable (tracker.Admits assignedSlot numLayers) :=
  decidable_of_iff
    ((0 ≤ assignedSlot ∧ assignedSlot < tracker.layout.maxConcurrentRequests) ∧
      tracker.slotHolder assignedSlot = none ∧ 0 ≤ numLayers)
    ⟨fun holds => ⟨holds.1.1, holds.1.2, holds.2.1, holds.2.2⟩,
      fun admits => ⟨⟨admits.nonneg, admits.below⟩, admits.free, admits.layers⟩⟩

instance decidableSectionInOrder (node : DecodeNode) :
    ∀ task, Decidable (node.SectionInOrder task)
  | .prepareSlot _ _ =>
      inferInstanceAs (Decidable (_ → _ ∧ ∀ earlier ∈ _, _ = _))
  | .slotPrepared _ => inferInstanceAs (Decidable (∀ info ∈ _, _ = _ ∧ _ ≠ _))
  | .requestFound _ =>
      inferInstanceAs
        (Decidable
          (∀ info ∈ _, RequestTrackerLayer.RequestInfo.AllMarked info ∧
            _ ≠ _ ∧ _ ≠ _))
  | .decoded _ _ =>
      inferInstanceAs
        (Decidable (∀ info ∈ _, RequestTrackerLayer.RequestInfo.AllMarked info))
  | .transferComplete _ | .requesting _ | .decodeFailed _ | .completed _ _
  | .answered _ | .finished => .isTrue trivial

instance decidableMarkInOrder
    (node : DecodeNode) (requestId : ByteString) (layerId : UInt16) :
    Decidable (node.MarkInOrder requestId layerId) :=
  inferInstanceAs (Decidable (∀ info ∈ _, _ → _ → _ ≠ _ ∧ _ ≠ _))

instance decidableKeepsOrder (node : DecodeNode) :
    ∀ action, Decidable (node.KeepsOrder action)
  | .work _ _ => inferInstanceAs (Decidable (∀ task ∈ _, node.SectionInOrder task))
  | .advanceLoop _ =>
      inferInstanceAs (Decidable (∀ marking ∈ _, node.MarkInOrder _ _))
  | .receive _ | .waitAndPop | .poll _ _ => .isTrue trivial

end DecodeNode

namespace RequestTrackerLayer

/-! ## One record -/

namespace RequestInfo

theorem consistent_withState (info : RequestInfo) (newState : State) :
    { info with state := newState }.Consistent ↔
      (newState ∈ [.readyForDecode, .decoding, .completed] → info.AllMarked) ∧
        (info.AllMarked → State.readyForDecode.rank ≤ newState.rank) := by
  constructor
  · intro consistent
    exact ⟨consistent.allMarked, consistent.ready⟩
  · rintro ⟨allMarked, ready⟩
    exact ⟨allMarked, ready⟩

/-- A request is decoded in time exactly if it has its layers and has not ended. -/
theorem decoding_iff (info : RequestInfo) :
    (info.state.rank ≤ State.decoding.rank ∧
        { info with state := State.decoding }.Consistent) ↔
      info.AllMarked ∧ info.state ≠ .completed ∧ info.state ≠ .failed := by
  rw [consistent_withState]
  constructor
  · rintro ⟨early, allMarked, _⟩
    refine ⟨allMarked (by decide), ?_, ?_⟩ <;>
      intro ended <;>
      rw [ended] at early <;>
      revert early <;>
      decide
  · rintro ⟨allMarked, notCompleted, notFailed⟩
    refine ⟨?_, ⟨fun _ => allMarked, fun _ => by decide⟩⟩
    cases state : info.state with
    | assigned | waitingForPrefill | waitingForKv | receivingKv | readyForDecode
    | decoding =>
        decide
    | completed =>
        exact absurd state notCompleted
    | failed =>
        exact absurd state notFailed

theorem completed_iff (info : RequestInfo) :
    (info.state.rank ≤ State.completed.rank ∧
        { info with state := State.completed }.Consistent) ↔
      info.AllMarked := by
  rw [consistent_withState]
  constructor
  · rintro ⟨_, allMarked, _⟩
    exact allMarked (by decide)
  · intro allMarked
    refine ⟨?_, ⟨fun _ => allMarked, fun _ => by decide⟩⟩
    cases info.state <;>
      decide

theorem failed_moves (info : RequestInfo) :
    info.state.rank ≤ State.failed.rank ∧
      { info with state := State.failed }.Consistent := by
  rw [consistent_withState]
  refine ⟨?_, fun settled => absurd settled (by decide), fun _ => by decide⟩
  cases info.state <;>
    decide

theorem Records.allMarked_iff
    {info : RequestInfo} {accepted : Nat → Prop}
    (records : info.Records accepted) (positive : 0 < info.numLayers) :
    info.AllMarked ↔ info.layersReceivedCount = info.numLayers := by
  have layers : 0 < info.numLayers.toInt := Int32.lt_iff_toInt_lt.mp positive
  have count := records.count
  have all :
      info.AllMarked ↔
        info.layers.countP LayerMetadata.received =
          info.numLayers.toInt.toNat := by
    rw [Vector.countP_eq_size, Vector.forall_mem_iff_forall_getElem]
    rfl
  rw [all, ← Int32.toInt_inj, count]
  omega

namespace InOrder

variable {info received : RequestInfo} {layerId : Int32}

theorem allMarked_iff (inOrder : info.InOrder) :
    info.AllMarked ↔ info.layersReceivedCount = info.numLayers :=
  inOrder.records.allMarked_iff inOrder.positive

/-- A layer is missing as long as none has been marked. -/
theorem not_allMarked_of_none
    (inOrder : info.InOrder) (noLayer : info.layersReceivedCount = 0) :
    ¬ info.AllMarked := by
  intro allMarked
  have full := inOrder.allMarked_iff.mp allMarked
  have positive := inOrder.positive
  rw [← full, noLayer] at positive
  exact Int32.lt_irrefl positive

/-- The slot of a request is prepared in time exactly if no layer is marked. -/
theorem waitingForKv_iff (inOrder : info.InOrder) :
    (info.state.rank ≤ State.waitingForKv.rank ∧
        { info with state := State.waitingForKv }.Consistent) ↔
      info.layersReceivedCount = 0 ∧ info.state ≠ .failed := by
  constructor
  · rintro ⟨early, _⟩
    refine ⟨inOrder.waiting early, ?_⟩
    intro failed
    rw [failed] at early
    revert early
    decide
  · rintro ⟨noLayer, notFailed⟩
    have missing := inOrder.not_allMarked_of_none noLayer
    have consistent : { info with state := State.waitingForKv }.Consistent := by
      rw [consistent_withState]
      exact
        ⟨fun settled => absurd settled (by decide),
          fun allMarked => absurd allMarked missing⟩
    refine ⟨?_, consistent⟩
    cases state : info.state with
    | assigned | waitingForPrefill | waitingForKv =>
        decide
    | receivingKv =>
        exact absurd noLayer (inOrder.receiving state)
    | readyForDecode | decoding | completed =>
        refine absurd (inOrder.consistent.allMarked ?_) missing
        rw [state]
        decide
    | failed =>
        exact absurd state notFailed

/-- Another state keeps a record in order if it agrees with the layers. -/
theorem withState
    (inOrder : info.InOrder) {newState : State}
    (consistent : { info with state := newState }.Consistent)
    (waiting :
      newState.rank ≤ State.waitingForKv.rank → info.layersReceivedCount = 0)
    (notReceiving : newState ≠ .receivingKv) :
    { info with state := newState }.InOrder where
  consistent := consistent
  records := ⟨inOrder.records.received, inOrder.records.count⟩
  positive := inOrder.positive
  waiting := waiting
  receiving isReceiving := absurd isReceiving notReceiving

/-! ### A received layer -/

theorem missing_of_receives
    (receives : info.receiveLayer layerId = some received) :
    ¬ info.AllMarked := by
  intro allMarked
  obtain ⟨_, bound, missing, _⟩ := receiveLayer_eq_some receives
  exact missing (allMarked layerId.toInt.toNat bound)

theorem receives_state
    (receives : info.receiveLayer layerId = some received) :
    received.state =
      if info.layersReceivedCount + 1 = info.numLayers then .readyForDecode
      else if info.layersReceivedCount + 1 = 1 then .receivingKv
      else info.state := by
  obtain ⟨_, _, _, isReceived⟩ := receiveLayer_eq_some receives
  rw [isReceived]

/-- After a layer has been received, all are marked if the count says so. -/
theorem received_allMarked_iff
    (inOrder : info.InOrder)
    (receives : info.receiveLayer layerId = some received) :
    received.AllMarked ↔ info.layersReceivedCount + 1 = info.numLayers := by
  obtain ⟨_, _, sameLayers, counted⟩ := receiveLayer_same receives
  have records : received.Records fun _ => True :=
    inOrder.records.receive trivial receives
  have positive : 0 < received.numLayers := by
    rw [sameLayers]
    exact inOrder.positive
  rw [records.allMarked_iff positive, counted, sameLayers]

/-- While a layer is missing only a failure is past the receiving of layers. -/
theorem rank_le_iff_of_missing
    (inOrder : info.InOrder) (missing : ¬ info.AllMarked) {bound : Nat}
    (atLeast : State.receivingKv.rank ≤ bound)
    (below : bound < State.failed.rank) :
    info.state.rank ≤ bound ↔ info.state ≠ .failed := by
  constructor
  · intro early failed
    rw [failed] at early
    exact absurd (Nat.lt_of_le_of_lt early below) (Nat.lt_irrefl _)
  · intro notFailed
    refine Nat.le_trans ?_ atLeast
    cases state : info.state with
    | assigned | waitingForPrefill | waitingForKv | receivingKv =>
        decide
    | readyForDecode | decoding | completed =>
        refine absurd (inOrder.consistent.allMarked ?_) missing
        rw [state]
        decide
    | failed =>
        exact absurd state notFailed

/-- A received layer moves a request back exactly if it has failed and the layer
is its first one or its last. -/
theorem receive_iff
    (inOrder : info.InOrder)
    (receives : info.receiveLayer layerId = some received) :
    (info.state.rank ≤ received.state.rank ∧ received.Consistent) ↔
      (info.state = .failed →
        info.layersReceivedCount ≠ 0 ∧
          info.layersReceivedCount + 1 ≠ info.numLayers) := by
  have missing := missing_of_receives receives
  have complete := inOrder.received_allMarked_iff receives
  have newState := receives_state receives
  by_cases last : info.layersReceivedCount + 1 = info.numLayers
  · rw [if_pos last] at newState
    have consistent : received.Consistent := by
      constructor
      · intro _
        exact complete.mpr last
      · intro _
        rw [newState]
    rw [newState,
      inOrder.rank_le_iff_of_missing missing (by decide) (by decide)]
    constructor
    · rintro ⟨notFailed, _⟩ failed
      exact absurd failed notFailed
    · intro allowed
      exact ⟨fun failed => (allowed failed).2 last, consistent⟩
  · rw [if_neg last] at newState
    have incomplete : ¬ received.AllMarked := mt complete.mp last
    by_cases first : info.layersReceivedCount = 0
    · have isOne : info.layersReceivedCount + 1 = 1 := by
        rw [first, Int32.zero_add]
      rw [if_pos isOne] at newState
      have consistent : received.Consistent := by
        constructor
        · intro settled
          rw [newState] at settled
          exact absurd settled (by decide)
        · intro allMarked
          exact absurd allMarked incomplete
      rw [newState,
        inOrder.rank_le_iff_of_missing missing (by decide) (by decide)]
      constructor
      · rintro ⟨notFailed, _⟩ failed
        exact absurd failed notFailed
      · intro allowed
        exact ⟨fun failed => (allowed failed).1 first, consistent⟩
    · have notOne : ¬ info.layersReceivedCount + 1 = 1 := by
        intro isOne
        exact first (Int32.add_eq_right.mp isOne)
      rw [if_neg notOne] at newState
      have consistent : received.Consistent := by
        constructor
        · intro settled
          rw [newState] at settled
          exact absurd (inOrder.consistent.allMarked settled) missing
        · intro allMarked
          exact absurd allMarked incomplete
      rw [newState]
      exact
        ⟨fun _ _ => ⟨first, last⟩, fun _ => ⟨Nat.le_refl _, consistent⟩⟩

theorem receivedCount_ne_zero
    (inOrder : info.InOrder)
    (receives : info.receiveLayer layerId = some received) :
    received.layersReceivedCount ≠ 0 := by
  obtain ⟨_, _, _, counted⟩ := receiveLayer_same receives
  have count := inOrder.records.count
  intro none
  rw [counted] at none
  have isMinusOne : info.layersReceivedCount = -1 :=
    Int32.add_left_inj 1 |>.mp (none.trans (by decide))
  rw [isMinusOne] at count
  have minusOne : (-1 : Int32).toInt = -1 := by
    decide
  omega

/-- A received layer leaves a consistent record in order. -/
theorem receive
    (inOrder : info.InOrder)
    (receives : info.receiveLayer layerId = some received)
    (consistent : received.Consistent) :
    received.InOrder where
  consistent := consistent
  records := inOrder.records.receive trivial receives
  positive := by
    rw [(receiveLayer_same receives).2.2.1]
    exact inOrder.positive
  waiting := by
    have newState := receives_state receives
    intro early
    split at newState
    · rw [newState] at early
      exact absurd early (by decide)
    · split at newState
      · rw [newState] at early
        exact absurd early (by decide)
      · rename_i notFirst
        rw [newState] at early
        have noLayer := inOrder.waiting early
        rw [noLayer] at notFirst
        exact absurd (Int32.zero_add 1) notFirst
  receiving _ := inOrder.receivedCount_ne_zero receives

end InOrder

end RequestInfo

/-! ## The tracker -/

/-- What a step does to a tracker whose requests are in order: they move forward
exactly if the condition holds, and then they stay in order. -/
structure OrderedBy
    (tracker next : RequestTrackerLayer) (condition : Prop) : Prop where
  iff : tracker.MovesForward next ↔ condition
  inOrder : condition → next.EachRecord fun _ info => info.InOrder

section Steps

variable {tracker next : RequestTrackerLayer} {condition : Prop}

/-- Records that stay as they are, or go, move nothing back. -/
theorem orderedBy_kept
    (each : tracker.EachRecord fun _ info => info.InOrder)
    (kept :
      ∀ requestId info, next.requests.lookup requestId = some info →
        tracker.requests.lookup requestId = some info) :
    tracker.OrderedBy next True := by
  have inOrder : next.EachRecord fun _ info => info.InOrder := by
    intro requestId info found
    exact each requestId info (kept requestId info found)
  have moves : tracker.MovesForward next := by
    constructor
    · intro requestId earlier isEarlier later isLater
      have found : tracker.requests.lookup requestId = some later :=
        kept requestId later isLater
      have same : some earlier = some later := isEarlier.symm.trans found
      cases same
      exact Nat.le_refl _
    · intro requestId info found
      exact (inOrder requestId info found).consistent
  exact ⟨iff_true_intro moves, fun _ => inOrder⟩

theorem orderedBy_same
    (each : tracker.EachRecord fun _ info => info.InOrder)
    (same : next.requests = tracker.requests) :
    tracker.OrderedBy next True := by
  apply orderedBy_kept each
  intro requestId info found
  rwa [same] at found

theorem orderedBy_removeRequest
    (each : tracker.EachRecord fun _ info => info.InOrder)
    (removed : ByteString) :
    tracker.OrderedBy (tracker.removeRequest removed) True := by
  apply orderedBy_kept each
  intro requestId info found
  rw [removeRequest] at found
  split at found
  · exact found
  · by_cases same : requestId = removed
    · rw [same, AList.lookup_erase] at found
      cases found
    · rwa [AList.lookup_erase_ne same] at found

/-- Writing one record moves the requests forward exactly if it moves this one
forward and leaves it consistent. -/
theorem orderedBy_insert
    (each : tracker.EachRecord fun _ info => info.InOrder)
    {requestId : ByteString} {written : RequestInfo}
    (replaced : next.requests = tracker.requests.insert requestId written)
    (forward :
      ((∀ earlier ∈ tracker.getRequest requestId,
          earlier.state.rank ≤ written.state.rank) ∧
        written.Consistent) ↔
        condition)
    (inOrder : condition → written.InOrder) :
    tracker.OrderedBy next condition := by
  have isWritten : next.requests.lookup requestId = some written := by
    rw [replaced]
    exact AList.lookup_insert _
  have others :
      ∀ other, other ≠ requestId →
        next.requests.lookup other = tracker.requests.lookup other := by
    intro other different
    rw [replaced]
    exact AList.lookup_insert_ne different
  have eachIff
      (property : ByteString → RequestInfo → Prop)
      (before : tracker.EachRecord property) :
      next.EachRecord property ↔ property requestId written := by
    constructor
    · intro after
      exact after requestId written isWritten
    · intro holds tested info found
      by_cases same : tested = requestId
      · rw [same, isWritten] at found
        cases found
        rw [same]
        exact holds
      · rw [others tested same] at found
        exact before tested info found
  have consistentIff :=
    eachIff (fun _ info => info.Consistent)
      (fun tested info found => (each tested info found).consistent)
  refine ⟨?_, ?_⟩
  · rw [← forward]
    constructor
    · intro moves
      refine ⟨?_, consistentIff.mp moves.consistent⟩
      intro earlier isEarlier
      exact moves.forward requestId earlier isEarlier written isWritten
    · rintro ⟨rank, consistent⟩
      refine ⟨?_, consistentIff.mpr consistent⟩
      intro tested earlier isEarlier later isLater
      have found : next.requests.lookup tested = some later := isLater
      by_cases same : tested = requestId
      · rw [same] at isEarlier
        rw [same, isWritten] at found
        cases found
        exact rank earlier isEarlier
      · rw [others tested same] at found
        have unchanged : some earlier = some later :=
          isEarlier.symm.trans found
        cases unchanged
        exact Nat.le_refl _
  · intro holds
    exact (eachIff (fun _ info => info.InOrder) each).mpr (inOrder holds)

/-- A new state for a request. -/
theorem orderedBy_updateState
    (each : tracker.EachRecord fun _ info => info.InOrder)
    {requestId : ByteString} {newState : State}
    {allowed : RequestInfo → Prop}
    (notReceiving : newState ≠ .receivingKv)
    (waiting :
      ∀ info, allowed info → newState.rank ≤ State.waitingForKv.rank →
        info.layersReceivedCount = 0)
    (forward :
      ∀ info, info.InOrder →
        ((info.state.rank ≤ newState.rank ∧
            { info with state := newState }.Consistent) ↔
          allowed info)) :
    tracker.OrderedBy (tracker.updateState requestId newState).2
      (∀ info ∈ tracker.getRequest requestId, allowed info) := by
  cases known : tracker.requests.lookup requestId with
  | none =>
      have isNext : (tracker.updateState requestId newState).2 = tracker := by
        simp only [updateState, known]
      have unknown : tracker.getRequest requestId = none := known
      have vacuous : ∀ info ∈ tracker.getRequest requestId, allowed info := by
        rw [unknown]
        intro info isKnown
        cases isKnown
      rw [isNext, eq_true vacuous]
      exact orderedBy_same each rfl
  | some info =>
      have found : tracker.getRequest requestId = some info := known
      have inOrder := each requestId info known
      have replaced :
          (tracker.updateState requestId newState).2.requests =
            tracker.requests.insert requestId
              { info with state := newState } := by
        simp only [updateState, known]
      rw [found]
      simp only [Option.mem_some_iff, forall_eq']
      refine orderedBy_insert each replaced ?_ ?_
      · rw [found]
        simp only [Option.mem_some_iff, forall_eq']
        exact forward info inOrder
      · intro isAllowed
        exact
          inOrder.withState ((forward info inOrder).mpr isAllowed).2
            (waiting info isAllowed) notReceiving

theorem newRequest_consistent_iff
    (layout : MemoryLayout) (requestId prefillNodeId : ByteString)
    (assignedSlot : Int32) {numLayers : Int32} (nonneg : 0 ≤ numLayers) :
    (newRequest layout requestId prefillNodeId assignedSlot
        numLayers).Consistent ↔
      0 < numLayers := by
  constructor
  · intro consistent
    by_contra notPositive
    have isZero : numLayers = 0 :=
      Int32.le_antisymm (Int32.not_lt.mp notPositive) nonneg
    subst isZero
    have allMarked :
        (newRequest layout requestId prefillNodeId assignedSlot 0).AllMarked := by
      intro index bound
      exact absurd bound (Nat.not_lt_zero index)
    have late : State.readyForDecode.rank ≤ State.assigned.rank :=
      consistent.ready allMarked
    exact absurd late (by decide)
  · intro positive
    have records :=
      newRequest_records layout requestId prefillNodeId assignedSlot numLayers
        fun _ => True
    constructor
    · intro settled
      have isSettled :
          State.assigned ∈ [.readyForDecode, .decoding, .completed] :=
        settled
      exact absurd isSettled (by decide)
    · intro allMarked
      have full := (records.allMarked_iff positive).mp allMarked
      have isZero : (0 : Int32) = numLayers := full
      rw [← isZero] at positive
      exact absurd positive (Int32.lt_irrefl)

theorem newRequest_inOrder
    (layout : MemoryLayout) (requestId prefillNodeId : ByteString)
    (assignedSlot : Int32) {numLayers : Int32} (positive : 0 < numLayers) :
    (newRequest layout requestId prefillNodeId assignedSlot
      numLayers).InOrder where
  consistent :=
    (newRequest_consistent_iff layout requestId prefillNodeId assignedSlot
      (Int32.le_of_lt positive)).mpr positive
  records :=
    newRequest_records layout requestId prefillNodeId assignedSlot numLayers _
  positive := positive
  waiting _ := rfl
  receiving isReceiving := by
    cases isReceiving

theorem orderedBy_addRequest
    (each : tracker.EachRecord fun _ info => info.InOrder)
    {requestId prefillNodeId : ByteString} {assignedSlot numLayers : Int32}
    {seqNum : UInt16}
    (added :
      tracker.addRequest requestId prefillNodeId assignedSlot numLayers =
        .ok (seqNum, next)) :
    tracker.OrderedBy next
      (0 < numLayers ∧
        ∀ earlier ∈ tracker.getRequest requestId,
          earlier.state = .assigned) := by
  obtain ⟨_, _, _, nonneg, isNext⟩ := addRequest_eq_ok added
  have replaced :
      next.requests =
        tracker.requests.insert requestId
          (newRequest tracker.layout requestId prefillNodeId assignedSlot
            numLayers) := by
    rw [isNext]
  have rankIff (info : RequestInfo) :
      info.state.rank ≤ State.assigned.rank ↔ info.state = .assigned := by
    cases info.state <;>
      decide
  refine orderedBy_insert each replaced ?_ ?_
  · rw [newRequest_consistent_iff _ _ _ _ nonneg, and_comm]
    exact
      and_congr_right fun _ =>
        forall₂_congr fun info _ => rankIff info
  · rintro ⟨positive, _⟩
    exact newRequest_inOrder _ _ _ _ positive

theorem orderedBy_markLayerReceived
    (each : tracker.EachRecord fun _ info => info.InOrder)
    (requestId : ByteString) (layerId : Int32) :
    tracker.OrderedBy (tracker.markLayerReceived requestId layerId).2
      (∀ info ∈ tracker.getRequest requestId,
        (info.receiveLayer layerId).isSome → info.state = .failed →
          info.layersReceivedCount ≠ 0 ∧
            info.layersReceivedCount + 1 ≠ info.numLayers) := by
  cases known : tracker.requests.lookup requestId with
  | none =>
      have isNext :
          (tracker.markLayerReceived requestId layerId).2 = tracker := by
        simp only [markLayerReceived, known]
      have unknown : tracker.getRequest requestId = none := known
      rw [isNext, unknown]
      simpa using orderedBy_same each rfl
  | some info =>
      have found : tracker.getRequest requestId = some info := known
      have inOrder := each requestId info known
      rw [found]
      simp only [Option.mem_some_iff, forall_eq']
      cases receives : info.receiveLayer layerId with
      | none =>
          have isNext :
              (tracker.markLayerReceived requestId layerId).2 = tracker := by
            simp only [markLayerReceived, known, receives]
          rw [isNext]
          simpa using orderedBy_same each rfl
      | some received =>
          have replaced :
              (tracker.markLayerReceived requestId layerId).2.requests =
                tracker.requests.insert requestId received := by
            simp only [markLayerReceived, known, receives]
          have moved := inOrder.receive_iff receives
          simp only [Option.isSome_some, forall_const]
          refine orderedBy_insert each replaced ?_ ?_
          · rw [found]
            simp only [Option.mem_some_iff, forall_eq']
            exact moved
          · intro allowed
            exact inOrder.receive receives (moved.mpr allowed).2

end Steps

end RequestTrackerLayer

/-! ## The node -/

namespace DecodeNode

open RequestTrackerLayer

variable {node next : DecodeNode}

/-- The tracker after each section of a worker. -/
theorem orderedBy_advanceTask
    (each : node.tracker.EachRecord fun _ info => info.InOrder)
    {task reached : WorkerTask} {input : WorkerInput}
    (advanced : node.advanceTask input task = some (next, reached)) :
    node.tracker.OrderedBy next.tracker (node.SectionInOrder task) := by
  cases task with
  | prepareSlot info assignment =>
      simp only [advanceTask, Option.some.injEq] at advanced
      rw [addRequest] at advanced
      simp only [SectionInOrder]
      split at advanced
      · rename_i error result
        cases advanced
        have refused := not_admits_of_error result
        simpa only [refused, false_implies] using orderedBy_same each rfl
      · rename_i seqNum tracker added
        cases advanced
        have admits := admits_of_ok added
        simpa only [admits, true_implies] using orderedBy_addRequest each added
  | slotPrepared requestId =>
      cases advanced
      exact
        orderedBy_updateState each (by decide) (fun _ allowed _ => allowed.1)
          fun _ inOrder => inOrder.waitingForKv_iff
  | transferComplete info =>
      simp only [advanceTask] at advanced
      split at advanced <;>
        cases advanced <;>
        exact orderedBy_same each rfl
  | requestFound info =>
      cases advanced
      exact
        orderedBy_updateState each (by decide)
          (fun _ _ early => absurd early (by decide))
          fun info _ => info.decoding_iff
  | requesting info =>
      simp only [advanceTask] at advanced
      split at advanced <;>
        cases advanced <;>
        exact orderedBy_same each rfl
  | decodeFailed requestId =>
      cases advanced
      have moved :
          node.tracker.OrderedBy (node.updateState requestId .failed).tracker
            (∀ info ∈ node.tracker.getRequest requestId, True) :=
        orderedBy_updateState each (by decide)
          (fun _ _ early => absurd early (by decide))
          fun info _ => iff_true_intro info.failed_moves
      simp only [implies_true] at moved
      exact moved
  | decoded info generatedText =>
      cases advanced
      exact
        orderedBy_updateState each (by decide)
          (fun _ _ early => absurd early (by decide))
          fun info _ => info.completed_iff
  | completed info generatedText =>
      cases advanced
      exact orderedBy_same each rfl
  | answered requestId =>
      cases advanced
      exact orderedBy_removeRequest each requestId
  | finished =>
      cases advanced

theorem tracker_of_poll
    {polled : Option (List Arrival)} {replenished : Bool}
    (taken : node.poll polled replenished = some next) :
    next.tracker = node.tracker := by
  obtain ⟨_, isNext | ⟨engine, _, _, isNext⟩ | ⟨engine, _, _, isNext⟩⟩ :=
    poll_cases taken <;>
    rw [isNext]

/-- A step moves the requests forward exactly if its section keeps the order. -/
theorem orderedBy_step
    (each : node.tracker.EachRecord fun _ info => info.InOrder)
    {action : NodeAction} (stepped : node.step action = some next) :
    node.tracker.OrderedBy next.tracker (node.KeepsOrder action) := by
  obtain ⟨_, taken⟩ := step_running stepped
  cases action with
  | receive event =>
      cases taken
      exact orderedBy_same each (congrArg _ (push_tracker node event))
  | waitAndPop =>
      obtain ⟨event, rest, _, isNext⟩ := waitAndPop_eq_some taken
      rw [isNext]
      exact orderedBy_same each rfl
  | work index input =>
      obtain ⟨task, found, worked⟩ := Option.bind_eq_some_iff.mp taken
      obtain ⟨⟨advancedNode, reached⟩, advanced, isNext⟩ :=
        Option.map_eq_some_iff.mp worked
      have ordered := orderedBy_advanceTask each advanced
      rw [← isNext]
      simpa only [KeepsOrder, found, Option.mem_some_iff, forall_eq']
        using ordered
  | poll polled replenished =>
      exact orderedBy_same each (congrArg _ (tracker_of_poll taken))
  | advanceLoop input =>
      cases isMarking : node.pollLoop.marking with
      | none =>
          have same := tracker_of_advanceLoop taken isMarking
          simpa [KeepsOrder, isMarking] using
            orderedBy_same each (congrArg requests same)
      | some marking =>
          have isNext := tracker_of_marking taken isMarking
          simp only [KeepsOrder, isMarking, Option.mem_some_iff, forall_eq']
          rw [isNext]
          exact orderedBy_markLayerReceived each _ _

end DecodeNode

/-! ## Runs -/

/-- A run of a node, with the tracker as it was before the last step. -/
structure StateRun where
  node : DecodeNode
  before : RequestTrackerLayer

namespace StateRun

def start
    (orchestratorId : ByteString) (numLayers : UInt32) (capacity : UInt64)
    (engine : RDMAEngine) (layout : RequestTrackerLayer.MemoryLayout) :
    StateRun where
  node := DecodeNode.start orchestratorId numLayers capacity engine layout
  before := { layout := layout }

def step (run : StateRun) (action : NodeAction) : Option StateRun :=
  (run.node.step action).map fun next => ⟨next, run.node.tracker⟩

/-- The last step has moved the requests forward. -/
def MovesForward (run : StateRun) : Prop :=
  run.before.MovesForward run.node.tracker

def KeepsOrder (run : StateRun) (action : NodeAction) : Prop :=
  run.node.KeepsOrder action

instance decidableKeepsOrder (run : StateRun) (action : NodeAction) :
    Decidable (run.KeepsOrder action) :=
  inferInstanceAs (Decidable (run.node.KeepsOrder action))

/-- The requests move forward throughout a run exactly if all of its sections
keep the order of the states. -/
theorem states_move_forward_iff
    (orchestratorId : ByteString) (numLayers : UInt32) (capacity : UInt64)
    (engine : RDMAEngine) (layout : RequestTrackerLayer.MemoryLayout)
    {actions : List NodeAction} {final : StateRun}
    (run :
      LabelledRuns.execute step
          (start orchestratorId numLayers capacity engine layout) actions =
        some final) :
    LabelledRuns.Throughout step MovesForward
        (start orchestratorId numLayers capacity engine layout) actions ↔
      LabelledRuns.Meets step KeepsOrder
        (start orchestratorId numLayers capacity engine layout) actions := by
  let invariant (state : StateRun) : Prop :=
    state.MovesForward ∧
      state.node.tracker.EachRecord fun _ info => info.InOrder
  have atStart :
      invariant (start orchestratorId numLayers capacity engine layout) := by
    have noRecord
        (property : ByteString → RequestTrackerLayer.RequestInfo → Prop) :
        (start orchestratorId numLayers capacity engine
          layout).node.tracker.EachRecord property := by
      intro requestId info found
      cases found
    refine ⟨⟨?_, noRecord _⟩, noRecord _⟩
    intro requestId earlier isEarlier
    cases isEarlier
  have ordered
      (state : StateRun) (action : NodeAction) (next : StateRun)
      (taken : step state action = some next) (holds : invariant state) :
      (next.MovesForward ↔ state.KeepsOrder action) ∧
        (state.KeepsOrder action →
          next.node.tracker.EachRecord fun _ info => info.InOrder) := by
    obtain ⟨node, stepped, isNext⟩ := Option.map_eq_some_iff.mp taken
    rw [← isNext]
    have turn := DecodeNode.orderedBy_step holds.2 stepped
    exact ⟨turn.iff, turn.inOrder⟩
  have preserved
      (state : StateRun) (action : NodeAction) (next : StateRun)
      (taken : step state action = some next)
      (keeps : state.KeepsOrder action) (holds : invariant state) :
      invariant next := by
    obtain ⟨iff, inOrder⟩ := ordered state action next taken holds
    exact ⟨iff.mpr keeps, inOrder keeps⟩
  have complete
      (state : StateRun) (action : NodeAction) (next : StateRun)
      (taken : step state action = some next) (holds : invariant state)
      (moves : next.MovesForward) : state.KeepsOrder action :=
    (ordered state action next taken holds).1.mp moves
  exact
    LabelledRuns.throughout_iff_meets preserved (fun _ holds => holds.1)
      complete run atStart

/-! ## A request of one layer -/

def sampleStart : StateRun :=
  start [0] 1 16 CompletionRun.sampleEngine { numLayers := 1 }

/-- The completion of the layer is polled, looked up and marked. -/
def sampleArrived : List NodeAction :=
  [.poll (some [CompletionRun.sampleArrival true]) true, .advanceLoop {},
    .advanceLoop {}]

/-- The worker updates the state before the layer is marked. -/
def samplePreparedFirst : List NodeAction :=
  CompletionRun.samplePrepared ++ [.work 0 {}] ++ sampleArrived

/-- The layer is marked before the worker updates the state. -/
def sampleMarkedFirst : List NodeAction :=
  CompletionRun.samplePrepared ++ sampleArrived ++ [.work 0 {}]

/-- The state of the request before the last step, and after it. -/
def lastMove (run : StateRun) (requestId : ByteString) :
    Option RequestTrackerLayer.State × Option RequestTrackerLayer.State :=
  ((run.before.getRequest requestId).map RequestTrackerLayer.RequestInfo.state,
    (run.node.tracker.getRequest requestId).map
      RequestTrackerLayer.RequestInfo.state)

theorem states_move_forward_iff_samplePreparedFirst :
    ∃ final,
      LabelledRuns.execute step sampleStart samplePreparedFirst = some final ∧
        final.lastMove [10] = (some .waitingForKv, some .readyForDecode) ∧
        LabelledRuns.Throughout step MovesForward sampleStart
          samplePreparedFirst := by
  have outcome :
      (LabelledRuns.execute step sampleStart samplePreparedFirst).map
          (fun final => final.lastMove [10]) =
        some (some .waitingForKv, some .readyForDecode) := by
    decide +kernel
  obtain ⟨final, run, moved⟩ := Option.map_eq_some_iff.mp outcome
  refine ⟨final, run, moved, ?_⟩
  apply
    (states_move_forward_iff [0] 1 16 CompletionRun.sampleEngine
      { numLayers := 1 } run).mpr
  change LabelledRuns.Meets step KeepsOrder sampleStart samplePreparedFirst
  decide +kernel

/-- A request all of whose layers are marked is left waiting for them. -/
theorem ready_request_moved_back :
    ∃ final,
      LabelledRuns.execute step sampleStart sampleMarkedFirst = some final ∧
        final.lastMove [10] = (some .readyForDecode, some .waitingForKv) ∧
        ¬ final.MovesForward := by
  have outcome :
      (LabelledRuns.execute step sampleStart sampleMarkedFirst).map
          (fun final => final.lastMove [10]) =
        some (some .readyForDecode, some .waitingForKv) := by
    decide +kernel
  obtain ⟨final, run, moved⟩ := Option.map_eq_some_iff.mp outcome
  refine ⟨final, run, moved, ?_⟩
  intro forward
  obtain ⟨isEarlier, isLater⟩ := Prod.mk.inj moved
  obtain ⟨earlier, found, earlierState⟩ := Option.map_eq_some_iff.mp isEarlier
  obtain ⟨later, foundLater, laterState⟩ := Option.map_eq_some_iff.mp isLater
  have rank := forward.forward [10] earlier found later foundLater
  rw [earlierState, laterState] at rank
  exact absurd rank (by decide)

end StateRun

end RdmaKvCache
