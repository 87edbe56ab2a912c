import RdmaKvCache.Cluster.KvTransfer
import RdmaKvCache.Node.RequestFinishes

/-!
# Delivered layers

The writes of a request may complete before the decode node has handled the
message that prepares its slot: nothing orders the two.  The poll loop drops a
completion whose sequence number it does not know, so the layer is never
recorded and the request never completes.

Every completion the loop takes leads to its layer being recorded, through a write
of its own assignment, if the slot has been prepared for that assignment when the
loop looks at the completion, the node reads in the completion what has been
written, polling loses nothing, and no write of another assignment is accepted in
its place.
-/

namespace RdmaKvCache

open RequestTrackerLayer

/-! ## Recorded layers -/

/-- The record of a mark that was accepted for the layer, due to a write of the
assignment. -/
def NodeRecord.accepts
    (requestId : ByteString) (source : ByteString × Nat) (layer : Nat) :
    NodeRecord → Bool
  | .marked credited layerId arrival accepted =>
      accepted && decide (credited = requestId) &&
        decide (layerId.toNat = layer) &&
        decide (arrival.write.map KvWrite.source = some source)
  | _ => false

/-- The writes whose completions the node is through with. -/
def NodeRecord.consumed : NodeRecord → List KvWrite
  | .lost arrivals => arrivals.filterMap Arrival.write
  | .discarded arrival => arrival.write.toList
  | .marked _ _ arrival _ => arrival.write.toList
  | _ => []

def NodeRecord.prepares
    (requestId : ByteString) (slotId : Int32) (source : ByteString × Nat) :
    NodeRecord → Bool
  | .added tracked prefillNodeId slot assignment =>
      decide (tracked = requestId) && decide (slot = slotId) &&
        decide ((prefillNodeId, assignment) = source)
  | _ => false

/-- A write of the assignment has had the layer marked as received for the
request. -/
def Accepted
    (history : List NodeRecord) (requestId : ByteString)
    (source : ByteString × Nat) (layer : Nat) : Prop :=
  ∃ record ∈ history, record.accepts requestId source layer = true

/-- The slot has been prepared for the request and this assignment of it. -/
def Prepared
    (history : List NodeRecord) (requestId : ByteString) (slotId : Int32)
    (source : ByteString × Nat) : Prop :=
  ∃ record ∈ history, record.prepares requestId slotId source = true

instance (history : List NodeRecord) (requestId : ByteString)
    (source : ByteString × Nat) (layer : Nat) :
    Decidable (Accepted history requestId source layer) :=
  inferInstanceAs (Decidable (∃ record ∈ history, _ = true))

instance (history : List NodeRecord) (requestId : ByteString)
    (slotId : Int32) (source : ByteString × Nat) :
    Decidable (Prepared history requestId slotId source) :=
  inferInstanceAs (Decidable (∃ record ∈ history, _ = true))

/-- Every completion the node is through with has led to its layer being
recorded for its request, through a write of its assignment. -/
def LayersRecorded (history : List NodeRecord) : Prop :=
  ∀ record ∈ history, ∀ write ∈ record.consumed,
    Accepted history write.requestId write.source write.layerId

/-- All layers of the request have been recorded for the assignment. -/
def AllAccepted
    (history : List NodeRecord) (numLayers : UInt32)
    (requestId : ByteString) (source : ByteString × Nat) : Prop :=
  ∀ layer < numLayers.toNat, Accepted history requestId source layer

/-- The layer has been recorded for the latest assignment of the request. -/
def AcceptedLast
    (history : List NodeRecord) (requestId : ByteString) (layer : Nat) :
    Prop :=
  ∀ source ∈ recordedSource history requestId,
    Accepted history requestId source layer

variable {history : List NodeRecord} {record : NodeRecord}
variable {requestId : ByteString} {source : ByteString × Nat}

theorem not_prepares_of_not_adds
    {slotId : Int32} (notAdded : record.adds = false) :
    record.prepares requestId slotId source = false := by
  cases record with
  | added _ _ _ _ =>
      cases notAdded
  | removed _ | lost _ | discarded _ | marked _ _ _ _ | pushed _ =>
      rfl

theorem Accepted.cons
    {layer : Nat} (accepted : Accepted history requestId source layer)
    (record : NodeRecord) :
    Accepted (record :: history) requestId source layer := by
  obtain ⟨earlier, member, accepts⟩ := accepted
  exact ⟨earlier, List.mem_cons_of_mem record member, accepts⟩

theorem AllAccepted.cons
    {numLayers : UInt32}
    (accepted : AllAccepted history numLayers requestId source)
    (record : NodeRecord) :
    AllAccepted (record :: history) numLayers requestId source := by
  intro layer bound
  exact (accepted layer bound).cons record

theorem AcceptedLast.cons
    {layer : Nat} (accepted : AcceptedLast history requestId layer)
    (same :
      recordedSource (record :: history) requestId =
        recordedSource history requestId) :
    AcceptedLast (record :: history) requestId layer := by
  intro source isSource
  rw [same] at isSource
  exact (accepted source isSource).cons record

theorem LayersRecorded.cons
    (recorded : LayersRecorded history)
    (consumes :
      ∀ write ∈ record.consumed,
        Accepted (record :: history) write.requestId write.source
          write.layerId) :
    LayersRecorded (record :: history) := by
  intro tested member write isWrite
  rcases List.mem_cons.mp member with rfl | earlier
  · exact consumes write isWrite
  · exact (recorded tested earlier write isWrite).cons record

theorem LayersRecorded.cons_silent
    (recorded : LayersRecorded history) (silent : record.consumed = []) :
    LayersRecorded (record :: history) := by
  refine recorded.cons ?_
  intro write member
  rw [silent] at member
  cases member

theorem Prepared.cons
    {slotId : Int32} (prepared : Prepared history requestId slotId source)
    (record : NodeRecord) :
    Prepared (record :: history) requestId slotId source := by
  obtain ⟨tested, member, prepares⟩ := prepared
  exact ⟨tested, List.mem_cons_of_mem record member, prepares⟩

theorem prepared_cons
    {slotId : Int32}
    (prepared : Prepared (record :: history) requestId slotId source)
    (other : record.prepares requestId slotId source = false) :
    Prepared history requestId slotId source := by
  obtain ⟨tested, member, prepares⟩ := prepared
  rcases List.mem_cons.mp member with rfl | earlier
  · rw [other] at prepares
    cases prepares
  · exact ⟨tested, earlier, prepares⟩

/-! ## One step of the node -/

namespace DecodeNode

/-- The sequence number and the layer id the node reads in the completion are
those of the write. -/
def ReadsAsWritten (node : DecodeNode) (write : KvWrite) : Prop :=
  (write.read node.engine.hostOrder).1 = UInt16.ofInt write.slotId.toInt ∧
    (write.read node.engine.hostOrder).2.toNat = write.layerId

instance (node : DecodeNode) (write : KvWrite) :
    Decidable (node.ReadsAsWritten write) :=
  inferInstanceAs (Decidable (_ ∧ _))

/-- The tracker knows the request with the slot of its latest assignment. -/
def Holds
    (node : DecodeNode) (requestId : ByteString) (slotId : Int32)
    (source : ByteString × Nat) : Prop :=
  node.tracker.slotOf requestId = some slotId ∧
    recordedSource node.history requestId = some source

/-- The layer is marked for the request the write belongs to. -/
def MarksFor
    (node : DecodeNode) (marking : ByteString × UInt16 × Arrival)
    (write : KvWrite) : Prop :=
  marking.1 = write.requestId ∧ marking.2.1.toNat = write.layerId ∧
    ∃ slotId, Prepared node.history write.requestId slotId write.source

/-- The tracker is right about what has been recorded, an assignment only leaves
it with all its layers, and the completion about to be marked is marked for the
request it belongs to. -/
structure Retains (node : DecodeNode) : Prop where
  tracking :
    node.tracker.Tracking node.numLayers.toInt32 (AcceptedLast node.history)
  once : node.FinishesOnce
  prepared :
    ∀ requestId slotId source,
      Prepared node.history requestId slotId source →
        AllAccepted node.history node.numLayers requestId source ∨
          node.Holds requestId slotId source
  marking :
    ∀ marking ∈ node.pollLoop.marking, ∀ write ∈ marking.2.2.write,
      write.layerId < node.numLayers.toNat ∧
        (AllAccepted node.history node.numLayers write.requestId
            write.source ∨
          node.MarksFor marking write)
  recorded : LayersRecorded node.history

/-- A request is prepared once, in a slot that its sequence number can name. -/
def PreparesOnce (node : DecodeNode) (info : RequestInfo) : Prop :=
  node.tracker.slotOf info.requestId = none ∧ info.slotId.toInt < 65536

/-- The slot has been prepared for the assignment the write is posted for, and the
node reads in the completion what has been written. -/
def LooksInTime (node : DecodeNode) (write : KvWrite) : Prop :=
  write.requestId ≠ [] ∧
    Prepared node.history write.requestId write.slotId write.source ∧
    node.ReadsAsWritten write

/-- A mark that is accepted is due to a write of the latest assignment of the
request. -/
def CreditsOwn
    (node : DecodeNode) (marking : ByteString × UInt16 × Arrival) : Prop :=
  node.accepts marking.1 marking.2.1 = true →
    ∃ write ∈ marking.2.2.write,
      recordedSource node.history marking.1 = some write.source

/-- Polling does not lose the completion of a layer that is not recorded. -/
def HandsOn
    (node : DecodeNode) (polled : List Arrival) (replenished : Bool) : Prop :=
  (∀ write ∈ polled.filterMap Arrival.write,
    Accepted node.history write.requestId write.source write.layerId) ∨
    (∀ arrival ∈ polled, arrival.completion.success = true) ∧
      (replenished = true ∨
        ¬RDMAEngine.maxReplenishFailures ≤
          node.engine.recvWrReplenishFailures + 1)

instance (node : DecodeNode) (info : RequestInfo) :
    Decidable (node.PreparesOnce info) :=
  inferInstanceAs (Decidable (_ ∧ _))

instance (node : DecodeNode) (write : KvWrite) :
    Decidable (node.LooksInTime write) :=
  inferInstanceAs (Decidable (_ ≠ _ ∧ _ ∧ _))

instance (node : DecodeNode) (marking : ByteString × UInt16 × Arrival) :
    Decidable (node.CreditsOwn marking) :=
  inferInstanceAs (Decidable (_ → ∃ write ∈ marking.2.2.write, _ = _))

instance (node : DecodeNode) (polled : List Arrival) (replenished : Bool) :
    Decidable (node.HandsOn polled replenished) :=
  inferInstanceAs
    (Decidable
      ((∀ write ∈ polled.filterMap Arrival.write, _) ∨
        (∀ arrival ∈ polled, _ = _) ∧ (_ ∨ ¬_)))

namespace Retains

variable {node next : DecodeNode}

/-- A request without missing layers has them recorded for its latest
assignment. -/
theorem all_of_marksAll
    (retains : node.Retains) {requestId : ByteString}
    {source : ByteString × Nat}
    (marksAll : node.tracker.marksAll requestId = true)
    (isSource : recordedSource node.history requestId = some source) :
    AllAccepted node.history node.numLayers requestId source := by
  obtain ⟨info, known, allMarked⟩ := marksAll_iff.mp marksAll
  have entry := retains.tracking requestId info known
  have layers := toNat_toInt32 entry.numLayers_nonneg
  rw [← entry.numLayers_eq] at layers
  intro layer bound
  have inRange : layer < info.numLayers.toInt.toNat := by
    rwa [layers]
  exact
    entry.records.received layer inRange (allMarked layer inRange) source
      isSource

/-- A step that leaves the tracker and the history as they are. -/
theorem of_same
    (retains : node.Retains) (layers : next.numLayers = node.numLayers)
    (tracker : next.tracker = node.tracker)
    (history : next.history = node.history) (once : next.FinishesOnce)
    (marking :
      ∀ marking ∈ next.pollLoop.marking,
        marking ∈ node.pollLoop.marking) :
    next.Retains := by
  refine ⟨?_, once, ?_, ?_, ?_⟩
  · rw [layers, tracker, history]
    exact retains.tracking
  · unfold Holds
    rw [layers, tracker, history]
    exact retains.prepared
  · unfold MarksFor
    rw [layers, history]
    exact fun tested isMarking => retains.marking tested (marking tested isMarking)
  · rw [history]
    exact retains.recorded

theorem push
    (retains : node.Retains) {event : NodeEvent}
    (notComplete : event.message.type ≠ .kvTransferComplete) :
    (node.push event).Retains := by
  apply
    retains.of_same (push_numLayers node event) (push_tracker node event)
      (push_history node event) (finishesOnce_push retains.once notComplete)
  rw [push_pollLoop]
  exact fun _ isMarking => isMarking

theorem waitAndPop
    (retains : node.Retains) (popped : node.waitAndPop = some next) :
    next.Retains := by
  have once := finishesOnce_waitAndPop retains.once popped
  obtain ⟨event, rest, queue, rfl⟩ := waitAndPop_eq_some popped
  exact retains.of_same rfl rfl rfl once (fun _ isMarking => isMarking)

/-- The history grows by a record of completions whose layers are recorded, or by
another one that has nothing to do with the tracker. -/
theorem of_consumed
    (retains : node.Retains) (record : NodeRecord)
    (notAdded : record.adds = false)
    (layers : next.numLayers = node.numLayers)
    (tracker : next.tracker = node.tracker)
    (history : next.history = record :: node.history)
    (once : next.FinishesOnce)
    (marking :
      ∀ marking ∈ next.pollLoop.marking,
        marking ∈ node.pollLoop.marking)
    (consumes :
      ∀ write ∈ record.consumed,
        Accepted (record :: node.history) write.requestId write.source
          write.layerId) :
    next.Retains := by
  have same := recordedSource_of_not_adds notAdded node.history
  constructor
  · rw [layers, tracker, history]
    exact
      retains.tracking.mono
        (fun requestId _ accepted => accepted.cons (same requestId))
  · exact once
  · rw [layers, history]
    intro requestId slotId source isPrepared
    have before :=
      retains.prepared requestId slotId source
        (prepared_cons isPrepared (not_prepares_of_not_adds notAdded))
    refine before.imp (fun all => all.cons record) ?_
    rintro ⟨holds, isSource⟩
    refine ⟨by rwa [tracker], ?_⟩
    rw [history, same requestId, isSource]
  · rw [layers, history]
    intro tested isMarking write isWrite
    obtain ⟨bound, before⟩ :=
      retains.marking tested (marking tested isMarking) write isWrite
    refine ⟨bound, before.imp (fun all => all.cons record) ?_⟩
    rintro ⟨isRequest, isLayer, slotId, prepared⟩
    refine ⟨isRequest, isLayer, slotId, ?_⟩
    rw [history]
    exact prepared.cons record
  · rw [history]
    exact retains.recorded.cons consumes

/-- What is about to be marked stays so when the history grows. -/
theorem marking_cons
    (retains : node.Retains) {record : NodeRecord}
    (history : next.history = record :: node.history)
    (marking : ByteString × UInt16 × Arrival)
    (isMarking : marking ∈ node.pollLoop.marking) (write : KvWrite)
    (isWrite : write ∈ marking.2.2.write) :
    write.layerId < node.numLayers.toNat ∧
      (AllAccepted next.history node.numLayers write.requestId write.source ∨
        next.MarksFor marking write) := by
  obtain ⟨bound, before⟩ := retains.marking marking isMarking write isWrite
  refine ⟨bound, before.imp ?_ ?_⟩
  · rw [history]
    exact fun all => all.cons record
  · rintro ⟨isRequest, isLayer, slotId, prepared⟩
    refine ⟨isRequest, isLayer, slotId, ?_⟩
    rw [history]
    exact prepared.cons record

/-- A request that is added has its slot.  Any other one prepared before has its own
unless all its layers have been recorded. -/
theorem prepared_of_added
    (retains : node.Retains) {info : RequestInfo} {assignment : Nat}
    {seqNum : UInt16}
    (tracker :
      node.tracker.addRequest info.requestId info.prefillNodeId info.slotId
          node.numLayers.toInt32 = .ok (seqNum, next.tracker))
    (history :
      next.history =
        .added info.requestId info.prefillNodeId info.slotId assignment ::
          node.history)
    (untracked : node.tracker.slotOf info.requestId = none)
    (tested : ByteString) (slotId : Int32) (source : ByteString × Nat)
    (isPrepared : Prepared next.history tested slotId source) :
    AllAccepted next.history node.numLayers tested source ∨
      next.Holds tested slotId source := by
  rw [Holds, slotOf_addRequest tracker, history]
  rw [history] at isPrepared
  obtain ⟨record, member, prepares⟩ := isPrepared
  rcases List.mem_cons.mp member with rfl | earlier
  · simp only [NodeRecord.prepares, Bool.and_eq_true,
      decide_eq_true_eq] at prepares
    obtain ⟨⟨rfl, rfl⟩, isSource⟩ := prepares
    right
    rw [if_pos rfl, recordedSource_added, isSource]
    exact ⟨rfl, rfl⟩
  · rcases retains.prepared tested slotId source ⟨record, earlier, prepares⟩
      with all | ⟨holds, isSource⟩
    · exact Or.inl (all.cons _)
    · have other : tested ≠ info.requestId := by
        intro same
        rw [same, untracked] at holds
        cases holds
      right
      rw [if_neg other, recordedSource_cons]
      · exact ⟨holds, isSource⟩
      · intro added _ _ _ isAdded same
        cases isAdded
        exact other same.symm

theorem of_requestAdded
    (retains : node.Retains) {info : RequestInfo} {assignment : Nat}
    {seqNum : UInt16} (sameLoop : node.SameLoop next)
    (tracker :
      node.tracker.addRequest info.requestId info.prefillNodeId info.slotId
          node.numLayers.toInt32 = .ok (seqNum, next.tracker))
    (history :
      next.history =
        .added info.requestId info.prefillNodeId info.slotId assignment ::
          node.history)
    (prepares : node.PreparesOnce info) (once : next.FinishesOnce) :
    next.Retains := by
  obtain ⟨untracked, small⟩ := prepares
  obtain ⟨_, valid, _⟩ := addRequest_eq_ok tracker
  constructor
  · rw [sameLoop.numLayers_eq]
    apply
      retains.tracking.addRequest tracker
        ⟨Int32.le_iff_toInt_le.mp valid.1, small⟩
    intro tested other layer accepted
    rw [history]
    apply accepted.cons
    apply recordedSource_cons
    intro added _ _ _ isAdded same
    cases isAdded
    exact other same.symm
  · exact once
  · rw [sameLoop.numLayers_eq]
    exact retains.prepared_of_added tracker history untracked
  · rw [sameLoop.numLayers_eq, sameLoop.pollLoop_eq]
    exact retains.marking_cons history
  · rw [history]
    exact retains.recorded.cons_silent rfl

/-- A request is only removed when all its layers have been recorded. -/
theorem prepared_of_removed
    (retains : node.Retains) {requestId : ByteString}
    (tracker : next.tracker = node.tracker.removeRequest requestId)
    (history : next.history = .removed requestId :: node.history)
    (marksAll : node.tracker.marksAll requestId = true)
    (tested : ByteString) (slotId : Int32) (source : ByteString × Nat)
    (isPrepared : Prepared next.history tested slotId source) :
    AllAccepted next.history node.numLayers tested source ∨
      next.Holds tested slotId source := by
  rw [history] at isPrepared
  rw [Holds, tracker, slotOf_removeRequest, history,
    recordedSource_of_not_adds rfl]
  rcases
      retains.prepared tested slotId source (prepared_cons isPrepared rfl) with
    all | ⟨holds, isSource⟩
  · exact Or.inl (all.cons _)
  · by_cases same : tested = requestId
    · rw [same] at isSource ⊢
      exact Or.inl ((retains.all_of_marksAll marksAll isSource).cons _)
    · rw [if_neg same]
      exact Or.inr ⟨holds, isSource⟩

theorem of_requestRemoved
    (retains : node.Retains) {requestId : ByteString}
    (sameLoop : node.SameLoop next)
    (tracker : next.tracker = node.tracker.removeRequest requestId)
    (history : next.history = .removed requestId :: node.history)
    (marksAll : node.tracker.marksAll requestId = true)
    (once : next.FinishesOnce) :
    next.Retains := by
  constructor
  · rw [sameLoop.numLayers_eq, tracker, history]
    apply (retains.tracking.removeRequest requestId).mono
    intro tested layer accepted
    exact accepted.cons (recordedSource_of_not_adds rfl _ tested)
  · exact once
  · rw [sameLoop.numLayers_eq]
    exact retains.prepared_of_removed tracker history marksAll
  · rw [sameLoop.numLayers_eq, sameLoop.pollLoop_eq]
    exact retains.marking_cons history
  · rw [history]
    exact retains.recorded.cons_silent rfl

theorem of_stateUpdated
    (retains : node.Retains) {requestId : ByteString}
    {state : RequestTrackerLayer.State} (sameLoop : node.SameLoop next)
    (tracker : next.tracker = (node.tracker.updateState requestId state).2)
    (history : next.history = node.history) (once : next.FinishesOnce) :
    next.Retains := by
  constructor
  · rw [sameLoop.numLayers_eq, tracker, history]
    exact retains.tracking.updateState requestId state
  · exact once
  · unfold Holds
    rw [sameLoop.numLayers_eq, tracker, history]
    simp only [slotOf_updateState]
    exact retains.prepared
  · unfold MarksFor
    rw [sameLoop.numLayers_eq, sameLoop.pollLoop_eq, history]
    exact retains.marking
  · rw [history]
    exact retains.recorded

theorem work
    (retains : node.Retains) {index : Nat} {input : WorkerInput}
    (taken : node.work index input = some next)
    (prepares :
      ∀ task ∈ node.tasks[index]?, ∀ info ∈ task.preparing,
        node.PreparesOnce info) :
    next.Retains := by
  have once : next.FinishesOnce := by
    apply finishesOnce_work retains.once taken
    intro task isTask info isInfo
    exact (prepares task isTask info isInfo).1
  obtain ⟨task, reached, worked⟩ := work_change taken
  have sameLoop := worked.sameLoop
  cases worked.change with
  | unchanged _ tracker history =>
      apply retains.of_same sameLoop.numLayers_eq tracker history once
      rw [sameLoop.pollLoop_eq]
      exact fun _ isMarking => isMarking
  | stateUpdated _ requestId state tracker history =>
      exact retains.of_stateUpdated sameLoop tracker history once
  | requestAdded info assignment seqNum tracker history =>
      exact
        retains.of_requestAdded sameLoop tracker history
          (prepares _ worked.found info rfl) once
  | requestRemoved requestId tracker history =>
      have handled : WorkerTask.answered requestId ∈ node.tasks :=
        List.mem_of_getElem? worked.found
      exact
        retains.of_requestRemoved sameLoop tracker history
          (marksAll_of_task retains.once handled rfl) once

/-- The loop moves on without taking a completion. -/
theorem of_moved
    (retains : node.Retains) {engine : RDMAEngine} {pollLoop : PollLoop}
    (once :
      ({ node with engine := engine, pollLoop := pollLoop } :
        DecodeNode).FinishesOnce)
    (marking : pollLoop.marking = none) :
    ({ node with engine := engine, pollLoop := pollLoop } :
      DecodeNode).Retains := by
  refine retains.of_same rfl rfl rfl once ?_
  simp only [marking]
  intro tested isMarking
  cases isMarking

theorem poll
    (retains : node.Retains) {polled : Option (List Arrival)}
    {replenished : Bool}
    (taken : node.poll polled replenished = some next)
    (handsOn : node.HandsOn (polled.getD []) replenished) :
    next.Retains := by
  have once := finishesOnce_poll retains.once taken
  obtain ⟨isPolling, rfl | ⟨engine, _, dropped, rfl⟩ | ⟨engine, _, _, rfl⟩⟩ :=
    poll_cases taken
  · exact retains.of_moved once rfl
  · have recorded :
        ∀ write ∈ (polled.getD []).filterMap Arrival.write,
          Accepted node.history write.requestId write.source
            write.layerId := by
      rcases handsOn with accepted | ⟨successful, posts⟩
      · exact accepted
      · cases polled with
        | none =>
            intro write member
            cases member
        | some arrivals =>
            exfalso
            rcases RDMAEngine.pollRecvCq_dropped dropped with
              ⟨completion, member, failed⟩ | ⟨notReplenished, tooOften⟩
            · obtain ⟨arrival, isPolled, rfl⟩ := List.mem_map.mp member
              rw [successful arrival isPolled] at failed
              cases failed
            · rcases posts with isReplenished | notTooOften
              · rw [isReplenished] at notReplenished
                cases notReplenished
              · exact notTooOften tooOften
    refine
      retains.of_consumed (.lost (polled.getD [])) rfl rfl rfl rfl once
        (fun _ isMarking => isMarking) ?_
    intro write member
    exact (recorded write member).cons _
  · exact retains.of_moved once rfl

/-- A request that still misses layers is resolved and marked itself. -/
theorem resolve
    (retains : node.Retains) {arrival : Arrival} {rest : List Arrival}
    (once : (node.resolve arrival rest).FinishesOnce)
    (genuine : arrival.Genuine node.numLayers.toNat)
    (inTime : ∀ write ∈ arrival.write, node.LooksInTime write) :
    (node.resolve arrival rest).Retains := by
  obtain ⟨write, qpNum, byteLen, bound, isGenuine⟩ := genuine
  subst isGenuine
  obtain ⟨named, prepared, isSeq, isLayer⟩ := inTime write rfl
  have isRead :
      decodeLayerId
          ((write.completion qpNum byteLen).immData node.engine.hostOrder) =
        write.read node.engine.hostOrder :=
    write.read_completion node.engine.hostOrder qpNum byteLen
  have complete :
      AllAccepted node.history node.numLayers write.requestId write.source ∨
        node.tracker.resolveSeqNum (write.read node.engine.hostOrder).1 =
          write.requestId := by
    rcases retains.prepared write.requestId write.slotId write.source prepared
      with all | ⟨holds, _⟩
    · exact Or.inl all
    · obtain ⟨info, known, isSlot⟩ := Option.map_eq_some_iff.mp holds
      have entry := retains.tracking write.requestId info known
      have resolves := entry.resolves
      rw [entry.seqNum_eq, isSlot, ← isSeq] at resolves
      right
      rw [resolveSeqNum, resolves, Option.getD_some]
  rw [DecodeNode.resolve] at once ⊢
  simp only [isRead] at once ⊢
  split
  · rename_i unknown
    rw [if_pos unknown] at once
    have all :
        AllAccepted node.history node.numLayers write.requestId
          write.source := by
      rcases complete with all | resolved
      · exact all
      · rw [resolved] at unknown
        exact absurd unknown named
    refine
      retains.of_consumed
        (.discarded ⟨write.completion qpNum byteLen, some write⟩)
        rfl rfl rfl rfl once ?_ ?_
    · intro tested isMarking
      cases isMarking
    · intro other member
      cases List.mem_singleton.mp member
      exact (all write.layerId bound).cons _
  · rename_i known
    rw [if_neg known] at once
    refine
      ⟨retains.tracking, once, retains.prepared, ?_, retains.recorded⟩
    intro marking isMarking other isWrite
    cases isMarking
    cases isWrite
    refine ⟨bound, complete.imp_right ?_⟩
    intro resolved
    exact ⟨resolved, isLayer, write.slotId, prepared⟩

/-- A layer that is not accepted has been accepted before. -/
theorem accepted_of_mark
    (retains : node.Retains) {requestId : ByteString} {layerId : UInt16}
    {slotId : Int32} {arrival : Arrival} {write : KvWrite}
    (prepared : Prepared node.history requestId slotId write.source)
    (bound : layerId.toNat < node.numLayers.toNat)
    (isWrite : arrival.write = some write) :
    Accepted
      (.marked requestId layerId arrival (node.accepts requestId layerId) ::
        node.history)
      requestId write.source layerId.toNat := by
  rcases retains.prepared requestId slotId write.source prepared with
    all | ⟨holds, isSource⟩
  · exact (all layerId.toNat bound).cons _
  · obtain ⟨info, known, _⟩ := Option.map_eq_some_iff.mp holds
    have entry := retains.tracking requestId info known
    cases receives : info.receiveLayer (Int32.ofNat layerId.toNat) with
    | none =>
        have inRange :
            0 ≤ Int32.ofNat layerId.toNat ∧
              Int32.ofNat layerId.toNat < info.numLayers := by
          rw [Int32.le_iff_toInt_le, Int32.lt_iff_toInt_lt, toInt_layerId,
            entry.numLayers_eq]
          have layers := toNat_toInt32 entry.numLayers_nonneg
          have nonneg := entry.numLayers_nonneg
          simp only [Int32.toInt_zero]
          omega
        have accepted :=
          entry.records.accepted_of_refused inRange receives
        rw [toInt_layerId] at accepted
        exact (accepted write.source isSource).cons _
    | some received =>
        refine ⟨_, List.mem_cons_self, ?_⟩
        simp [NodeRecord.accepts, DecodeNode.accepts, known, receives, isWrite]

/-- A layer that is accepted is so through a write of the latest assignment. -/
theorem acceptedLast_of_mark
    {requestId : ByteString} {layerId : UInt16} {arrival : Arrival}
    {info received : RequestTrackerLayer.RequestInfo}
    (creditsOwn : node.CreditsOwn (requestId, layerId, arrival))
    (known : node.tracker.requests.lookup requestId = some info)
    (receives :
      info.receiveLayer (Int32.ofNat layerId.toNat) = some received) :
    AcceptedLast
      (.marked requestId layerId arrival (node.accepts requestId layerId) ::
        node.history)
      requestId (Int32.ofNat layerId.toNat).toInt.toNat := by
  intro source isSource
  have accepts : node.accepts requestId layerId = true := by
    simp [DecodeNode.accepts, known, receives]
  obtain ⟨write, isWrite, isOwn⟩ := creditsOwn accepts
  rw [recordedSource_of_not_adds rfl, isOwn] at isSource
  cases isSource
  have due : arrival.write = some write := isWrite
  refine ⟨_, List.mem_cons_self, ?_⟩
  rw [toInt_layerId]
  simp [NodeRecord.accepts, accepts, due]

theorem mark
    (retains : node.Retains) {requestId : ByteString} {layerId : UInt16}
    {arrival : Arrival} {rest : List Arrival}
    (isResolved :
      node.pollLoop = .resolved requestId layerId arrival rest)
    (once : (node.mark requestId layerId arrival rest).FinishesOnce)
    (creditsOwn : node.CreditsOwn (requestId, layerId, arrival)) :
    (node.mark requestId layerId arrival rest).Retains := by
  have same (tested : ByteString) :
      recordedSource
          (.marked requestId layerId arrival
              (node.accepts requestId layerId) ::
            node.history)
          tested =
        recordedSource node.history tested :=
    recordedSource_of_not_adds rfl _ tested
  have tracking :
      node.tracker.Tracking node.numLayers.toInt32
        (AcceptedLast
          (.marked requestId layerId arrival
              (node.accepts requestId layerId) ::
            node.history)) :=
    retains.tracking.mono (fun tested _ accepted => accepted.cons (same tested))
  rw [DecodeNode.mark] at once ⊢
  simp only at once ⊢
  constructor
  · exact
      tracking.markLayerReceived
        (fun _ _ known receives =>
          acceptedLast_of_mark creditsOwn known receives)
  · exact once
  · intro tested slotId source isPrepared
    have before :=
      retains.prepared tested slotId source (prepared_cons isPrepared rfl)
    refine before.imp (fun all => all.cons _) ?_
    rintro ⟨holds, isSource⟩
    refine ⟨?_, (same tested).trans isSource⟩
    rw [slotOf_markLayerReceived]
    exact holds
  · intro marking isMarking
    simp only at isMarking
    split at isMarking <;>
      cases isMarking
  · refine retains.recorded.cons ?_
    intro write isWrite
    obtain ⟨bound, before⟩ :=
      retains.marking (requestId, layerId, arrival)
        (by rw [isResolved]; rfl) write (Option.mem_toList.mp isWrite)
    rcases before with all | ⟨isRequest, isLayer, slotId, prepared⟩
    · exact (all write.layerId bound).cons _
    · simp only at isRequest isLayer
      rw [← isRequest] at prepared ⊢
      rw [← isLayer] at bound ⊢
      exact
        retains.accepted_of_mark prepared bound (Option.mem_toList.mp isWrite)

theorem announce
    (retains : node.Retains) {requestId : ByteString} {maxTokens : Int32}
    {memory : Message} {rest : List Arrival}
    (once : (node.announce requestId maxTokens memory rest).FinishesOnce) :
    (node.announce requestId maxTokens memory rest).Retains := by
  refine
    retains.of_consumed (.pushed requestId) rfl
      (push_numLayers _ _) (push_tracker _ _) rfl once ?_ ?_
  · intro tested isMarking
    cases isMarking
  · intro write member
    cases member

theorem advanceLoop
    (retains : node.Retains) {input : LoopInput}
    (taken : node.advanceLoop input = some next)
    (batch :
      ∀ arrival ∈ node.pollLoop.rest,
        arrival.Genuine node.numLayers.toNat)
    (inTime :
      ∀ arrival ∈ node.pollLoop.looking, ∀ write ∈ arrival.write,
        node.LooksInTime write)
    (creditsOwn :
      ∀ marking ∈ node.pollLoop.marking, node.CreditsOwn marking) :
    next.Retains := by
  have once : next.FinishesOnce := by
    apply finishesOnce_advanceLoop retains.once taken
    intro requestId info known
    exact (retains.tracking requestId info known).records
  cases loopSection_of_advanceLoop taken with
  | batchDone | fenceSucceeds | fenceFails | looksUp =>
      exact retains.of_moved once rfl
  | @resolves arrival rest isLoop =>
      refine retains.resolve once (batch arrival ?_) (inTime arrival ?_)
      · rw [isLoop]
        exact List.mem_cons_self
      · rw [isLoop]
        rfl
  | marks isLoop =>
      exact retains.mark isLoop once (creditsOwn _ (by rw [isLoop]; rfl))
  | announces isLoop =>
      exact retains.announce once

end Retains

end DecodeNode

/-! ## Runs -/

namespace KvTransfer

/-- Requests are prepared once, polling hands every completion on, the slot has
been prepared for the assignment when one of its completions is looked at, and no
other completion is accepted for it. -/
def DeliversInTime (transfer : KvTransfer) : TransferAction → Prop
  | .work index _ =>
      ∀ task ∈ transfer.node.tasks[index]?, ∀ info ∈ task.preparing,
        transfer.node.PreparesOnce info
  | .poll count replenished =>
      transfer.node.HandsOn ((transfer.polled count).getD []) replenished
  | .advanceLoop _ =>
      (∀ arrival ∈ transfer.node.pollLoop.looking, ∀ write ∈ arrival.write,
          transfer.node.LooksInTime write) ∧
        ∀ marking ∈ transfer.node.pollLoop.marking,
          transfer.node.CreditsOwn marking
  | _ => True

instance (transfer : KvTransfer) :
    ∀ action, Decidable (transfer.DeliversInTime action)
  | .work index _ =>
      inferInstanceAs
        (Decidable
          (∀ task ∈ transfer.node.tasks[index]?, ∀ info ∈ task.preparing,
            transfer.node.PreparesOnce info))
  | .poll count replenished =>
      inferInstanceAs
        (Decidable
          (transfer.node.HandsOn ((transfer.polled count).getD [])
            replenished))
  | .advanceLoop _ =>
      inferInstanceAs
        (Decidable
          ((∀ arrival ∈ transfer.node.pollLoop.looking,
              ∀ write ∈ arrival.write, transfer.node.LooksInTime write) ∧
            ∀ marking ∈ transfer.node.pollLoop.marking,
              transfer.node.CreditsOwn marking))
  | .sendPrepare _ => .isTrue trivial
  | .assign _ => .isTrue trivial
  | .post _ => .isTrue trivial
  | .deliver _ _ _ => .isTrue trivial
  | .flush _ => .isTrue trivial
  | .receivePrepare => .isTrue trivial
  | .receiveOther _ => .isTrue trivial
  | .waitAndPop => .isTrue trivial

/-- Only the poll loop makes messages that announce a complete transfer. -/
structure Delivers (transfer : KvTransfer) : Prop where
  authentic : transfer.Authentic
  link :
    ∀ event ∈ transfer.link, event.message.type = .prepareDecodeSlot
  retains : transfer.node.Retains

theorem delivers_start
    (orchestratorId : ByteString) (numLayers : UInt32) (capacity : UInt64)
    (engine : RDMAEngine) (layout : MemoryLayout) :
    (start
      (.start orchestratorId numLayers capacity engine layout)).Delivers where
  authentic := authentic_start _ rfl
  link := by
    intro event member
    cases member
  retains :=
    { tracking := by
        intro requestId info known
        cases known
      once := by
        intro requestId
        exact Nat.zero_le _
      prepared := by
        rintro requestId slotId source ⟨record, member, _⟩
        cases member
      marking := by
        intro marking isMarking
        cases isMarking
      recorded := by
        intro record member
        cases member }

theorem delivers_step
    (transfer : KvTransfer) (action : TransferAction) (next : KvTransfer)
    (taken : transfer.step action = some next)
    (inTime : transfer.DeliversInTime action)
    (invariant : transfer.Delivers) : next.Delivers := by
  have authentic := invariant.authentic.step taken
  obtain ⟨before, link, retains⟩ := invariant
  rcases step_cases taken with outside | inside
  · cases outside with
    | prepared event isPrepare =>
        refine ⟨authentic, ?_, retains⟩
        intro tested member
        rcases List.mem_append.mp member with earlier | last
        · exact link tested earlier
        · rw [List.mem_singleton.mp last]
          exact isPrepare
    | assigned | posted | delivered | flushed =>
        exact ⟨authentic, link, retains⟩
  · cases inside with
    | received event rest queued =>
        rcases queued with isFirst | ⟨isRest, _, notComplete⟩
        · rw [isFirst] at link
          refine
            ⟨authentic,
              fun tested member =>
                link tested (List.mem_cons_of_mem event member),
              retains.push ?_⟩
          intro isComplete
          rw [link event List.mem_cons_self] at isComplete
          cases isComplete
        · rw [isRest] at link
          exact
            ⟨authentic, link,
              retains.push notComplete⟩
    | popped node changed =>
        exact ⟨authentic, link, retains.waitAndPop changed⟩
    | worked index input node changed =>
        exact ⟨authentic, link, retains.work changed inTime⟩
    | polled count replenished node changed =>
        exact ⟨authentic, link, retains.poll changed inTime⟩
    | advanced input node changed =>
        exact
          ⟨authentic, link,
            retains.advanceLoop changed before.batch inTime.1 inTime.2⟩

/-- Every completion the poll loop has taken has led to its layer being recorded
for the request and the assignment it belongs to. -/
def LayersDelivered (transfer : KvTransfer) : Prop :=
  LayersRecorded transfer.node.history

end KvTransfer

open KvTransfer in
/-- In a run in which the slot has been prepared for an assignment whenever one of
its completions is looked at, and no other completion is accepted for it, no layer
is lost. -/
theorem layers_delivered
    (orchestratorId : ByteString) (numLayers : UInt32) (capacity : UInt64)
    (engine : RDMAEngine) (layout : MemoryLayout)
    {actions : List TransferAction}
    (inTime :
      LabelledRuns.Meets step DeliversInTime
        (start (.start orchestratorId numLayers capacity engine layout))
        actions) :
    LabelledRuns.Throughout step LayersDelivered
      (start (.start orchestratorId numLayers capacity engine layout))
      actions :=
  LabelledRuns.throughout_of_meets delivers_step
    (fun _ invariant => invariant.retains.recorded) inTime
    (delivers_start _ _ _ _ _)

namespace KvTransfer

/-- The keys of the only layer arrive while the message that prepares the slot
is under way. -/
def keysOvertake (index : Nat) : List TransferAction :=
  [.sendPrepare (samplePrepare [10]), .assign 0, .post index,
      .deliver [2] 6 64] ++
    samplePolled 1

/-- The slot is prepared before the keys of the only layer arrive. -/
def keysFollow (index task : Nat) : List TransferAction :=
  samplePrepared [10] task ++ [.post index, .deliver [2] 6 64]

/-- The first transfer of the request is announced and the request is finished. -/
def firstFinished : List TransferAction :=
  keysFollow 0 0 ++ samplePolled 6 ++ sampleFinished 1

/-- The slot prepared for the first transfer is not prepared for the second. -/
example :
    ¬LabelledRuns.Meets step DeliversInTime (sampleStart 1)
      (firstFinished ++ keysOvertake 1) := by
  decide +kernel

theorem early_keys_are_discarded :
    ∃ final,
      LabelledRuns.execute step (sampleStart 1) (keysOvertake 0) =
          some final ∧
        final.link = [⟨samplePrepare [10], 0⟩] ∧
        final.node.history =
          [.discarded
            ⟨KvWrite.completion ⟨[10], 0, [2], 0, 0, .key⟩ 6 64,
              some ⟨[10], 0, [2], 0, 0, .key⟩⟩] ∧
        ¬final.LayersDelivered := by
  have outcome :
      (LabelledRuns.execute step (sampleStart 1) (keysOvertake 0)).map
          (fun final => (final.link, final.node.history)) =
        some
          ([⟨samplePrepare [10], 0⟩],
            [.discarded
              ⟨KvWrite.completion ⟨[10], 0, [2], 0, 0, .key⟩ 6 64,
                some ⟨[10], 0, [2], 0, 0, .key⟩⟩]) := by
    decide +kernel
  obtain ⟨final, run, observed⟩ := Option.map_eq_some_iff.mp outcome
  simp only [Prod.mk.injEq] at observed
  obtain ⟨link, history⟩ := observed
  refine ⟨final, run, link, history, ?_⟩
  intro delivered
  rw [LayersDelivered, history] at delivered
  have accepted :=
    delivered _ List.mem_cons_self _ List.mem_cons_self
  revert accepted
  decide

/-- The keys of both transfers of a request are recorded. -/
theorem keys_are_recorded :
    (∃ final,
      LabelledRuns.execute step (sampleStart 1)
          (firstFinished ++ keysFollow 1 2 ++ samplePolled 2) = some final ∧
        Accepted final.node.history [10] ([2], 0) 0 ∧
        Accepted final.node.history [10] ([2], 1) 0) ∧
      LabelledRuns.Throughout step LayersDelivered (sampleStart 1)
        (firstFinished ++ keysFollow 1 2 ++ samplePolled 2) := by
  have outcome :
      (LabelledRuns.execute step (sampleStart 1)
          (firstFinished ++ keysFollow 1 2 ++ samplePolled 2)).map
          (fun final =>
            decide
              (Accepted final.node.history [10] ([2], 0) 0 ∧
                Accepted final.node.history [10] ([2], 1) 0)) =
        some true := by
    decide +kernel
  obtain ⟨final, run, accepted⟩ := Option.map_eq_some_iff.mp outcome
  exact
    ⟨⟨final, run, of_decide_eq_true accepted⟩,
      layers_delivered _ _ _ _ _ (by decide +kernel)⟩

end KvTransfer

end RdmaKvCache
