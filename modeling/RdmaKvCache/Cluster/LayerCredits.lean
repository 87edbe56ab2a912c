import RdmaKvCache.Cluster.KvTransfer
import RdmaKvCache.Library.Histories

/-!
# Credited layers

The sequence number of a write is the slot of its request, so it stands for one
request after another, and which one it is taken for is decided when its
completion is looked at.  A completion that is late, or one that is read in
another byte order, is credited to whatever request its sequence number stands
for at that time, whichever queue pair it came from.

Every layer is credited to the request whose write has caused it if no sequence
number is given to a request while writes of others are outstanding under it.
The same request assigned once more counts as another one: what has been posted
for its first assignment is not its second transfer.
-/

namespace RdmaKvCache

open Histories RequestTrackerLayer

/-- Every mark is due to a write for that layer which the prefill node of the
request has posted for its assignment, as both are recorded last. -/
def WellCredited (history : List NodeRecord) : Prop :=
  Justified
    (fun older record =>
      ∀ requestId layerId arrival accepted,
        record = .marked requestId layerId arrival accepted →
          ∃ write,
            arrival.write = some write ∧ write.requestId = requestId ∧
              write.layerId = layerId.toNat ∧
              recordedSource older requestId = some write.source)
    history

theorem WellCredited.cons
    {history : List NodeRecord} (wellCredited : WellCredited history)
    {record : NodeRecord}
    (credits :
      ∀ requestId layerId arrival accepted,
        record = .marked requestId layerId arrival accepted →
          ∃ write,
            arrival.write = some write ∧ write.requestId = requestId ∧
              write.layerId = layerId.toNat ∧
              recordedSource history requestId = some write.source) :
    WellCredited (record :: history) :=
  justified_cons.mpr ⟨credits, wellCredited⟩

/-! ## Outstanding writes -/

namespace DecodeNode

/-- The sequence number and the layer id the node reads in a write. -/
def reads (node : DecodeNode) (write : KvWrite) : UInt16 × UInt16 :=
  write.read node.engine.hostOrder

/-- The write may mark the layer it is read as for the request. -/
def Credits
    (node : DecodeNode) (write : KvWrite) (requestId : ByteString) : Prop :=
  write.requestId = requestId ∧
    write.layerId = (node.reads write).2.toNat ∧
    recordedSource node.history requestId = some write.source

/-- The writes whose completions the node will still look at, of which
`pending` have not been polled. -/
def outstanding (node : DecodeNode) (pending : List KvWrite) : List KvWrite :=
  pending ++ node.pollLoop.rest.filterMap Arrival.write

/-- Every outstanding write and the arrival about to be marked may be credited
to the request they stand for. -/
structure Attributes (node : DecodeNode) (pending : List KvWrite) : Prop where
  outstanding :
    ∀ write ∈ node.outstanding pending, ∀ requestId,
      requestId ≠ [] →
        node.tracker.seqToRequest.lookup (node.reads write).1 =
          some requestId →
            node.Credits write requestId
  marking :
    ∀ marking ∈ node.pollLoop.marking,
      ∃ write,
        marking.2.2.write = some write ∧
          marking.2.1 = (node.reads write).2 ∧
          node.Credits write marking.1
  wellCredited : WellCredited node.history

/-- The outstanding writes under the sequence number of a new request, or of a
request with its name, are those of its assignment. -/
def AddsInTime
    (node : DecodeNode) (pending : List KvWrite) (info : RequestInfo)
    (assignment : Nat) : Prop :=
  (∀ write ∈ node.outstanding pending,
    (node.reads write).1 = UInt16.ofInt info.slotId.toInt ∨
        node.tracker.seqToRequest.lookup (node.reads write).1 =
          some info.requestId →
      write.requestId = info.requestId ∧
        write.layerId = (node.reads write).2.toNat ∧
        write.source = (info.prefillNodeId, assignment)) ∧
    ∀ marking ∈ node.pollLoop.marking, marking.1 = info.requestId →
      ∀ write ∈ marking.2.2.write,
        write.source = (info.prefillNodeId, assignment)

instance (node : DecodeNode) (write : KvWrite) (requestId : ByteString) :
    Decidable (node.Credits write requestId) :=
  inferInstanceAs (Decidable (_ ∧ _ ∧ _))

instance (node : DecodeNode) (pending : List KvWrite) (info : RequestInfo)
    (assignment : Nat) :
    Decidable (node.AddsInTime pending info assignment) :=
  inferInstanceAs
    (Decidable
      ((∀ write ∈ node.outstanding pending, _ ∨ _ → _ ∧ _ ∧ _) ∧
        ∀ marking ∈ node.pollLoop.marking, _ →
          ∀ write ∈ marking.2.2.write, _ = _))

namespace Attributes

variable {node next : DecodeNode} {pending later : List KvWrite}

/-- Nothing is outstanding, or stands for a request, that has not before. -/
theorem mono
    (attributes : node.Attributes pending)
    (hostOrder : next.engine.hostOrder = node.engine.hostOrder)
    (resolves :
      ∀ seqNum requestId,
        next.tracker.seqToRequest.lookup seqNum = some requestId →
          node.tracker.seqToRequest.lookup seqNum = some requestId)
    (recorded :
      ∀ requestId,
        recordedSource next.history requestId =
          recordedSource node.history requestId)
    (wellCredited : WellCredited next.history)
    (marking :
      ∀ marking ∈ next.pollLoop.marking,
        ∃ write,
          marking.2.2.write = some write ∧
            marking.2.1 = (node.reads write).2 ∧
            node.Credits write marking.1)
    (outstanding :
      ∀ write ∈ next.outstanding later, write ∈ node.outstanding pending) :
    next.Attributes later := by
  have sameReads (write : KvWrite) : next.reads write = node.reads write := by
    unfold reads
    rw [hostOrder]
  have credits {write : KvWrite} {requestId : ByteString}
      (before : node.Credits write requestId) :
      next.Credits write requestId := by
    unfold Credits
    rw [sameReads, recorded]
    exact before
  refine ⟨?_, ?_, wellCredited⟩
  · intro write member requestId named known
    rw [sameReads] at known
    exact
      credits
        (attributes.outstanding write (outstanding write member) requestId
          named (resolves _ _ known))
  · intro tested isMarking
    obtain ⟨write, isWrite, isLayer, before⟩ := marking tested isMarking
    refine ⟨write, isWrite, ?_, credits before⟩
    rw [isLayer, sameReads]

theorem of_requestAdded
    (attributes : node.Attributes pending) {info : RequestInfo}
    {assignment : Nat} {seqNum : UInt16} (sameLoop : node.SameLoop next)
    (tracker :
      node.tracker.addRequest info.requestId info.prefillNodeId info.slotId
          node.numLayers.toInt32 = .ok (seqNum, next.tracker))
    (history :
      next.history =
        .added info.requestId info.prefillNodeId info.slotId assignment ::
          node.history)
    (inTime : node.AddsInTime pending info assignment) :
    next.Attributes pending := by
  obtain ⟨isSeq, _, _, _, added⟩ := addRequest_eq_ok tracker
  have sameReads (write : KvWrite) : next.reads write = node.reads write := by
    unfold reads
    rw [sameLoop.engine_eq]
  have creditsOwn {write : KvWrite}
      (isRequest : write.requestId = info.requestId)
      (isLayer : write.layerId = (node.reads write).2.toNat)
      (isSource : write.source = (info.prefillNodeId, assignment)) :
      next.Credits write info.requestId := by
    refine ⟨isRequest, by rw [sameReads, isLayer], ?_⟩
    rw [history, recordedSource_added, isSource]
  have creditsOther {write : KvWrite} {requestId : ByteString}
      (other : requestId ≠ info.requestId)
      (credits : node.Credits write requestId) :
      next.Credits write requestId := by
    refine ⟨credits.1, by rw [sameReads, credits.2.1], ?_⟩
    rw [history, recordedSource_cons, credits.2.2]
    intro added _ _ _ isAdded same
    cases isAdded
    exact other same.symm
  constructor
  · unfold DecodeNode.outstanding
    rw [sameLoop.pollLoop_eq]
    intro write member requestId named known
    rw [sameReads, added] at known
    by_cases own : requestId = info.requestId
    · subst own
      obtain ⟨isRequest, isLayer, isSource⟩ := inTime.1 write member (by
        by_cases newSeq : (node.reads write).1 = seqNum
        · exact Or.inl (newSeq.trans isSeq)
        · rw [AList.lookup_insert_ne newSeq] at known
          exact Or.inr known)
      exact creditsOwn isRequest isLayer isSource
    · have before :
          node.tracker.seqToRequest.lookup (node.reads write).1 =
            some requestId := by
        by_cases newSeq : (node.reads write).1 = seqNum
        · rw [newSeq, AList.lookup_insert] at known
          exact absurd (Option.some.inj known).symm own
        · rwa [AList.lookup_insert_ne newSeq] at known
      exact
        creditsOther own
          (attributes.outstanding write member requestId named before)
  · rw [sameLoop.pollLoop_eq]
    intro marking isMarking
    obtain ⟨write, isWrite, isLayer, credits⟩ :=
      attributes.marking marking isMarking
    refine ⟨write, isWrite, by rw [isLayer, sameReads], ?_⟩
    by_cases own : marking.1 = info.requestId
    · rw [own]
      exact
        creditsOwn (credits.1.trans own) credits.2.1
          (inTime.2 marking isMarking own write isWrite)
    · exact creditsOther own credits
  · rw [history]
    exact attributes.wellCredited.cons (by simp)

theorem work
    (attributes : node.Attributes pending) {index : Nat} {input : WorkerInput}
    (worked : node.work index input = some next)
    (inTime :
      ∀ task ∈ node.tasks[index]?, ∀ assigned ∈ task.assigned,
        node.AddsInTime pending assigned.1 assigned.2) :
    next.Attributes pending := by
  obtain ⟨task, reached, worked⟩ := work_change worked
  have kept {records : List NodeRecord}
      (resolves :
        ∀ seqNum requestId,
          next.tracker.seqToRequest.lookup seqNum = some requestId →
            node.tracker.seqToRequest.lookup seqNum = some requestId)
      (history : next.history = records)
      (recorded :
        ∀ requestId,
          recordedSource records requestId =
            recordedSource node.history requestId)
      (wellCredited : WellCredited records) : next.Attributes pending := by
    subst history
    apply attributes.mono (congrArg _ worked.sameLoop.engine_eq) resolves
      recorded wellCredited
    · rw [worked.sameLoop.pollLoop_eq]
      exact attributes.marking
    · unfold DecodeNode.outstanding
      rw [worked.sameLoop.pollLoop_eq]
      exact fun _ member => member
  cases worked.change with
  | unchanged _ tracker history =>
      refine kept ?_ history (fun _ => rfl) attributes.wellCredited
      rw [tracker]
      exact fun _ _ resolves => resolves
  | stateUpdated _ requestId state tracker history =>
      refine kept ?_ history (fun _ => rfl) attributes.wellCredited
      rw [tracker, updateState_seqToRequest]
      exact fun _ _ resolves => resolves
  | requestAdded info assignment seqNum tracker history =>
      exact
        attributes.of_requestAdded worked.sameLoop tracker history
          (inTime _ worked.found (info, assignment) rfl)
  | requestRemoved requestId tracker history =>
      refine
        kept ?_ history (fun tested => recordedSource_cons _ tested (by simp))
          (attributes.wellCredited.cons (by simp))
      rw [tracker]
      exact fun _ _ => seqToRequest_of_removeRequest

theorem poll
    (attributes : node.Attributes pending) {polled : Option (List Arrival)}
    {replenished : Bool}
    (taken : node.poll polled replenished = some next)
    (remaining : ∀ write ∈ later, write ∈ pending)
    (batch :
      ∀ write ∈ (polled.getD []).filterMap Arrival.write, write ∈ pending) :
    next.Attributes later := by
  obtain ⟨isPolling, change⟩ := poll_cases taken
  rcases change with rfl | ⟨engine, hostOrder, _, rfl⟩ |
    ⟨engine, hostOrder, _, rfl⟩
  · refine
      attributes.mono rfl (fun _ _ resolves => resolves) (fun _ => rfl)
        attributes.wellCredited ?_ ?_
    · intro marking isMarking
      cases isMarking
    · intro write member
      rcases List.mem_append.mp member with isRemaining | inBatch
      · exact List.mem_append_left _ (remaining write isRemaining)
      · cases inBatch
  · refine
      attributes.mono hostOrder (fun _ _ resolves => resolves)
        (fun requestId => recordedSource_cons _ requestId (by simp))
        (attributes.wellCredited.cons (by simp)) attributes.marking ?_
    intro write member
    rcases List.mem_append.mp member with isRemaining | inBatch
    · exact List.mem_append_left _ (remaining write isRemaining)
    · exact List.mem_append_right _ inBatch
  · refine
      attributes.mono hostOrder (fun _ _ resolves => resolves)
        (fun _ => rfl) attributes.wellCredited ?_ ?_
    · intro marking isMarking
      cases isMarking
    · intro write member
      rcases List.mem_append.mp member with isRemaining | inBatch
      · exact List.mem_append_left _ (remaining write isRemaining)
      · exact List.mem_append_left _ (batch write inBatch)

/-- The loop goes on with no arrival to mark. -/
theorem of_unmarking
    (attributes : node.Attributes pending)
    (engine : next.engine = node.engine)
    (resolves : next.tracker.seqToRequest = node.tracker.seqToRequest)
    (recorded :
      ∀ requestId,
        recordedSource next.history requestId =
          recordedSource node.history requestId)
    (wellCredited : WellCredited next.history)
    (rest :
      ∀ arrival ∈ next.pollLoop.rest, arrival ∈ node.pollLoop.rest)
    (unmarking : next.pollLoop.marking = none) :
    next.Attributes pending := by
  refine
    attributes.mono (congrArg _ engine) ?_ recorded wellCredited ?_ ?_
  · rw [resolves]
    exact fun _ _ known => known
  · rw [unmarking]
    intro marking isMarking
    cases isMarking
  · intro write member
    rcases List.mem_append.mp member with isPending | inBatch
    · exact List.mem_append_left _ isPending
    · obtain ⟨arrival, isNext, isWrite⟩ := List.mem_filterMap.mp inBatch
      exact
        List.mem_append_right _
          (List.mem_filterMap.mpr ⟨arrival, rest arrival isNext, isWrite⟩)

/-- What a sequence number stands for is credited as it should be. -/
theorem resolve
    (attributes : node.Attributes pending) {arrival : Arrival}
    {rest : List Arrival}
    (isProcessing : node.pollLoop = .processing (arrival :: rest))
    {numLayers : Nat} (genuine : arrival.Genuine numLayers) :
    (node.resolve arrival rest).Attributes pending := by
  have isRest : node.pollLoop.rest = arrival :: rest := by
    rw [isProcessing]
    rfl
  have inBatch : ∀ other ∈ rest, other ∈ node.pollLoop.rest := by
    rw [isRest]
    exact fun other member => List.mem_cons_of_mem arrival member
  unfold DecodeNode.resolve
  simp only
  split
  · exact
      attributes.of_unmarking rfl rfl
        (fun requestId => recordedSource_cons _ requestId (by simp))
        (attributes.wellCredited.cons (by simp)) inBatch rfl
  · rename_i named
    have isFirst : arrival ∈ node.pollLoop.rest := by
      rw [isRest]
      exact List.mem_cons_self
    obtain ⟨write, qpNum, byteLen, _, isGenuine⟩ := genuine
    have isRead :
        decodeLayerId
            (arrival.completion.immData node.engine.hostOrder) =
          node.reads write := by
      rw [isGenuine]
      exact write.read_completion node.engine.hostOrder qpNum byteLen
    have isOutstanding : write ∈ node.outstanding pending := by
      refine
        List.mem_append_right _
          (List.mem_filterMap.mpr ⟨arrival, isFirst, ?_⟩)
      rw [isGenuine]
    rw [isRead] at named ⊢
    refine
      attributes.mono rfl (fun _ _ known => known) (fun _ => rfl)
        attributes.wellCredited ?_ ?_
    · intro marking isMarking
      cases isMarking
      refine ⟨write, by rw [isGenuine], rfl, ?_⟩
      exact
        attributes.outstanding write isOutstanding _ named
          (resolveSeqNum_ne_nil named)
    · intro other member
      rcases List.mem_append.mp member with isPending | isNext
      · exact List.mem_append_left _ isPending
      · refine List.mem_append_right _ ?_
        rw [isRest]
        exact
          List.filterMap_subset _ (List.subset_cons_self arrival rest) isNext

theorem advanceLoop
    (attributes : node.Attributes pending) {input : LoopInput}
    (taken : node.advanceLoop input = some next) {numLayers : Nat}
    (batch :
      ∀ arrival ∈ node.pollLoop.rest, arrival.Genuine numLayers) :
    next.Attributes pending := by
  cases loopSection_of_advanceLoop taken with
  | batchDone =>
      exact
        attributes.of_unmarking rfl rfl (fun _ => rfl) attributes.wellCredited
          (by rintro arrival ⟨⟩) rfl
  | @resolves arrival rest isLoop =>
      refine attributes.resolve isLoop (batch arrival ?_)
      rw [isLoop]
      exact List.mem_cons_self
  | @marks requestId layerId arrival rest isLoop =>
      obtain ⟨write, isWrite, isLayer, credits⟩ :=
        attributes.marking (requestId, layerId, arrival) (by rw [isLoop]; rfl)
      refine
        attributes.of_unmarking rfl (markLayerReceived_seqToRequest _ _ _)
          (fun requestId => recordedSource_cons _ requestId (by simp))
          (attributes.wellCredited.cons ?_) ?_ ?_
      · intro _ _ _ _ isMark
        cases isMark
        refine ⟨write, isWrite, credits.1, ?_, credits.2.2⟩
        exact credits.2.1.trans (congrArg UInt16.toNat isLayer).symm
      · rw [isLoop]
        simp only [mark]
        split <;>
          exact fun _ member => member
      · simp only [mark]
        split <;> rfl
  | fenceSucceeds isLoop | fenceFails isLoop | looksUp _ isLoop =>
      exact
        attributes.of_unmarking rfl rfl (fun _ => rfl) attributes.wellCredited
          (by rw [isLoop]; exact fun _ member => member) rfl
  | announces isLoop =>
      simp only [announce]
      refine
        attributes.of_unmarking (push_engine _ _)
          (congrArg RequestTrackerLayer.seqToRequest (push_tracker _ _))
          (fun requestId => recordedSource_cons _ requestId (by simp))
          (attributes.wellCredited.cons (by simp)) ?_ rfl
      rw [isLoop]
      exact fun _ member => member

/-- One more write becomes pending. -/
theorem insert
    (attributes : node.Attributes pending) {write : KvWrite}
    (credits :
      node.tracker.resolveSeqNum (node.reads write).1 ≠ [] →
        node.Credits write
          (node.tracker.resolveSeqNum (node.reads write).1))
    (pending_eq : ∀ other ∈ later, other ∈ pending ∨ other = write) :
    node.Attributes later := by
  refine
    ⟨?_, attributes.marking, attributes.wellCredited⟩
  intro other member requestId named known
  have isKnown :
      other ∈ node.outstanding pending ∨ other = write := by
    rcases List.mem_append.mp member with isPending | inBatch
    · rcases pending_eq other isPending with before | isNew
      · exact Or.inl (List.mem_append_left _ before)
      · exact Or.inr isNew
    · exact Or.inl (List.mem_append_right _ inBatch)
  rcases isKnown with before | isNew
  · exact attributes.outstanding other before requestId named known
  · subst isNew
    have resolved :
        node.tracker.resolveSeqNum (node.reads other).1 = requestId := by
      unfold resolveSeqNum
      rw [known]
      rfl
    rw [resolved] at credits
    exact credits named

end Attributes

end DecodeNode

/-! ## Runs -/

namespace KvTransfer

/-- The writes whose completions have not been polled. -/
def pending (transfer : KvTransfer) : List KvWrite :=
  transfer.inFlight ++ transfer.recvCq.filterMap Arrival.write

/-- When a sequence number is given to a request, the outstanding writes under
it are those of its assignment, and a write posted under the sequence number of a
request is one of the assignment recorded for the request. -/
def CreditsInTime (transfer : KvTransfer) : TransferAction → Prop
  | .post index =>
      ∀ saving ∈ transfer.saving[index]?,
        ∀ write ∈ transfer.nextWrite saving,
          transfer.node.tracker.resolveSeqNum
              (transfer.node.reads write).1 ≠ [] →
            transfer.node.Credits write
              (transfer.node.tracker.resolveSeqNum
                (transfer.node.reads write).1)
  | .work index _ =>
      ∀ task ∈ transfer.node.tasks[index]?, ∀ assigned ∈ task.assigned,
        transfer.node.AddsInTime transfer.pending assigned.1 assigned.2
  | _ => True

instance (transfer : KvTransfer) :
    ∀ action, Decidable (transfer.CreditsInTime action)
  | .post index =>
      inferInstanceAs
        (Decidable
          (∀ saving ∈ transfer.saving[index]?,
            ∀ write ∈ transfer.nextWrite saving, _ → _))
  | .work index _ =>
      inferInstanceAs
        (Decidable
          (∀ task ∈ transfer.node.tasks[index]?, ∀ assigned ∈ task.assigned,
            transfer.node.AddsInTime transfer.pending assigned.1 assigned.2))
  | .sendPrepare _ => .isTrue trivial
  | .assign _ => .isTrue trivial
  | .deliver _ _ _ => .isTrue trivial
  | .flush _ => .isTrue trivial
  | .receivePrepare => .isTrue trivial
  | .receiveOther _ => .isTrue trivial
  | .waitAndPop => .isTrue trivial
  | .poll _ _ => .isTrue trivial
  | .advanceLoop _ => .isTrue trivial

structure Attributed (transfer : KvTransfer) : Prop where
  authentic : transfer.Authentic
  attributes : transfer.node.Attributes transfer.pending

theorem attributed_start (node : DecodeNode)
    (idle : node.pollLoop = .polling) (fresh : node.history = []) :
    (start node).Attributed where
  authentic := authentic_start node idle
  attributes := by
    have isIdle : (start node).node.pollLoop = .polling := idle
    have isFresh : (start node).node.history = [] := fresh
    constructor
    · intro write member
      unfold DecodeNode.outstanding at member
      rw [isIdle] at member
      cases member
    · intro marking isMarking
      rw [isIdle] at isMarking
      cases isMarking
    · rw [isFresh]
      exact justified_nil

theorem attributes_outside
    {transfer next : KvTransfer} {action : TransferAction}
    (outside : transfer.OutsideStep action next)
    (inTime : transfer.CreditsInTime action)
    (attributes : transfer.node.Attributes transfer.pending) :
    next.node.Attributes next.pending := by
  cases outside with
  | prepared event isPrepare =>
      exact attributes
  | assigned index info assignment found =>
      exact attributes
  | posted index saving write found following =>
      refine attributes.insert (inTime saving found write following) ?_
      intro other member
      simp only [pending, List.mem_append, List.mem_singleton] at member ⊢
      tauto
  | delivered prefillNodeId qpNum byteLen write found =>
      refine
        attributes.mono rfl (fun _ _ known => known) (fun _ => rfl)
          attributes.wellCredited attributes.marking ?_
      intro other member
      have isWrite : write ∈ transfer.inFlight :=
        List.mem_of_find?_eq_some found
      rcases List.mem_append.mp member with isPending | inBatch
      · refine List.mem_append_left _ ?_
        simp only [pending, List.filterMap_append, List.filterMap_cons,
          List.filterMap_nil, List.mem_append, List.mem_singleton]
          at isPending ⊢
        rcases isPending with flying | queued | isNew
        · exact Or.inl (List.mem_of_mem_eraseP flying)
        · exact Or.inr queued
        · exact Or.inl (isNew ▸ isWrite)
      · exact List.mem_append_right _ inBatch
  | flushed completion failed =>
      have samePending :
          pending
              { transfer with
                recvCq := transfer.recvCq ++ [⟨completion, none⟩] } =
            transfer.pending := by
        simp [pending]
      rw [samePending]
      exact attributes

theorem attributes_inside
    {transfer next : KvTransfer} {action : TransferAction}
    (inside : transfer.InsideStep action next)
    (inTime : transfer.CreditsInTime action)
    (authentic : transfer.Authentic)
    (attributes : transfer.node.Attributes transfer.pending) :
    next.node.Attributes next.pending := by
  cases inside with
  | received event link queued =>
      refine
        attributes.mono (congrArg _ (DecodeNode.push_engine _ _)) ?_ ?_ ?_ ?_
          ?_ <;>
        simp only [DecodeNode.push_tracker, DecodeNode.push_history,
          DecodeNode.push_pollLoop, DecodeNode.outstanding]
      · exact fun _ _ known => known
      · exact fun _ => trivial
      · exact attributes.wellCredited
      · exact attributes.marking
      · exact fun _ member => member
  | popped node changed =>
      obtain ⟨_, _, _, rfl⟩ := DecodeNode.waitAndPop_eq_some changed
      exact
        attributes.mono rfl (fun _ _ known => known) (fun _ => rfl)
          attributes.wellCredited attributes.marking (fun _ member => member)
  | worked index input node changed =>
      exact attributes.work changed inTime
  | polled count replenished node changed =>
      have split := transfer.polled_append count
      refine attributes.poll changed ?_ ?_
      · intro write member
        unfold pending at member ⊢
        rw [← split, List.filterMap_append]
        rcases List.mem_append.mp member with flying | remaining
        · exact List.mem_append_left _ flying
        · exact
            List.mem_append_right _ (List.mem_append_right _ remaining)
      · intro write member
        unfold pending
        rw [← split, List.filterMap_append]
        exact List.mem_append_right _ (List.mem_append_left _ member)
  | advanced input node changed =>
      exact attributes.advanceLoop changed authentic.batch

theorem attributed_step
    (transfer : KvTransfer) (action : TransferAction) (next : KvTransfer)
    (taken : transfer.step action = some next)
    (inTime : transfer.CreditsInTime action)
    (invariant : transfer.Attributed) : next.Attributed := by
  refine ⟨invariant.authentic.step taken, ?_⟩
  rcases step_cases taken with outside | inside
  · exact attributes_outside outside inTime invariant.attributes
  · exact
      attributes_inside inside inTime invariant.authentic
        invariant.attributes

/-- Every layer the poll loop has marked is due to a write of the assignment that
the request is recorded for. -/
def LayersWellCredited (transfer : KvTransfer) : Prop :=
  WellCredited transfer.node.history

end KvTransfer

open KvTransfer in
/-- In a run in which the writes outstanding under a sequence number are those
of the assignment it is given to, every layer is credited to the request, and to
the assignment of the request, that it belongs to. -/
theorem layers_well_credited
    (orchestratorId : ByteString) (numLayers : UInt32) (capacity : UInt64)
    (engine : RDMAEngine) (layout : MemoryLayout)
    {actions : List TransferAction}
    (inTime :
      LabelledRuns.Meets step CreditsInTime
        (start (.start orchestratorId numLayers capacity engine layout))
        actions) :
    LabelledRuns.Throughout step LayersWellCredited
      (start (.start orchestratorId numLayers capacity engine layout))
      actions :=
  LabelledRuns.throughout_of_meets attributed_step
    (fun _ invariant => invariant.attributes.wellCredited) inTime
    (attributed_start _ rfl rfl)

namespace KvTransfer

/-- The slot of the first request is prepared for the second one while the values
of its only layer are in flight; their completion comes next. -/
def slotReused (second : ByteString) : List TransferAction :=
  samplePrepared [10] 0 ++
    [.post 0, .post 0, .deliver [2] 6 64] ++ samplePolled 6 ++
      sampleFinished 1 ++ samplePrepared second 2 ++
        .deliver [2] 6 64 :: samplePolled 2

/-- All completions of the first request are looked at before its slot is
prepared for the second one. -/
def slotReusedLater (second : ByteString) : List TransferAction :=
  samplePrepared [10] 0 ++
    [.post 0, .post 0, .deliver [2] 6 64, .deliver [2] 6 64] ++
      samplePolled 6 ++ samplePolled 3 ++
        sampleFinished 1 ++ samplePrepared second 2 ++
          [.post 1, .deliver [2] 6 64] ++ samplePolled 2

/-- A late completion of the first request is credited to the second one. -/
def CreditsLateValues (second : ByteString) : Prop :=
  ∃ final,
    LabelledRuns.execute step (sampleStart 1) (slotReused second) =
        some final ∧
      final.node.history.head? =
        some
          (.marked second 0
            ⟨KvWrite.completion ⟨[10], 0, [2], 0, 0, .value⟩ 6 64,
              some ⟨[10], 0, [2], 0, 0, .value⟩⟩ true) ∧
      ¬final.LayersWellCredited

/-- The keys of the second request are credited to it. -/
def CreditsKeys (second : ByteString) : Prop :=
  ∃ final,
    LabelledRuns.execute step (sampleStart 1) (slotReusedLater second) =
        some final ∧
      final.node.history.head? =
        some
          (.marked second 0
            ⟨KvWrite.completion ⟨second, 1, [2], 0, 0, .key⟩ 6 64,
              some ⟨second, 1, [2], 0, 0, .key⟩⟩ true)

theorem creditsLateValues
    (second : ByteString)
    (isSecond : second ∈ ([[11], [10]] : List ByteString)) :
    CreditsLateValues second := by
  have outcome :
      (LabelledRuns.execute step (sampleStart 1) (slotReused second)).map
          (fun final =>
            (final.node.history.head?,
              recordedSource final.node.history.tail second)) =
        some
          (some
              (.marked second 0
                ⟨KvWrite.completion ⟨[10], 0, [2], 0, 0, .value⟩ 6 64,
                  some ⟨[10], 0, [2], 0, 0, .value⟩⟩ true),
            some ([2], 1)) := by
    revert second
    decide +kernel
  obtain ⟨final, run, observed⟩ := Option.map_eq_some_iff.mp outcome
  simp only [Prod.mk.injEq] at observed
  obtain ⟨newest, latest⟩ := observed
  refine ⟨final, run, newest, ?_⟩
  intro wellCredited
  obtain ⟨older, history⟩ := List.head?_eq_some_iff.mp newest
  rw [LayersWellCredited, history] at wellCredited
  obtain ⟨write, isWrite, _, _, credited⟩ :=
    (justified_cons.mp wellCredited).1 _ _ _ _ rfl
  rw [history, List.tail_cons] at latest
  cases isWrite
  rw [latest] at credited
  cases credited

theorem creditsKeys
    (second : ByteString)
    (isSecond : second ∈ ([[11], [10]] : List ByteString)) :
    CreditsKeys second := by
  have outcome :
      (LabelledRuns.execute step (sampleStart 1) (slotReusedLater second)).map
          (fun final => final.node.history.head?) =
        some
          (some
            (.marked second 0
              ⟨KvWrite.completion ⟨second, 1, [2], 0, 0, .key⟩ 6 64,
                some ⟨second, 1, [2], 0, 0, .key⟩⟩ true)) := by
    revert second
    decide +kernel
  exact Option.map_eq_some_iff.mp outcome

/-- The second request may be the first one assigned again. -/
theorem late_values_are_credited :
    CreditsLateValues [11] ∧ CreditsLateValues [10] :=
  ⟨creditsLateValues [11] (by decide), creditsLateValues [10] (by decide)⟩

/-- The slot changes hands, or its request is assigned again. -/
theorem own_keys_are_credited :
    (CreditsKeys [11] ∧
        LabelledRuns.Throughout step LayersWellCredited (sampleStart 1)
          (slotReusedLater [11])) ∧
      CreditsKeys [10] ∧
        LabelledRuns.Throughout step LayersWellCredited (sampleStart 1)
          (slotReusedLater [10]) :=
  ⟨⟨creditsKeys [11] (by decide),
      layers_well_credited _ _ _ _ _ (by decide +kernel)⟩,
    creditsKeys [10] (by decide),
    layers_well_credited _ _ _ _ _ (by decide +kernel)⟩

end KvTransfer

end RdmaKvCache
