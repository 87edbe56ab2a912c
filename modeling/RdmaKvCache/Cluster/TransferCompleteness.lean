import RdmaKvCache.Cluster.KvTransfer
import RdmaKvCache.Library.DeliveryOrders
import RdmaKvCache.Library.Histories

/-!
# Complete transfers

A queue pair delivers the writes of a request in the order in which they are
posted, so a request whose last write has been delivered has arrived as a whole.
The poll loop however announces a transfer after one mark for each layer, while
each layer is two writes: it can be through with the keys of the last layer
before their values have arrived.

What is announced is complete if the last write of a request has been delivered
whenever the loop marks the last missing layer of the request.  Only the writes of
the assignment the request is recorded for count: those of an earlier assignment
say nothing about its transfer.
-/

namespace RdmaKvCache

open DeliveryOrders Histories RequestTrackerLayer

/-! ## Announcements of a node -/

/-- The layer is the only one of the request that has not been marked. -/
def RequestTrackerLayer.lacksOnly
    (tracker : RequestTrackerLayer) (requestId : ByteString)
    (layerId : UInt16) : Bool :=
  match tracker.requests.lookup requestId with
  | none => false
  | some info =>
      (info.receiveLayer (Int32.ofNat layerId.toNat)).isSome &&
        decide (info.layersReceivedCount + 1 = info.numLayers)

theorem RequestTrackerLayer.lacksOnly_of_allDone
    {tracker : RequestTrackerLayer} {requestId : ByteString}
    {layerId : UInt16}
    (allDone :
      (tracker.markLayerReceived requestId
        (Int32.ofNat layerId.toNat)).1 = true) :
    tracker.lacksOnly requestId layerId = true := by
  rw [markLayerReceived] at allDone
  split at allDone
  · cases allDone
  · rename_i info found
    split at allDone
    · cases allDone
    · rename_i received accepted
      obtain ⟨_, _, layers, count⟩ := receiveLayer_same accepted
      have isLast : info.layersReceivedCount + 1 = info.numLayers := by
        rw [← count, ← layers]
        exact of_decide_eq_true allDone
      simp [lacksOnly, found, accepted, isLast]

/-- The request has `arrived` for the assignment that is recorded last. -/
def LatestArrived
    (arrived : ByteString → ByteString × Nat → Prop)
    (history : List NodeRecord) (requestId : ByteString) : Prop :=
  ∃ source ∈ recordedSource history requestId, arrived requestId source

/-- Every request has arrived for its assignment when it is announced. -/
def WellAnnounced
    (arrived : ByteString → ByteString × Nat → Prop)
    (history : List NodeRecord) : Prop :=
  Justified
    (fun older record =>
      ∀ requestId, record = .pushed requestId →
        LatestArrived arrived older requestId)
    history

/-- Every request announced, or about to be, has `arrived`. -/
structure DecodeNode.Announces
    (node : DecodeNode) (arrived : ByteString → ByteString × Nat → Prop) :
    Prop where
  finishing :
    ∀ requestId, node.pollLoop.finishing = some requestId →
      LatestArrived arrived node.history requestId
  pushed : WellAnnounced arrived node.history

namespace DecodeNode.Announces

variable {node next : DecodeNode}
variable {arrived later : ByteString → ByteString × Nat → Prop}

theorem mono
    (announces : node.Announces arrived)
    (grows :
      ∀ requestId source, arrived requestId source →
        later requestId source) :
    node.Announces later where
  finishing := by
    intro requestId isFinishing
    obtain ⟨source, isSource, isArrived⟩ :=
      announces.finishing requestId isFinishing
    exact ⟨source, isSource, grows requestId source isArrived⟩
  pushed := by
    refine Justified.mono announces.pushed ?_
    intro record older justified requestId isPushed
    obtain ⟨source, isSource, isArrived⟩ := justified requestId isPushed
    exact ⟨source, isSource, grows requestId source isArrived⟩

theorem of_recorded
    (announces : node.Announces arrived)
    (loop :
      next.pollLoop.finishing = none ∨ next.pollLoop = node.pollLoop)
    (recorded :
      ∀ requestId,
        recordedSource next.history requestId =
          recordedSource node.history requestId)
    (pushed : WellAnnounced arrived next.history) :
    next.Announces arrived where
  finishing := by
    intro requestId isFinishing
    rw [LatestArrived, recorded]
    rcases loop with idle | same
    · rw [idle] at isFinishing
      cases isFinishing
    · rw [same] at isFinishing
      exact announces.finishing requestId isFinishing
  pushed := pushed

theorem of_same
    (announces : node.Announces arrived)
    (loop :
      next.pollLoop.finishing = none ∨ next.pollLoop = node.pollLoop)
    (history : next.history = node.history) :
    next.Announces arrived := by
  apply announces.of_recorded loop
  · intro requestId
    rw [history]
  · rw [history]
    exact announces.pushed

/-- A record that neither adds nor announces a request changes nothing. -/
theorem of_silent
    (announces : node.Announces arrived) {record : NodeRecord}
    (notAdded : record.adds = false)
    (notPushed : ∀ requestId, record ≠ .pushed requestId)
    (loop :
      next.pollLoop.finishing = none ∨ next.pollLoop = node.pollLoop)
    (history : next.history = record :: node.history) :
    next.Announces arrived := by
  apply announces.of_recorded loop
  · intro requestId
    rw [history, recordedSource_of_not_adds notAdded]
  · rw [history]
    exact
      justified_cons.mpr
        ⟨fun requestId isPushed => absurd isPushed (notPushed requestId),
          announces.pushed⟩

/-- A request the loop is about to announce is only added anew if it has
arrived. -/
theorem work
    (announces : node.Announces arrived) {index : Nat} {input : WorkerInput}
    (worked : node.work index input = some next)
    (complete :
      ∀ task ∈ node.tasks[index]?, ∀ assigned ∈ task.assigned,
        node.pollLoop.finishing = some assigned.1.requestId →
          arrived assigned.1.requestId
            (assigned.1.prefillNodeId, assigned.2)) :
    next.Announces arrived := by
  obtain ⟨task, reached, worked⟩ := work_change worked
  have sameLoop := worked.sameLoop.pollLoop_eq
  cases worked.change with
  | unchanged _ _ history | stateUpdated _ _ _ _ history =>
      exact announces.of_same (Or.inr sameLoop) history
  | requestAdded info assignment _ _ history =>
      constructor
      · rw [sameLoop, history]
        intro requestId isFinishing
        by_cases same : requestId = info.requestId
        · subst same
          exact
            ⟨_, recordedSource_added _ _ _ _ _,
              complete _ worked.found (info, assignment) rfl isFinishing⟩
        · rw [LatestArrived, recordedSource_cons]
          · exact announces.finishing requestId isFinishing
          · intro _ _ _ _ isAdded isRequest
            cases isAdded
            exact same isRequest.symm
      · rw [history]
        exact justified_cons.mpr ⟨by rintro _ ⟨⟩, announces.pushed⟩
  | requestRemoved _ _ history =>
      exact
        announces.of_silent rfl (by rintro _ ⟨⟩) (Or.inr sameLoop) history

theorem poll
    (announces : node.Announces arrived) {polled : Option (List Arrival)}
    {replenished : Bool}
    (taken : node.poll polled replenished = some next) :
    next.Announces arrived := by
  obtain ⟨_, stopped | ⟨engine, _, _, lost⟩ | ⟨engine, _, _, started⟩⟩ :=
    poll_cases taken
  · subst stopped
    exact announces.of_same (Or.inl rfl) rfl
  · subst lost
    exact announces.of_silent rfl (by rintro _ ⟨⟩) (Or.inr rfl) rfl
  · subst started
    exact announces.of_same (Or.inl rfl) rfl

/-- The loop only comes to announce a request when it marks the last missing
layer of the request. -/
theorem advanceLoop
    (announces : node.Announces arrived) {input : LoopInput}
    (taken : node.advanceLoop input = some next)
    (complete :
      ∀ marking ∈ node.pollLoop.marking,
        node.tracker.lacksOnly marking.1 marking.2.1 = true →
          LatestArrived arrived node.history marking.1) :
    next.Announces arrived := by
  cases loopSection_of_advanceLoop taken with
  | batchDone | fenceFails =>
      exact announces.of_same (Or.inl rfl) rfl
  | resolves =>
      simp only [resolve]
      split
      · exact announces.of_silent rfl (by rintro _ ⟨⟩) (Or.inl rfl) rfl
      · exact announces.of_same (Or.inl rfl) rfl
  | @marks requestId layerId arrival rest isLoop =>
      simp only [mark]
      constructor
      · intro tested isFinishing
        rw [LatestArrived, recordedSource_of_not_adds rfl]
        simp only at isFinishing
        split at isFinishing
        · rename_i allDone
          cases isFinishing
          exact
            complete (requestId, layerId, arrival) (by rw [isLoop]; rfl)
              (lacksOnly_of_allDone allDone)
        · cases isFinishing
      · exact justified_cons.mpr ⟨by rintro _ ⟨⟩, announces.pushed⟩
  | @fenceSucceeds requestId rest isLoop | @looksUp requestId rest _ isLoop =>
      have isArrived : LatestArrived arrived node.history requestId :=
        announces.finishing requestId (by rw [isLoop]; rfl)
      constructor
      · intro tested isFinishing
        cases isFinishing
        exact isArrived
      · exact announces.pushed
  | @announces requestId maxTokens rest isLoop =>
      have isArrived : LatestArrived arrived node.history requestId :=
        announces.finishing requestId (by rw [isLoop]; rfl)
      rw [announce]
      constructor
      · intro tested isFinishing
        cases isFinishing
      · refine justified_cons.mpr ⟨?_, announces.pushed⟩
        intro tested isPushed
        cases isPushed
        exact isArrived

end DecodeNode.Announces

/-! ## Writes in order -/

namespace KvTransfer

/-- Both writes of every layer of the request have been delivered for the
assignment. -/
def Complete
    (transfer : KvTransfer) (requestId : ByteString)
    (source : ByteString × Nat) : Prop :=
  ∀ layerId < transfer.numLayers, ∀ part,
    ∃ write ∈ transfer.delivered,
      write.requestId = requestId ∧ write.source = source ∧
        write.layerId = layerId ∧ write.part = part

/-- The values of the last layer of the request have been delivered for the
assignment. -/
def LastDelivered
    (transfer : KvTransfer) (requestId : ByteString)
    (source : ByteString × Nat) : Prop :=
  ∃ write ∈ transfer.delivered,
    write.requestId = requestId ∧ write.source = source ∧
      write.layerId + 1 = transfer.numLayers ∧ write.part = .value

/-- What has been posted of each request is delivered or in flight, and no write
is ahead of one that precedes it. -/
structure InOrder (transfer : KvTransfer) : Prop where
  ordered :
    Ordered KvWrite.Precedes transfer.delivered transfer.inFlight
  posted :
    ∀ saving ∈ transfer.saving,
      ∀ write ∈
        (kvWrites saving.info saving.assignment transfer.numLayers).take
          saving.posted,
        write ∈ transfer.delivered ∨ write ∈ transfer.inFlight

namespace InOrder

variable {transfer next : KvTransfer}

theorem of_sameWrites
    (inOrder : transfer.InOrder)
    (saving : next.saving = transfer.saving)
    (inFlight : next.inFlight = transfer.inFlight)
    (delivered : next.delivered = transfer.delivered)
    (layers : next.numLayers = transfer.numLayers) : next.InOrder where
  ordered := by
    rw [inFlight, delivered]
    exact inOrder.ordered
  posted := by
    rw [saving, inFlight, delivered, layers]
    exact inOrder.posted

theorem assign
    (inOrder : transfer.InOrder) (info : RequestInfo) (assignment : Nat)
    (prepared : List (RequestInfo × Nat)) :
    ({ transfer with
        prepared := prepared
        saving := transfer.saving ++ [⟨info, assignment, 0⟩] } :
      KvTransfer).InOrder where
  ordered := inOrder.ordered
  posted := by
    intro saving member write isPosted
    rcases List.mem_append.mp member with earlier | added
    · exact inOrder.posted saving earlier write isPosted
    · rw [List.mem_singleton.mp added, List.take_zero] at isPosted
      cases isPosted

theorem post
    (inOrder : transfer.InOrder) {index : Nat} {saving : Saving}
    {write : KvWrite}
    (found : transfer.saving[index]? = some saving)
    (following : transfer.nextWrite saving = some write) :
    ({ transfer with
        saving :=
          transfer.saving.set index { saving with posted := saving.posted + 1 }
        inFlight := transfer.inFlight ++ [write] } : KvTransfer).InOrder := by
  have isPosted :=
    inOrder.posted saving (List.mem_of_getElem? found)
  constructor
  · apply inOrder.ordered.enqueue
    intro earlier precedes
    exact isPosted earlier (mem_take_of_precedes following precedes)
  · intro other member posted taken
    have known :
        (posted ∈ transfer.delivered ∨ posted ∈ transfer.inFlight) ∨
          posted = write := by
      rcases List.mem_or_eq_of_mem_set member with unchanged | same
      · exact Or.inl (inOrder.posted other unchanged posted taken)
      · rw [same, List.take_add_one] at taken
        rcases List.mem_append.mp taken with earlier | last
        · exact Or.inl (isPosted posted earlier)
        · have isNext : transfer.nextWrite saving = some posted :=
            Option.mem_toList.mp last
          rw [following] at isNext
          exact Or.inr (Option.some.inj isNext).symm
    rcases known with (delivered | flying) | isWrite
    · exact Or.inl delivered
    · exact Or.inr (List.mem_append_left _ flying)
    · exact Or.inr (List.mem_append_right _ (List.mem_singleton.mpr isWrite))

theorem deliver
    (inOrder : transfer.InOrder) {prefillNodeId : ByteString}
    {write : KvWrite}
    (found : transfer.inFlight.find? (isOn prefillNodeId) = some write)
    (recvCq : List Arrival) :
    ({ transfer with
        inFlight := transfer.inFlight.eraseP (isOn prefillNodeId)
        recvCq := recvCq
        delivered := transfer.delivered ++ [write] } : KvTransfer).InOrder := by
  have isFound : isOn prefillNodeId write = true := List.find?_some found
  constructor
  · apply inOrder.ordered.deliver found
    intro earlier precedes
    exact
      decide_eq_true
        ((congrArg Prod.fst precedes.2.1).trans (of_decide_eq_true isFound))
  · intro saving member posted taken
    exact mem_of_deliver found (inOrder.posted saving member posted taken)

/-- A request whose last write has been delivered has arrived. -/
theorem complete_of_last
    (inOrder : transfer.InOrder) {requestId : ByteString}
    {source : ByteString × Nat}
    (last : transfer.LastDelivered requestId source) :
    transfer.Complete requestId source := by
  obtain ⟨write, isDelivered, isWrite, isSource, isLastLayer, isValue⟩ := last
  intro layerId bound part
  by_cases same : layerId = write.layerId ∧ part = .value
  · exact
      ⟨write, isDelivered, isWrite, isSource, same.1.symm,
        isValue.trans same.2.symm⟩
  · refine
      ⟨{ write with layerId := layerId, part := part }, ?_, isWrite, isSource,
        rfl, rfl⟩
    refine inOrder.ordered.of_delivered write isDelivered _ ?_
    refine ⟨rfl, rfl, rfl, ?_⟩
    by_cases below : layerId < write.layerId
    · exact Or.inl below
    · have sameLayer : layerId = write.layerId := by omega
      refine Or.inr ⟨sameLayer, ?_, isValue⟩
      cases part with
      | key =>
          rfl
      | value =>
          exact absurd ⟨sameLayer, rfl⟩ same

theorem of_inside
    (inOrder : transfer.InOrder) {action : TransferAction}
    (inside : transfer.InsideStep action next) : next.InOrder := by
  have layers := inside.numLayers_eq
  cases inside <;>
    exact inOrder.of_sameWrites rfl rfl rfl layers

end InOrder

/-! ## Announced transfers -/

/-- The last write of a request has been delivered for its assignment whenever the
poll loop marks the last missing layer of the request, or a slot is prepared for
it again before the loop has announced it. -/
def LastLayerMarkedInTime (transfer : KvTransfer) : TransferAction → Prop
  | .advanceLoop _ =>
      ∀ marking ∈ transfer.node.pollLoop.marking,
        transfer.node.tracker.lacksOnly marking.1 marking.2.1 = true →
          LatestArrived transfer.LastDelivered transfer.node.history marking.1
  | .work index _ =>
      ∀ task ∈ transfer.node.tasks[index]?, ∀ assigned ∈ task.assigned,
        transfer.node.pollLoop.finishing = some assigned.1.requestId →
          transfer.LastDelivered assigned.1.requestId
            (assigned.1.prefillNodeId, assigned.2)
  | _ => True

instance (transfer : KvTransfer) (requestId : ByteString)
    (source : ByteString × Nat) :
    Decidable (transfer.LastDelivered requestId source) :=
  inferInstanceAs (Decidable (∃ write ∈ transfer.delivered, _ ∧ _ ∧ _ ∧ _))

instance (transfer : KvTransfer) (history : List NodeRecord)
    (requestId : ByteString) :
    Decidable (LatestArrived transfer.LastDelivered history requestId) :=
  inferInstanceAs
    (Decidable
      (∃ source ∈ recordedSource history requestId,
        transfer.LastDelivered requestId source))

instance (transfer : KvTransfer) :
    ∀ action, Decidable (transfer.LastLayerMarkedInTime action)
  | .advanceLoop _ =>
      inferInstanceAs
        (Decidable (∀ marking ∈ transfer.node.pollLoop.marking, _ → _))
  | .work index _ =>
      inferInstanceAs
        (Decidable
          (∀ task ∈ transfer.node.tasks[index]?, ∀ assigned ∈ task.assigned,
            _ → _))
  | .sendPrepare _ => .isTrue trivial
  | .assign _ => .isTrue trivial
  | .post _ => .isTrue trivial
  | .deliver _ _ _ => .isTrue trivial
  | .flush _ => .isTrue trivial
  | .receivePrepare => .isTrue trivial
  | .receiveOther _ => .isTrue trivial
  | .waitAndPop => .isTrue trivial
  | .poll _ _ => .isTrue trivial

/-- Every transfer announced, or about to be, is complete. -/
structure AnnouncesComplete (transfer : KvTransfer) : Prop where
  inOrder : transfer.InOrder
  announces : transfer.node.Announces transfer.Complete

theorem complete_of_delivered
    {transfer next : KvTransfer} {requestId : ByteString}
    {source : ByteString × Nat}
    (complete : transfer.Complete requestId source)
    (layers : next.numLayers = transfer.numLayers)
    (delivered : ∀ write ∈ transfer.delivered, write ∈ next.delivered) :
    next.Complete requestId source := by
  intro layerId bound part
  rw [layers] at bound
  obtain ⟨write, isDelivered, isWrite⟩ := complete layerId bound part
  exact ⟨write, delivered write isDelivered, isWrite⟩

theorem announcesComplete_start (node : DecodeNode)
    (idle : node.pollLoop = .polling) (fresh : node.history = []) :
    (start node).AnnouncesComplete where
  inOrder :=
    { ordered := .nil
      posted := by
        intro saving member
        cases member }
  announces :=
    { finishing := by
        intro requestId isFinishing
        have isIdle : (start node).node.pollLoop = .polling := idle
        rw [isIdle] at isFinishing
        cases isFinishing
      pushed := by
        have isFresh : (start node).node.history = [] := fresh
        rw [isFresh]
        exact justified_nil }

theorem announcesComplete_outside
    {transfer next : KvTransfer} {action : TransferAction}
    (outside : transfer.OutsideStep action next)
    (invariant : transfer.AnnouncesComplete) : next.AnnouncesComplete := by
  obtain ⟨inOrder, announces⟩ := invariant
  cases outside with
  | prepared event isPrepare =>
      exact ⟨inOrder.of_sameWrites rfl rfl rfl rfl, announces⟩
  | assigned index info assignment found =>
      exact ⟨inOrder.assign info assignment _, announces⟩
  | posted index saving write found following =>
      exact ⟨inOrder.post found following, announces⟩
  | delivered prefillNodeId qpNum byteLen write found =>
      refine ⟨inOrder.deliver found _, ?_⟩
      apply announces.mono
      intro requestId source complete
      exact
        complete_of_delivered complete rfl
          (fun _ member => List.mem_append_left _ member)
  | flushed completion failed =>
      exact ⟨inOrder.of_sameWrites rfl rfl rfl rfl, announces⟩

theorem announces_inside
    {transfer next : KvTransfer} {action : TransferAction}
    (inside : transfer.InsideStep action next)
    (inTime : transfer.LastLayerMarkedInTime action)
    (inOrder : transfer.InOrder)
    (announces : transfer.node.Announces transfer.Complete) :
    next.node.Announces transfer.Complete := by
  cases inside with
  | received event link queued =>
      exact
        announces.of_same (Or.inr (DecodeNode.push_pollLoop _ _))
          (DecodeNode.push_history _ _)
  | popped node changed =>
      obtain ⟨_, _, _, rfl⟩ := DecodeNode.waitAndPop_eq_some changed
      exact announces.of_same (Or.inr rfl) rfl
  | worked index input node changed =>
      apply announces.work changed
      intro task isTask assigned isAssigned isFinishing
      exact
        inOrder.complete_of_last
          (inTime task isTask assigned isAssigned isFinishing)
  | polled count replenished node changed =>
      exact announces.poll changed
  | advanced input node changed =>
      apply announces.advanceLoop changed
      intro marking isMarking lacksOnly
      obtain ⟨source, isSource, last⟩ := inTime marking isMarking lacksOnly
      exact ⟨source, isSource, inOrder.complete_of_last last⟩

theorem announcesComplete_step
    (transfer : KvTransfer) (action : TransferAction) (next : KvTransfer)
    (taken : transfer.step action = some next)
    (inTime : transfer.LastLayerMarkedInTime action)
    (invariant : transfer.AnnouncesComplete) : next.AnnouncesComplete := by
  rcases step_cases taken with outside | inside
  · exact announcesComplete_outside outside invariant
  · refine ⟨invariant.inOrder.of_inside inside, ?_⟩
    have announces :=
      announces_inside inside inTime invariant.inOrder invariant.announces
    apply announces.mono
    intro requestId source complete
    refine complete_of_delivered complete inside.numLayers_eq ?_
    intro write member
    cases inside <;> exact member

/-- Every transfer the poll loop has announced is complete: both writes of every
layer have been delivered for the assignment the request had then. -/
def AnnouncedComplete (transfer : KvTransfer) : Prop :=
  WellAnnounced transfer.Complete transfer.node.history

end KvTransfer

open KvTransfer in
/-- In a run in which the last write of a request has been delivered for its
assignment whenever the poll loop marks the last missing layer of the request, the
loop announces nothing but complete transfers. -/
theorem announced_transfers_complete
    (orchestratorId : ByteString) (numLayers : UInt32) (capacity : UInt64)
    (engine : RDMAEngine) (layout : MemoryLayout)
    {actions : List TransferAction}
    (inTime :
      LabelledRuns.Meets step LastLayerMarkedInTime
        (start (.start orchestratorId numLayers capacity engine layout))
        actions) :
    LabelledRuns.Throughout step AnnouncedComplete
      (start (.start orchestratorId numLayers capacity engine layout))
      actions :=
  LabelledRuns.throughout_of_meets announcesComplete_step
    (fun _ invariant => invariant.announces.pushed) inTime
    (announcesComplete_start _ rfl rfl)

namespace KvTransfer

/-- The keys of the only layer are delivered and polled, and the transfer is
announced while its values are still in flight. -/
def keysOnly : List TransferAction :=
  samplePrepared [10] 0 ++
    [.post 0, .post 0, .deliver [2] 6 64] ++ samplePolled 5

/-- The values are delivered before the completion of the keys is polled, and the
request is finished. -/
def keysAndValues : List TransferAction :=
  samplePrepared [10] 0 ++
    [.post 0, .post 0, .deliver [2] 6 64, .deliver [2] 6 64] ++
      samplePolled 6 ++ samplePolled 3 ++ sampleFinished 1

/-- The request is assigned again.  Its keys are delivered, and what else is
given, before a completion is polled. -/
def assignedAgain (deliveries : List TransferAction) : List TransferAction :=
  keysAndValues ++ samplePrepared [10] 2 ++
    [.post 1, .post 1, .deliver [2] 6 64] ++ deliveries ++ samplePolled 5

/-- The values of the first transfer do not make up for those of the second. -/
example :
    ¬LabelledRuns.Meets step LastLayerMarkedInTime (sampleStart 1)
      (assignedAgain []) := by
  decide +kernel

theorem values_are_missing :
    ∃ final,
      LabelledRuns.execute step (sampleStart 1) keysOnly = some final ∧
        final.node.history.head? = some (.pushed [10]) ∧
        final.inFlight =
          [{ requestId := [10]
             assignment := 0
             prefillNodeId := [2]
             slotId := 0
             layerId := 0
             part := .value }] ∧
        ¬final.AnnouncedComplete := by
  have outcome :
      (LabelledRuns.execute step (sampleStart 1) keysOnly).map
          (fun final =>
            (final.node.history.head?, final.inFlight, final.numLayers,
              final.delivered.map KvWrite.part)) =
        some
          (some (.pushed [10]),
            [{ requestId := [10]
               assignment := 0
               prefillNodeId := [2]
               slotId := 0
               layerId := 0
               part := .value }], 1, [.key]) := by
    decide +kernel
  obtain ⟨final, run, observed⟩ := Option.map_eq_some_iff.mp outcome
  simp only [Prod.mk.injEq] at observed
  obtain ⟨pushed, flying, layers, parts⟩ := observed
  refine ⟨final, run, pushed, flying, ?_⟩
  intro announced
  obtain ⟨older, history⟩ := List.head?_eq_some_iff.mp pushed
  rw [AnnouncedComplete, history] at announced
  obtain ⟨source, _, complete⟩ :=
    (justified_cons.mp announced).1 [10] rfl
  obtain ⟨write, delivered, _, _, _, isValue⟩ :=
    complete 0 (by rw [layers]; decide) .value
  have isPart : write.part ∈ final.delivered.map KvWrite.part :=
    List.mem_map_of_mem delivered
  rw [parts, isValue] at isPart
  cases List.mem_singleton.mp isPart

/-- Both transfers of a request are announced when they are complete. -/
theorem keys_and_values_are_announced :
    (∃ final,
      LabelledRuns.execute step (sampleStart 1)
          (assignedAgain [.deliver [2] 6 64]) = some final ∧
        final.node.history.count (.pushed [10]) = 2) ∧
      LabelledRuns.Throughout step AnnouncedComplete (sampleStart 1)
        (assignedAgain [.deliver [2] 6 64]) := by
  have outcome :
      (LabelledRuns.execute step (sampleStart 1)
          (assignedAgain [.deliver [2] 6 64])).map
          (fun final => final.node.history.count (.pushed [10])) =
        some 2 := by
    decide +kernel
  obtain ⟨final, run, observed⟩ := Option.map_eq_some_iff.mp outcome
  exact
    ⟨⟨final, run, observed⟩,
      announced_transfers_complete _ _ _ _ _ (by decide +kernel)⟩

end KvTransfer

end RdmaKvCache
