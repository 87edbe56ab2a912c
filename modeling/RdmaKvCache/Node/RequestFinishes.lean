import RdmaKvCache.Library.TaskLists
import RdmaKvCache.Node.RequestStates

/-!
# Requests about to be finished

A request whose last missing layer has been marked is about to be finished: the
poll loop announces it, the event waits in the queue, or a worker handles it.  The
worker removes the request at the end, whatever has become of it by then.

A request is about to be finished once at most, and then all its layers are marked,
provided that no request is added that the tracker knows.  So the worker removes no
request that misses layers.
-/

namespace RdmaKvCache

namespace RequestTrackerLayer

variable {tracker next : RequestTrackerLayer}

/-! ## Requests without missing layers -/

/-- The tracker knows the request and all its layers are marked. -/
def marksAll (tracker : RequestTrackerLayer) (requestId : ByteString) : Bool :=
  (tracker.requests.lookup requestId).any fun info => decide info.AllMarked

theorem marksAll_iff {requestId : ByteString} :
    tracker.marksAll requestId = true ↔
      ∃ info,
        tracker.requests.lookup requestId = some info ∧ info.AllMarked := by
  simp [marksAll, Option.any_eq_true]

theorem marksAll_of_slotOf_eq_none
    {requestId : ByteString} (untracked : tracker.slotOf requestId = none) :
    tracker.marksAll requestId = false := by
  have unknown : tracker.requests.lookup requestId = none :=
    Option.map_eq_none_iff.mp untracked
  rw [marksAll, unknown, Option.any_none]

theorem marksAll_addRequest
    {requestId prefillNodeId : ByteString} {assignedSlot numLayers : Int32}
    {seqNum : UInt16}
    (added :
      tracker.addRequest requestId prefillNodeId assignedSlot numLayers =
        .ok (seqNum, next))
    {tested : ByteString} (other : tested ≠ requestId) :
    next.marksAll tested = tracker.marksAll tested := by
  obtain ⟨_, _, _, _, rfl⟩ := addRequest_eq_ok added
  rw [marksAll, marksAll, AList.lookup_insert_ne other]

theorem marksAll_updateState
    (tracker : RequestTrackerLayer) (requestId : ByteString)
    (newState : State) (tested : ByteString) :
    (tracker.updateState requestId newState).2.marksAll tested =
      tracker.marksAll tested := by
  rw [updateState]
  split
  · rfl
  · rename_i info known
    by_cases same : tested = requestId
    · subst same
      simp only [marksAll, AList.lookup_insert, known, Option.any_some]
      rfl
    · rw [marksAll, marksAll, AList.lookup_insert_ne same]

theorem marksAll_removeRequest
    (tracker : RequestTrackerLayer) {requestId tested : ByteString}
    (other : tested ≠ requestId) :
    (tracker.removeRequest requestId).marksAll tested =
      tracker.marksAll tested := by
  rw [removeRequest]
  split
  · rfl
  · rw [marksAll, marksAll, AList.lookup_erase_ne other]

/-- Marking takes nothing back. -/
theorem marksAll_markLayerReceived
    {requestId tested : ByteString} (layerId : Int32)
    (marked : tracker.marksAll tested = true) :
    (tracker.markLayerReceived requestId layerId).2.marksAll tested =
      true := by
  rw [markLayerReceived]
  split
  · exact marked
  · rename_i info known
    split
    · exact marked
    · rename_i received receives
      by_cases same : tested = requestId
      · subst same
        obtain ⟨other, found, allMarked⟩ := marksAll_iff.mp marked
        cases known.symm.trans found
        exact
          absurd allMarked (RequestInfo.InOrder.missing_of_receives receives)
      · rw [marksAll, AList.lookup_insert_ne same]
        exact marked

/-- The mark that completes a request is of a layer that has been missing. -/
theorem marksAll_of_allDone
    {requestId : ByteString} {layerId : Int32} {accepted : Nat → Prop}
    (records :
      ∀ info, tracker.requests.lookup requestId = some info →
        info.Records accepted)
    (allDone : (tracker.markLayerReceived requestId layerId).1 = true) :
    tracker.marksAll requestId = false ∧
      (tracker.markLayerReceived requestId layerId).2.marksAll requestId =
        true := by
  rw [markLayerReceived] at allDone ⊢
  split at allDone
  · cases allDone
  · rename_i info known
    split at allDone
    · cases allDone
    · rename_i received receives
      obtain ⟨inRange, _⟩ := receiveLayer_eq_some receives
      obtain ⟨_, _, sameLayers, _⟩ := receiveLayer_same receives
      have missing := RequestInfo.InOrder.missing_of_receives receives
      have recorded : received.Records fun _ => True :=
        ((records info known).mono fun _ _ => trivial).receive trivial receives
      have positive : 0 < received.numLayers := by
        rw [sameLayers]
        exact Int32.lt_of_le_of_lt inRange.1 inRange.2
      constructor
      · simp [marksAll, known, missing]
      · simp only [marksAll, AList.lookup_insert, Option.any_some,
          decide_eq_true_eq]
        exact
          (recorded.allMarked_iff positive).mpr (of_decide_eq_true allDone)

end RequestTrackerLayer

/-! ## Announcements under way -/

/-- The request a message announces the transfer of. -/
def NodeEvent.finishing (event : NodeEvent) : Option ByteString :=
  if event.message.type = .kvTransferComplete then
    some event.message.requestInfo.requestId
  else
    none

def NodeEvent.finishes (requestId : ByteString) (event : NodeEvent) : Bool :=
  decide (event.finishing = some requestId)

def WorkerTask.finishes (requestId : ByteString) (task : WorkerTask) : Bool :=
  decide (task.finishing = some requestId)

def PollLoop.finishes (requestId : ByteString) (pollLoop : PollLoop) : Bool :=
  decide (pollLoop.finishing = some requestId)

namespace DecodeNode

/-- How often the request is about to be finished. -/
def finishes (node : DecodeNode) (requestId : ByteString) : Nat :=
  (node.pollLoop.finishes requestId).toNat +
    node.eventQueue.countP (NodeEvent.finishes requestId) +
    node.tasks.countP (WorkerTask.finishes requestId)

/-- A request is about to be finished at most once, and only with all its layers
marked. -/
def FinishesOnce (node : DecodeNode) : Prop :=
  ∀ requestId,
    node.finishes requestId ≤ (node.tracker.marksAll requestId).toNat

variable {node next : DecodeNode}

theorem FinishesOnce.of_le
    (once : node.FinishesOnce)
    (fewer :
      ∀ requestId, next.finishes requestId ≤ node.finishes requestId)
    (marksAll :
      ∀ requestId,
        next.tracker.marksAll requestId = node.tracker.marksAll requestId) :
    next.FinishesOnce := by
  intro requestId
  rw [marksAll]
  exact Nat.le_trans (fewer requestId) (once requestId)

theorem marksAll_of_task
    (once : node.FinishesOnce) {task : WorkerTask}
    (handled : task ∈ node.tasks) {requestId : ByteString}
    (isFinishing : task.finishing = some requestId) :
    node.tracker.marksAll requestId = true := by
  have counted :
      0 < node.tasks.countP (WorkerTask.finishes requestId) :=
    List.countP_pos_iff.mpr ⟨task, handled, decide_eq_true isFinishing⟩
  have atMost := once requestId
  rw [finishes] at atMost
  cases marked : node.tracker.marksAll requestId with
  | true =>
      rfl
  | false =>
      rw [marked, Bool.toNat_false] at atMost
      omega

theorem finishes_push
    (node : DecodeNode) (event : NodeEvent) (requestId : ByteString) :
    (node.push event).finishes requestId ≤
      node.finishes requestId + (event.finishes requestId).toNat := by
  unfold push
  split
  · omega
  · simp only [finishes, List.countP_append, List.countP_singleton]
    cases event.finishes requestId <;>
      simp only [Bool.toNat_true, Bool.toNat_false, if_true,
        Bool.false_eq_true, if_false] <;>
      omega

theorem finishesOnce_push
    (once : node.FinishesOnce) {event : NodeEvent}
    (notComplete : event.message.type ≠ .kvTransferComplete) :
    (node.push event).FinishesOnce := by
  apply once.of_le
  · intro requestId
    have atMost := finishes_push node event requestId
    have silent : event.finishes requestId = false := by
      simp [NodeEvent.finishes, NodeEvent.finishing, notComplete]
    rwa [silent] at atMost
  · intro requestId
    rw [push_tracker]

theorem taskOf_finishes (event : NodeEvent) (requestId : ByteString) :
    (taskOf event).finishes requestId = event.finishes requestId := by
  unfold taskOf WorkerTask.finishes NodeEvent.finishes NodeEvent.finishing
  split
  · rename_i isPrepare
    rw [if_neg (by rw [isPrepare]; decide)]
    rfl
  · rename_i isComplete
    rw [if_pos isComplete]
    rfl
  · rename_i _ notComplete
    rw [if_neg notComplete]
    rfl

theorem finishesOnce_waitAndPop
    (once : node.FinishesOnce) (popped : node.waitAndPop = some next) :
    next.FinishesOnce := by
  obtain ⟨event, rest, queue, rfl⟩ := waitAndPop_eq_some popped
  apply once.of_le
  · intro requestId
    simp only [finishes, queue, List.countP_append, List.countP_cons,
      List.countP_nil, taskOf_finishes]
    omega
  · exact fun _ => rfl

theorem Worked.finishes_add
    {index : Nat} {task reached : WorkerTask}
    (worked : node.Worked next index task reached) (requestId : ByteString) :
    next.finishes requestId + (task.finishes requestId).toNat =
      node.finishes requestId + (reached.finishes requestId).toNat := by
  have tasks :=
    TaskLists.countP_set_add worked.found reached
      (WorkerTask.finishes requestId)
  rw [← worked.tasks_eq] at tasks
  rw [finishes, finishes, worked.sameLoop.pollLoop_eq,
    worked.sameLoop.eventQueue_eq]
  omega

/-- A worker comes to finish no request that it is not already finishing. -/
theorem Worked.finishes_le
    {index : Nat} {task reached : WorkerTask}
    (worked : node.Worked next index task reached) (requestId : ByteString) :
    next.finishes requestId ≤ node.finishes requestId := by
  have sum := worked.finishes_add requestId
  cases isReached : reached.finishes requestId with
  | false =>
      rw [isReached, Bool.toNat_false] at sum
      omega
  | true =>
      have isTask : task.finishes requestId = true :=
        decide_eq_true
          (worked.finishing requestId (of_decide_eq_true isReached))
      rw [isReached, isTask] at sum
      omega

/-- The worker that removes a request is the only one about to finish it. -/
theorem finishesOnce_work
    (once : node.FinishesOnce) {index : Nat} {input : WorkerInput}
    (taken : node.work index input = some next)
    (unknown :
      ∀ task ∈ node.tasks[index]?, ∀ info ∈ task.preparing,
        node.tracker.slotOf info.requestId = none) :
    next.FinishesOnce := by
  obtain ⟨task, reached, worked⟩ := work_change taken
  have fewer := worked.finishes_le
  cases worked.change with
  | unchanged _ tracker _ =>
      exact once.of_le fewer (fun _ => by rw [tracker])
  | stateUpdated _ requestId state tracker _ =>
      refine once.of_le fewer ?_
      intro tested
      rw [tracker, RequestTrackerLayer.marksAll_updateState]
  | requestAdded info assignment seqNum tracker _ =>
      intro tested
      have before := once tested
      have atMost := fewer tested
      by_cases same : tested = info.requestId
      · rw [same,
          RequestTrackerLayer.marksAll_of_slotOf_eq_none
            (unknown _ worked.found info rfl),
          Bool.toNat_false] at before
        rw [same] at atMost ⊢
        omega
      · rw [RequestTrackerLayer.marksAll_addRequest tracker same]
        omega
  | requestRemoved requestId tracker _ =>
      intro tested
      have before := once tested
      by_cases same : tested = requestId
      · subst same
        have sum := worked.finishes_add tested
        have isTask :
            (WorkerTask.answered tested).finishes tested = true :=
          decide_eq_true rfl
        have isReached : reached.finishes tested = false := by
          rw [worked.answered tested rfl]
          rfl
        have atMost := Bool.toNat_le (node.tracker.marksAll tested)
        rw [isTask, isReached] at sum
        simp only [Bool.toNat_true, Bool.toNat_false] at sum
        omega
      · rw [tracker,
          RequestTrackerLayer.marksAll_removeRequest node.tracker same]
        exact Nat.le_trans (fewer tested) before

theorem finishesOnce_poll
    (once : node.FinishesOnce) {polled : Option (List Arrival)}
    {replenished : Bool}
    (taken : node.poll polled replenished = some next) :
    next.FinishesOnce := by
  obtain ⟨isPolling, change⟩ := poll_cases taken
  rcases change with rfl | ⟨_, _, _, rfl⟩ | ⟨_, _, _, rfl⟩ <;>
    apply once.of_le <;>
    intro requestId <;>
    simp [finishes, isPolling, PollLoop.finishes, PollLoop.finishing]

/-- A request that the loop marks as complete has not been about to be finished. -/
theorem finishesOnce_mark
    (once : node.FinishesOnce) {requestId : ByteString} {layerId : UInt16}
    {arrival : Arrival} {rest : List Arrival}
    (isResolved :
      node.pollLoop = .resolved requestId layerId arrival rest)
    {accepted : Nat → Prop}
    (records :
      ∀ info, node.tracker.requests.lookup requestId = some info →
        info.Records accepted) :
    (node.mark requestId layerId arrival rest).FinishesOnce := by
  intro tested
  have before := once tested
  have grows :
      (node.tracker.marksAll tested).toNat ≤
        ((node.tracker.markLayerReceived requestId
          (Int32.ofNat layerId.toNat)).2.marksAll tested).toNat := by
    cases marked : node.tracker.marksAll tested with
    | false =>
        exact Nat.zero_le _
    | true =>
        rw [RequestTrackerLayer.marksAll_markLayerReceived _ marked]
  simp only [finishes, isResolved, PollLoop.finishes, PollLoop.finishing]
    at before
  simp only [mark, finishes, PollLoop.finishes]
  split
  · rename_i allDone
    obtain ⟨missing, complete⟩ :=
      RequestTrackerLayer.marksAll_of_allDone records allDone
    by_cases same : tested = requestId
    · subst same
      rw [missing, Bool.toNat_false] at before
      rw [complete]
      simp only [PollLoop.finishing, decide_true, Bool.toNat_true]
      omega
    · have other : ¬some requestId = some tested :=
        fun isSame => same (Option.some.inj isSame).symm
      simp only [PollLoop.finishing, other, decide_false, Bool.toNat_false]
      simp only [reduceCtorEq, decide_false, Bool.toNat_false] at before
      omega
  · simp only [PollLoop.finishing, reduceCtorEq, decide_false,
      Bool.toNat_false] at before ⊢
    omega

theorem finishesOnce_announce
    (once : node.FinishesOnce) {requestId : ByteString} {maxTokens : Int32}
    {rest : List Arrival}
    (isAnnouncing : node.pollLoop = .announcing requestId maxTokens rest)
    (memory : Message) :
    (node.announce requestId maxTokens memory rest).FinishesOnce := by
  apply once.of_le
  · intro tested
    have atMost :=
      finishes_push { node with pollLoop := .processing rest }
        ⟨⟨-1, transferMessage memory requestId maxTokens⟩, 0⟩ tested
    have isEvent :
        NodeEvent.finishes tested
            ⟨⟨-1, transferMessage memory requestId maxTokens⟩, 0⟩ =
          node.pollLoop.finishes tested := by
      rw [isAnnouncing]
      rfl
    have sameLoop :
        (node.announce requestId maxTokens memory rest).finishes tested =
          (push { node with pollLoop := .processing rest }
            ⟨⟨-1, transferMessage memory requestId maxTokens⟩, 0⟩).finishes
              tested := by
      unfold announce push
      simp only
      split <;> rfl
    rw [isEvent] at atMost
    rw [sameLoop]
    refine Nat.le_trans atMost ?_
    simp only [finishes, PollLoop.finishes, PollLoop.finishing, reduceCtorEq,
      decide_false, Bool.toNat_false]
    omega
  · intro tested
    exact
      congrArg (fun tracker => tracker.marksAll tested)
        (push_tracker node
          ⟨⟨-1, transferMessage memory requestId maxTokens⟩, 0⟩)

theorem finishesOnce_advanceLoop
    (once : node.FinishesOnce) {input : LoopInput}
    (taken : node.advanceLoop input = some next)
    {accepted : ByteString → Nat → Prop}
    (records :
      ∀ requestId info, node.tracker.requests.lookup requestId = some info →
        info.Records (accepted requestId)) :
    next.FinishesOnce := by
  cases loopSection_of_advanceLoop taken with
  | marks isLoop =>
      exact finishesOnce_mark once isLoop (records _)
  | announces isLoop =>
      exact finishesOnce_announce once isLoop input.memory
  | resolves isLoop =>
      apply once.of_le
      · intro requestId
        simp only [resolve]
        split <;>
          simp [finishes, isLoop, PollLoop.finishes, PollLoop.finishing]
      · intro requestId
        rw [resolve_tracker]
  | batchDone isLoop | fenceSucceeds isLoop | fenceFails isLoop
  | looksUp _ isLoop =>
      apply once.of_le
      · intro requestId
        simp [finishes, isLoop, PollLoop.finishes, PollLoop.finishing]
      · exact fun _ => rfl

end DecodeNode

end RdmaKvCache
