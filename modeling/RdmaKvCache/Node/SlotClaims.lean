import RdmaKvCache.Library.TaskLists
import RdmaKvCache.Node.DecodeNode
import RdmaKvCache.Node.TrackedRequests

/-!
# Claims to a slot

A slot of a decode node is claimed by every message in the event queue that is
to prepare it, by every worker about to prepare it, and by the request the
tracker knows to have it.  No thread of the node ever adds a claim, so claims
come from outside only.
-/

namespace RdmaKvCache

open RequestTrackerLayer

/-- The slot a message is to prepare. -/
def Message.preparedSlot (message : Message) : Option Int32 :=
  if message.type = .prepareDecodeSlot then
    some message.requestInfo.slotId
  else
    none

def Message.prepares (slot : Int32) (message : Message) : Bool :=
  decide (message.preparedSlot = some slot)

def NodeEvent.prepares (slot : Int32) (event : NodeEvent) : Bool :=
  event.message.prepares slot

def WorkerTask.prepares (slot : Int32) (task : WorkerTask) : Bool :=
  decide (task.preparing.map RequestInfo.slotId = some slot)

/-- A message to prepare a slot is received. -/
def NodeAction.bringsPrepare : NodeAction → Bool
  | .receive event => decide (event.message.type = .prepareDecodeSlot)
  | _ => false

/-- One if the tracker knows a request with the slot. -/
def RequestTrackerLayer.claims
    (tracker : RequestTrackerLayer) (slot : Int32) : Nat :=
  (tracker.slotHolder slot).isSome.toNat

namespace RequestTrackerLayer

variable {tracker next : RequestTrackerLayer}

theorem claims_eq_zero {slot : Int32} :
    tracker.claims slot = 0 ↔ tracker.slotHolder slot = none := by
  rw [claims]
  cases tracker.slotHolder slot with
  | none =>
      exact ⟨fun _ => rfl, fun _ => rfl⟩
  | some holder =>
      constructor <;>
        intro same <;>
        cases same

theorem claims_le_one (tracker : RequestTrackerLayer) (slot : Int32) :
    tracker.claims slot ≤ 1 :=
  Bool.toNat_le _

/-- A tracker with fewer slots in use has fewer claims. -/
theorem claims_mono
    {slot : Int32}
    (holds :
      ∀ requestId, next.slotOf requestId = some slot →
        tracker.slotOf requestId = some slot) :
    next.claims slot ≤ tracker.claims slot := by
  by_cases unused : tracker.claims slot = 0
  · have free : next.claims slot = 0 := by
      rw [claims_eq_zero, slotHolder_eq_none] at unused ⊢
      intro requestId isHeld
      exact unused requestId (holds requestId isHeld)
    omega
  · have atMost := next.claims_le_one slot
    omega

theorem claims_addRequest
    {requestId prefillNodeId : ByteString} {assignedSlot numLayers : Int32}
    {seqNum : UInt16}
    (added :
      tracker.addRequest requestId prefillNodeId assignedSlot numLayers =
        .ok (seqNum, next))
    (slot : Int32) :
    next.claims slot ≤
      tracker.claims slot + (decide (assignedSlot = slot)).toNat := by
  by_cases same : assignedSlot = slot
  · have atMost := next.claims_le_one slot
    simp only [same, decide_true, Bool.toNat_true]
    omega
  · have fewer : next.claims slot ≤ tracker.claims slot := by
      apply claims_mono
      intro tested isHeld
      rw [slotOf_addRequest added] at isHeld
      split at isHeld
      · exact absurd (Option.some.inj isHeld) same
      · exact isHeld
    omega

theorem claims_updateState
    (tracker : RequestTrackerLayer) (requestId : ByteString)
    (newState : State) (slot : Int32) :
    (tracker.updateState requestId newState).2.claims slot ≤
      tracker.claims slot := by
  apply claims_mono
  intro tested isHeld
  rwa [slotOf_updateState] at isHeld

theorem claims_removeRequest
    (tracker : RequestTrackerLayer) (requestId : ByteString) (slot : Int32) :
    (tracker.removeRequest requestId).claims slot ≤ tracker.claims slot := by
  apply claims_mono
  intro tested isHeld
  rw [slotOf_removeRequest] at isHeld
  split at isHeld
  · cases isHeld
  · exact isHeld

theorem claims_markLayerReceived
    (tracker : RequestTrackerLayer) (requestId : ByteString)
    (layerId slot : Int32) :
    (tracker.markLayerReceived requestId layerId).2.claims slot ≤
      tracker.claims slot := by
  apply claims_mono
  intro tested isHeld
  rwa [slotOf_markLayerReceived] at isHeld

/-- A free slot below the limit is taken without an exception. -/
theorem addRequest_ok
    {assignedSlot numLayers : Int32}
    (requestId prefillNodeId : ByteString)
    (valid :
      0 ≤ assignedSlot ∧
        assignedSlot < tracker.layout.maxConcurrentRequests)
    (free : tracker.claims assignedSlot = 0) (layers : 0 ≤ numLayers) :
    ∃ added,
      tracker.addRequest requestId prefillNodeId assignedSlot numLayers =
        .ok added := by
  rw [claims_eq_zero] at free
  rw [addRequest]
  rw [if_neg, free]
  · simp only
    rw [if_neg (Int32.not_lt.mpr layers)]
    exact ⟨_, rfl⟩
  · rw [not_or, Int32.not_lt, Int32.not_le]
    exact valid

end RequestTrackerLayer

namespace DecodeNode

/-- The number of claims to a slot of the node. -/
def claims (node : DecodeNode) (slot : Int32) : Nat :=
  node.eventQueue.countP (NodeEvent.prepares slot) +
    node.tasks.countP (WorkerTask.prepares slot) +
    node.tracker.claims slot

variable {node next : DecodeNode}

theorem claims_push
    (node : DecodeNode) (event : NodeEvent) (slot : Int32) :
    (node.push event).claims slot ≤
      node.claims slot + (event.prepares slot).toNat := by
  unfold push
  split
  · omega
  · simp only [claims, List.countP_append, List.countP_singleton]
    cases event.prepares slot <;>
      simp only [Bool.toNat_true, Bool.toNat_false, if_true,
        Bool.false_eq_true, if_false] <;>
      omega

theorem taskOf_prepares (event : NodeEvent) (slot : Int32) :
    (taskOf event).prepares slot = event.prepares slot := by
  unfold taskOf WorkerTask.prepares NodeEvent.prepares Message.prepares
    Message.preparedSlot
  split
  · rename_i isPrepare
    rw [if_pos isPrepare]
    rfl
  · rename_i isComplete
    rw [if_neg (by rw [isComplete]; decide)]
    rfl
  · rename_i notPrepare _
    rw [if_neg notPrepare]
    rfl

theorem claims_waitAndPop
    (popped : node.waitAndPop = some next) (slot : Int32) :
    next.claims slot ≤ node.claims slot := by
  obtain ⟨event, rest, queue, rfl⟩ := waitAndPop_eq_some popped
  simp only [claims, queue, List.countP_append, List.countP_cons,
    List.countP_nil, taskOf_prepares]
  omega

/-- A worker that prepares a slot passes its claim on to the tracker. -/
theorem claims_work
    {index : Nat} {input : WorkerInput}
    (taken : node.work index input = some next) (slot : Int32) :
    next.claims slot ≤ node.claims slot := by
  obtain ⟨task, reached, worked⟩ := work_change taken
  have tasks :=
    TaskLists.countP_set_add worked.found reached (WorkerTask.prepares slot)
  rw [← worked.tasks_eq] at tasks
  have unprepared : reached.prepares slot = false := by
    simp [WorkerTask.prepares, worked.preparing_eq]
  rw [unprepared] at tasks
  have tracker :
      next.tracker.claims slot ≤
        node.tracker.claims slot + (task.prepares slot).toNat := by
    cases worked.change with
    | unchanged _ same _ =>
        rw [same]
        omega
    | stateUpdated _ requestId state same _ =>
        rw [same]
        have fewer := node.tracker.claims_updateState requestId state slot
        omega
    | requestAdded info assignment seqNum added _ =>
        have atMost := claims_addRequest added slot
        simpa [WorkerTask.prepares, WorkerTask.preparing] using atMost
    | requestRemoved requestId same _ =>
        rw [same]
        have fewer := node.tracker.claims_removeRequest requestId slot
        omega
  unfold claims
  rw [worked.sameLoop.eventQueue_eq]
  simp only [Bool.toNat_false] at tasks
  omega

theorem claims_poll
    {polled : Option (List Arrival)} {replenished : Bool}
    (taken : node.poll polled replenished = some next) (slot : Int32) :
    next.claims slot = node.claims slot := by
  obtain ⟨_, rfl | ⟨_, _, _, rfl⟩ | ⟨_, _, _, rfl⟩⟩ := poll_cases taken <;>
    rfl

theorem claims_advanceLoop
    {input : LoopInput} (taken : node.advanceLoop input = some next)
    (slot : Int32) :
    next.claims slot ≤ node.claims slot := by
  cases loopSection_of_advanceLoop taken with
  | resolves =>
      simp only [resolve]
      split <;>
        exact Nat.le_refl _
  | @marks requestId layerId =>
      have fewer :=
        node.tracker.claims_markLayerReceived requestId
          (Int32.ofNat layerId.toNat) slot
      simp only [claims, mark]
      omega
  | @announces requestId maxTokens =>
      have atMost :=
        claims_push node
          ⟨⟨-1, transferMessage input.memory requestId maxTokens⟩, 0⟩ slot
      have notPrepare :
          NodeEvent.prepares slot
            ⟨⟨-1, transferMessage input.memory requestId maxTokens⟩, 0⟩ =
              false :=
        rfl
      rw [notPrepare] at atMost
      exact atMost
  | _ =>
      exact Nat.le_refl _

/-- No thread of the node adds a claim by itself. -/
theorem claims_step
    {action : NodeAction} (taken : node.step action = some next)
    (inside : action.bringsPrepare = false) (slot : Int32) :
    next.claims slot ≤ node.claims slot := by
  obtain ⟨_, taken⟩ := step_running taken
  cases action with
  | receive event =>
      cases taken
      have atMost := claims_push node event slot
      have notPrepare : event.prepares slot = false := by
        simp only [NodeAction.bringsPrepare, decide_eq_false_iff_not]
          at inside
        simp [NodeEvent.prepares, Message.prepares, Message.preparedSlot,
          inside]
      rwa [notPrepare] at atMost
  | waitAndPop =>
      exact claims_waitAndPop taken slot
  | work index input =>
      exact claims_work taken slot
  | poll polled replenished =>
      exact Nat.le_of_eq (claims_poll taken slot)
  | advanceLoop input =>
      exact claims_advanceLoop taken slot

/-! ## Limits -/

/-- Neither the number of layers nor the layout of the memory changes. -/
structure SameLimits (node next : DecodeNode) : Prop where
  numLayers_eq : next.numLayers = node.numLayers
  layout_eq : next.tracker.layout = node.tracker.layout

theorem sameLimits_push (node : DecodeNode) (event : NodeEvent) :
    node.SameLimits (node.push event) where
  numLayers_eq := push_numLayers node event
  layout_eq := by
    rw [push_tracker]

theorem sameLimits_work
    {index : Nat} {input : WorkerInput}
    (taken : node.work index input = some next) : node.SameLimits next := by
  obtain ⟨task, reached, worked⟩ := work_change taken
  refine ⟨worked.sameLoop.numLayers_eq, ?_⟩
  cases worked.change with
  | unchanged _ tracker _ =>
      rw [tracker]
  | stateUpdated _ requestId state tracker _ =>
      rw [tracker, updateState_layout]
  | requestAdded info assignment seqNum added _ =>
      obtain ⟨_, _, _, _, tracker⟩ := addRequest_eq_ok added
      rw [tracker]
  | requestRemoved requestId tracker _ =>
      rw [tracker, removeRequest_layout]

theorem sameLimits_advanceLoop
    {input : LoopInput} (taken : node.advanceLoop input = some next) :
    node.SameLimits next := by
  refine ⟨numLayers_of_advanceLoop taken, ?_⟩
  cases isMarking : node.pollLoop.marking with
  | none =>
      rw [tracker_of_advanceLoop taken isMarking]
  | some marking =>
      rw [tracker_of_marking taken isMarking]
      exact markLayerReceived_layout _ _ _

theorem sameLimits_step
    {action : NodeAction} (taken : node.step action = some next) :
    node.SameLimits next := by
  obtain ⟨_, taken⟩ := step_running taken
  cases action with
  | receive event =>
      cases taken
      exact sameLimits_push node event
  | waitAndPop =>
      obtain ⟨_, _, _, rfl⟩ := waitAndPop_eq_some taken
      exact ⟨rfl, rfl⟩
  | work index input =>
      exact sameLimits_work taken
  | poll polled replenished =>
      obtain ⟨_, rfl | ⟨_, _, _, rfl⟩ | ⟨_, _, _, rfl⟩⟩ := poll_cases taken <;>
        exact ⟨rfl, rfl⟩
  | advanceLoop input =>
      exact sameLimits_advanceLoop taken

/-! ## Handling a message that prepares a slot -/

/-- `handle_prepare_decode_slot` adds the request without an exception. -/
def Adds (node : DecodeNode) (info : RequestInfo) : Prop :=
  ∃ added,
    node.tracker.addRequest info.requestId info.prefillNodeId info.slotId
      node.numLayers.toInt32 = .ok added

/-- A slot that is claimed once can be prepared. -/
theorem adds_of_claims
    {info : RequestInfo} {assignment : Nat}
    (handled : .prepareSlot info assignment ∈ node.tasks)
    (once : node.claims info.slotId ≤ 1)
    (valid :
      0 ≤ info.slotId ∧
        info.slotId < node.tracker.layout.maxConcurrentRequests)
    (layers : 0 ≤ node.numLayers.toInt32) :
    node.Adds info := by
  have claimed :
      0 < node.tasks.countP (WorkerTask.prepares info.slotId) :=
    List.countP_pos_iff.mpr 
      ⟨.prepareSlot info assignment, handled, decide_eq_true rfl⟩
  refine addRequest_ok info.requestId info.prefillNodeId valid ?_ layers
  rw [claims] at once
  omega

end DecodeNode

end RdmaKvCache
