import RdmaKvCache.Node.RecvCompletions

/-!
# How decoding is triggered

`mark_layer_received` reports a complete transfer once, and `rdma_poll_loop` then
waits for the fence and offers one event to the queue.  A run of a decode node
records the transfers that are complete, what the loop does about each of them,
the events the queue accepts and those the workers pop.
-/

namespace RdmaKvCache

open RequestTrackerLayer

/-- What the loop does about a complete transfer. -/
inductive Conclusion where
  | fenceFailed
  | offered (hasRoom : Bool)
  deriving DecidableEq

/-- An event in the order in which the queue accepts them, and the request whose
transfer the loop announces with it. -/
structure AcceptedEvent where
  event : NodeEvent
  announces : Option ByteString

/-! ## What a step records -/

namespace DecodeNode

def hasRoom (node : DecodeNode) : Bool :=
  decide (node.eventQueue.length < node.capacity.toNat)

/-- The request whose last missing layer the loop marks. -/
def completedBy (node : DecodeNode) : NodeAction → Option ByteString
  | .advanceLoop _ =>
      match node.pollLoop with
      | .resolved requestId layerId _ _ =>
          if (node.tracker.markLayerReceived requestId
              (Int32.ofNat layerId.toNat)).1 then
            some requestId
          else
            none
      | _ => none
  | _ => none

def concludedBy (node : DecodeNode) :
    NodeAction → Option (ByteString × Conclusion)
  | .advanceLoop input =>
      match node.pollLoop with
      | .allDone requestId _ =>
          if input.fenceSucceeds then none else some (requestId, .fenceFailed)
      | .announcing requestId _ _ => some (requestId, .offered node.hasRoom)
      | _ => none
  | _ => none

def acceptedBy (node : DecodeNode) : NodeAction → Option AcceptedEvent
  | .receive event => if node.hasRoom then some ⟨event, none⟩ else none
  | .advanceLoop input =>
      match node.pollLoop with
      | .announcing requestId maxTokens _ =>
          if node.hasRoom then
            some
              ⟨⟨⟨-1, transferMessage input.memory requestId maxTokens⟩, 0⟩,
                some requestId⟩
          else
            none
      | _ => none
  | _ => none

def poppedBy (node : DecodeNode) : NodeAction → Option NodeEvent
  | .waitAndPop => node.eventQueue.head?
  | _ => none

end DecodeNode

/-- The request whose event the queue has accepted. -/
def announcedIn : ByteString × Conclusion → Option ByteString
  | (requestId, .offered true) => some requestId
  | _ => none

structure TriggerRun where
  node : DecodeNode
  completed : List ByteString := []
  concluded : List (ByteString × Conclusion) := []
  accepted : List AcceptedEvent := []
  popped : List NodeEvent := []

namespace TriggerRun

def step (run : TriggerRun) (action : NodeAction) : Option TriggerRun :=
  (run.node.step action).map fun next =>
    { node := next
      completed := run.completed ++ (run.node.completedBy action).toList
      concluded := run.concluded ++ (run.node.concludedBy action).toList
      accepted := run.accepted ++ (run.node.acceptedBy action).toList
      popped := run.popped ++ (run.node.poppedBy action).toList }

/-- Each complete transfer is concluded once, in order; the events of the loop in
the queue are those that were offered while there was room; and each event the
queue accepts is popped once, in order, and run by a worker. -/
structure Triggered (run : TriggerRun) : Prop where
  completed_eq :
    run.completed =
      run.concluded.map Prod.fst ++ run.node.pollLoop.finishing.toList
  announced_eq :
    run.accepted.filterMap AcceptedEvent.announces =
      run.concluded.filterMap announcedIn
  announcement :
    ∀ accepted ∈ run.accepted, ∀ requestId ∈ accepted.announces,
      accepted.event.message.type = .kvTransferComplete ∧
        accepted.event.message.requestInfo.requestId = requestId
  accepted_eq :
    run.accepted.map AcceptedEvent.event =
      run.popped ++ run.node.eventQueue
  workers_eq : run.node.tasks.length = run.popped.length

/-- Each complete transfer is announced once. -/
def AnnouncedOnce (run : TriggerRun) : Prop :=
  run.completed =
    run.accepted.filterMap AcceptedEvent.announces ++
      run.node.pollLoop.finishing.toList

end TriggerRun

/-! ## What a step does -/

namespace DecodeNode

variable {node next : DecodeNode}

theorem push_of_hasRoom (event : NodeEvent) :
    (node.push event).eventQueue =
      node.eventQueue ++ if node.hasRoom then [event] else [] := by
  by_cases room : node.eventQueue.length < node.capacity.toNat
  · have notFull : ¬ node.capacity.toNat ≤ node.eventQueue.length :=
      Nat.not_le.mpr room
    simp only [push, hasRoom, if_neg notFull, decide_eq_true room, if_true]
  · have isFull : node.capacity.toNat ≤ node.eventQueue.length :=
      Nat.not_lt.mp room
    simp [push, hasRoom, isFull]

theorem push_tasks (event : NodeEvent) :
    (node.push event).tasks = node.tasks := by
  rw [push]
  split <;> rfl

/-- What a step does to the transfers that are complete and to the queue. -/
structure Triggers (node next : DecodeNode) (action : NodeAction) :
    Prop where
  finishing_eq :
    node.pollLoop.finishing.toList ++ (node.completedBy action).toList =
      ((node.concludedBy action).map Prod.fst).toList ++
        next.pollLoop.finishing.toList
  announced_eq :
    (node.acceptedBy action).bind AcceptedEvent.announces =
      (node.concludedBy action).bind announcedIn
  announcement :
    ∀ accepted ∈ node.acceptedBy action, ∀ requestId ∈ accepted.announces,
      accepted.event.message.type = .kvTransferComplete ∧
        accepted.event.message.requestInfo.requestId = requestId
  queue_eq :
    node.eventQueue ++
        ((node.acceptedBy action).map AcceptedEvent.event).toList =
      (node.poppedBy action).toList ++ next.eventQueue
  tasks_eq :
    next.tasks.length =
      node.tasks.length + (node.poppedBy action).toList.length

/-- A step that offers, takes and finishes nothing. -/
theorem Triggers.of_quiet
    {action : NodeAction}
    (completed : node.completedBy action = none)
    (concluded : node.concludedBy action = none)
    (accepted : node.acceptedBy action = none)
    (popped : node.poppedBy action = none)
    (finishing : next.pollLoop.finishing = node.pollLoop.finishing)
    (eventQueue : next.eventQueue = node.eventQueue)
    (tasks : next.tasks.length = node.tasks.length) :
    node.Triggers next action where
  finishing_eq := by
    rw [completed, concluded, finishing]
    exact List.append_nil _
  announced_eq := by
    rw [accepted, concluded]
    rfl
  announcement := by
    intro event isAccepted
    rw [accepted] at isAccepted
    cases isAccepted
  queue_eq := by
    rw [accepted, popped, eventQueue]
    exact List.append_nil _
  tasks_eq := by
    rw [popped, tasks]
    rfl

theorem triggers_receive (event : NodeEvent) :
    node.Triggers (node.push event) (.receive event) where
  finishing_eq := by
    rw [push_pollLoop]
    exact List.append_nil _
  announced_eq := by
    simp only [acceptedBy]
    split <;> rfl
  announcement := by
    intro accepted isAccepted requestId announces
    simp only [acceptedBy] at isAccepted
    split at isAccepted <;>
      cases isAccepted
    cases announces
  queue_eq := by
    rw [push_of_hasRoom]
    simp only [acceptedBy]
    split <;> rfl
  tasks_eq := by
    rw [push_tasks]
    rfl

theorem triggers_waitAndPop (popped : node.waitAndPop = some next) :
    node.Triggers next .waitAndPop := by
  obtain ⟨event, rest, isQueue, isNext⟩ := waitAndPop_eq_some popped
  rw [isNext]
  refine ⟨List.append_nil _, rfl, ?_, ?_, ?_⟩
  · intro accepted isAccepted
    cases isAccepted
  · simp only [acceptedBy, poppedBy, isQueue]
    exact List.append_nil _
  · simp only [poppedBy, isQueue, List.length_append]
    rfl

theorem triggers_work
    {index : Nat} {input : WorkerInput}
    (worked : node.work index input = some next) :
    node.Triggers next (.work index input) := by
  obtain ⟨_, _, change⟩ := work_change worked
  apply Triggers.of_quiet rfl rfl rfl rfl
  · rw [change.sameLoop.pollLoop_eq]
  · exact change.sameLoop.eventQueue_eq
  · rw [change.tasks_eq, List.length_set]

theorem triggers_poll
    {polled : Option (List Arrival)} {replenished : Bool}
    (taken : node.poll polled replenished = some next) :
    node.Triggers next (.poll polled replenished) := by
  obtain ⟨isPolling, outcome⟩ := poll_cases taken
  rcases outcome with isNext | ⟨_, _, _, isNext⟩ | ⟨_, _, _, isNext⟩ <;>
    rw [isNext] <;>
    refine Triggers.of_quiet rfl rfl rfl rfl ?_ rfl rfl <;>
    rw [isPolling] <;>
    rfl

/-! ## The sections of the loop -/

section Loop

variable {input : LoopInput}
variable {requestId : ByteString} {rest : List Arrival}

theorem triggers_resolve
    {arrival : Arrival}
    (isProcessing : node.pollLoop = .processing (arrival :: rest)) :
    node.Triggers (node.resolve arrival rest) (.advanceLoop input) := by
  have sameQueue : (node.resolve arrival rest).eventQueue = node.eventQueue := by
    simp only [resolve]
    split <;> rfl
  have sameTasks : (node.resolve arrival rest).tasks = node.tasks := by
    simp only [resolve]
    split <;> rfl
  apply Triggers.of_quiet _ _ _ rfl _ sameQueue
  · rw [sameTasks]
  · simp only [completedBy, isProcessing]
  · simp only [concludedBy, isProcessing]
  · simp only [acceptedBy, isProcessing]
  · rw [isProcessing]
    simp only [resolve]
    split <;> rfl

/-- The transfer is complete when `mark_layer_received` says so. -/
theorem triggers_mark
    {layerId : UInt16} {arrival : Arrival}
    (isResolved : node.pollLoop = .resolved requestId layerId arrival rest) :
    node.Triggers (node.mark requestId layerId arrival rest)
      (.advanceLoop input) := by
  have noConclusion : node.concludedBy (.advanceLoop input) = none := by
    simp only [concludedBy, isResolved]
  have noEvent : node.acceptedBy (.advanceLoop input) = none := by
    simp only [acceptedBy, isResolved]
  refine ⟨?_, ?_, ?_, ?_, rfl⟩
  · rw [noConclusion]
    simp only [completedBy, mark, isResolved]
    split <;> rfl
  · rw [noEvent, noConclusion]
    rfl
  · intro accepted isAccepted
    rw [noEvent] at isAccepted
    cases isAccepted
  · rw [noEvent]
    exact List.append_nil _

/-- Nothing is offered unless the fence succeeds. -/
theorem triggers_fence
    (isAllDone : node.pollLoop = .allDone requestId rest)
    (taken : node.advanceLoop input = some next) :
    node.Triggers next (.advanceLoop input) := by
  have notCompleted : node.completedBy (.advanceLoop input) = none := by
    simp only [completedBy, isAllDone]
  have noEvent : node.acceptedBy (.advanceLoop input) = none := by
    simp only [acceptedBy, isAllDone]
  simp only [advanceLoop, isAllDone] at taken
  by_cases succeeds : input.fenceSucceeds = true
  · rw [if_pos succeeds] at taken
    cases taken
    refine Triggers.of_quiet notCompleted ?_ noEvent rfl ?_ rfl rfl
    · simp only [concludedBy, isAllDone, if_pos succeeds]
    · rw [isAllDone]
      rfl
  · rw [if_neg succeeds] at taken
    cases taken
    have isConcluded :
        node.concludedBy (.advanceLoop input) =
          some (requestId, .fenceFailed) := by
      simp only [concludedBy, isAllDone, if_neg succeeds]
    refine ⟨?_, ?_, ?_, ?_, rfl⟩
    · rw [notCompleted, isConcluded, isAllDone]
      rfl
    · rw [noEvent, isConcluded]
      rfl
    · intro accepted isAccepted
      rw [noEvent] at isAccepted
      cases isAccepted
    · rw [noEvent]
      exact List.append_nil _

/-- The event is accepted if there is room for it. -/
theorem triggers_announce
    {maxTokens : Int32}
    (isAnnouncing : node.pollLoop = .announcing requestId maxTokens rest) :
    node.Triggers (node.announce requestId maxTokens input.memory rest)
      (.advanceLoop input) := by
  have isConcluded :
      node.concludedBy (.advanceLoop input) =
        some (requestId, .offered node.hasRoom) := by
    simp only [concludedBy, isAnnouncing]
  have isAccepted :
      node.acceptedBy (.advanceLoop input) =
        if node.hasRoom then
          some
            ⟨⟨⟨-1, transferMessage input.memory requestId maxTokens⟩, 0⟩,
              some requestId⟩
        else
          none := by
    simp only [acceptedBy, isAnnouncing]
  refine ⟨?_, ?_, ?_, ?_, ?_⟩
  · rw [isConcluded, isAnnouncing]
    simp only [completedBy, isAnnouncing]
    rfl
  · rw [isConcluded, isAccepted]
    cases node.hasRoom <;> rfl
  · intro accepted member tested announces
    rw [isAccepted] at member
    split at member <;>
      cases member
    cases announces
    exact ⟨rfl, rfl⟩
  · rw [isAccepted]
    simp only [announce, poppedBy, push_of_hasRoom]
    cases node.hasRoom <;> rfl
  · simp only [announce, push_tasks]
    rfl

theorem triggers_advanceLoop (taken : node.advanceLoop input = some next) :
    node.Triggers next (.advanceLoop input) := by
  cases loopSection_of_advanceLoop taken with
  | resolves isLoop =>
      exact triggers_resolve isLoop
  | marks isLoop =>
      exact triggers_mark isLoop
  | fenceSucceeds isLoop | fenceFails isLoop =>
      exact triggers_fence isLoop taken
  | batchDone isLoop | looksUp _ isLoop =>
      refine Triggers.of_quiet ?_ ?_ ?_ rfl ?_ rfl rfl
      · simp only [completedBy, isLoop]
      · simp only [concludedBy, isLoop]
      · simp only [acceptedBy, isLoop]
      · rw [isLoop]
        rfl
  | announces isLoop =>
      exact triggers_announce isLoop

end Loop

theorem triggers_step
    {action : NodeAction} (stepped : node.step action = some next) :
    node.Triggers next action := by
  obtain ⟨_, taken⟩ := step_running stepped
  cases action with
  | receive event =>
      cases taken
      exact triggers_receive event
  | waitAndPop =>
      exact triggers_waitAndPop taken
  | work index input =>
      exact triggers_work taken
  | poll polled replenished =>
      exact triggers_poll taken
  | advanceLoop input =>
      exact triggers_advanceLoop taken

end DecodeNode

theorem filterMap_toList
    {α β : Type} (keep : α → Option β) (value : Option α) :
    value.toList.filterMap keep = (value.bind keep).toList := by
  cases value with
  | none =>
      rfl
  | some element =>
      rw [Option.toList_some, Option.bind_some, List.filterMap_cons,
        List.filterMap_nil]
      cases keep element <;> rfl

namespace TriggerRun

theorem Triggered.step
    {run next : TriggerRun} {action : NodeAction}
    (triggered : run.Triggered) (stepped : run.step action = some next) :
    next.Triggered := by
  obtain ⟨node, taken, isNext⟩ := Option.map_eq_some_iff.mp stepped
  have triggers := DecodeNode.triggers_step taken
  rw [← isNext]
  refine ⟨?_, ?_, ?_, ?_, ?_⟩
  · dsimp only
    rw [triggered.completed_eq, List.append_assoc, triggers.finishing_eq,
      List.map_append, Option.toList_map, List.append_assoc]
  · dsimp only
    rw [List.filterMap_append, List.filterMap_append, triggered.announced_eq,
      filterMap_toList, triggers.announced_eq, filterMap_toList]
  · intro accepted member
    rcases List.mem_append.mp member with earlier | last
    · exact triggered.announcement accepted earlier
    · exact triggers.announcement accepted (Option.mem_toList.mp last)
  · dsimp only
    rw [List.map_append, triggered.accepted_eq, List.append_assoc,
      ← Option.toList_map, triggers.queue_eq, List.append_assoc]
  · dsimp only
    rw [triggers.tasks_eq, triggered.workers_eq, List.length_append]

theorem map_node_step (run : TriggerRun) (action : NodeAction) :
    (run.step action).map node = run.node.step action := by
  rw [step, Option.map_map]
  exact Option.map_id'

theorem Triggered.execute
    {run final : TriggerRun} {actions : List NodeAction}
    (triggered : run.Triggered)
    (ran : LabelledRuns.execute TriggerRun.step run actions = some final) :
    final.Triggered :=
  LabelledRuns.invariant_of_execute
    (fun _ _ _ stepped before => before.step stepped) ran triggered

/-- Unless the process has ended the workers get through the queue. -/
theorem empties
    {run : TriggerRun} (running : run.node.terminated = false) :
    ∃ emptied,
      LabelledRuns.execute step run
          (List.replicate run.node.eventQueue.length .waitAndPop) =
        some emptied ∧
          emptied.node.eventQueue = [] ∧
          emptied.accepted = run.accepted := by
  induction queued : run.node.eventQueue generalizing run with
  | nil =>
      exact ⟨run, rfl, queued, rfl⟩
  | cons event rest inductionHypothesis =>
      have popped :
          run.node.step .waitAndPop =
            some
              { run.node with
                eventQueue := rest
                tasks := run.node.tasks ++ [DecodeNode.taskOf event] } := by
        rw [DecodeNode.step, running]
        simp only [DecodeNode.threadStep, DecodeNode.waitAndPop, queued]
        rfl
      obtain ⟨next, taken, isNode⟩ :=
        Option.map_eq_some_iff.mp ((map_node_step run .waitAndPop).trans popped)
      have sameAccepted : next.accepted = run.accepted := by
        obtain ⟨node, _, isNext⟩ := Option.map_eq_some_iff.mp taken
        rw [← isNext]
        exact List.append_nil _
      have stillRunning : next.node.terminated = false := by
        rw [isNode]
        exact running
      have isRest : next.node.eventQueue = rest := by
        rw [isNode]
      obtain ⟨emptied, remaining, isEmpty, accepted⟩ :=
        inductionHypothesis stillRunning isRest
      refine ⟨emptied, ?_, isEmpty, accepted.trans sameAccepted⟩
      rw [List.length_cons, List.replicate_succ, LabelledRuns.execute, taken]
      exact remaining

/-- Unless the process has ended the loop concludes what is complete. -/
theorem concludes
    {run : TriggerRun} (triggered : run.Triggered)
    (running : run.node.terminated = false) {inputs : List LoopInput}
    (enough : run.node.pollLoop.remaining ≤ inputs.length) :
    ∃ count returned,
      LabelledRuns.execute step run
          ((inputs.take count).map NodeAction.advanceLoop) =
        some returned ∧
          returned.completed = returned.concluded.map Prod.fst := by
  obtain ⟨count, node, finished, done⟩ := DecodeNode.returns running enough
  obtain ⟨returned, recorded, isNode⟩ :=
    LabelledRuns.exists_execute_of_erased map_node_step finished
  have nothingLeft : returned.node.pollLoop.finishing = none := by
    rw [isNode]
    cases isLoop : node.pollLoop with
    | polling | stopped =>
        rfl
    | processing | announcing | fenced | allDone | resolved =>
        rw [isLoop] at done
        cases done
  have completed := (triggered.execute recorded).completed_eq
  rw [nothingLeft, Option.toList_none, List.append_nil] at completed
  exact ⟨count, returned, recorded, completed⟩

/-- A decode node that has just been started. -/
def start
    (orchestratorId : ByteString) (numLayers : UInt32) (capacity : UInt64)
    (engine : RDMAEngine) (layout : MemoryLayout) : TriggerRun where
  node := .start orchestratorId numLayers capacity engine layout

theorem triggered_start
    (orchestratorId : ByteString) (numLayers : UInt32) (capacity : UInt64)
    (engine : RDMAEngine) (layout : MemoryLayout) :
    (start orchestratorId numLayers capacity engine layout).Triggered where
  completed_eq := rfl
  announced_eq := rfl
  announcement := by
    intro accepted member
    cases member
  accepted_eq := rfl
  workers_eq := rfl

/-- Each complete transfer is concluded once, by the fence or by an event, and each
event the queue accepts is popped once; both happen unless the process ends. -/
theorem transfers_triggered_once
    (orchestratorId : ByteString) (numLayers : UInt32) (capacity : UInt64)
    (engine : RDMAEngine) (layout : MemoryLayout)
    {actions : List NodeAction} {final : TriggerRun}
    (run :
      LabelledRuns.execute step
          (start orchestratorId numLayers capacity engine layout) actions =
        some final) :
    final.Triggered ∧
      (final.node.terminated = false →
        (∀ inputs : List LoopInput,
          final.node.pollLoop.remaining ≤ inputs.length →
            ∃ count returned,
              LabelledRuns.execute step final
                  ((inputs.take count).map NodeAction.advanceLoop) =
                some returned ∧
                  returned.completed = returned.concluded.map Prod.fst) ∧
          ∃ emptied,
            LabelledRuns.execute step final
                (List.replicate final.node.eventQueue.length .waitAndPop) =
              some emptied ∧
                emptied.popped =
                  final.accepted.map AcceptedEvent.event) := by
  have triggered : final.Triggered :=
    (triggered_start _ _ _ _ _).execute run
  refine ⟨triggered, ?_⟩
  intro running
  refine ⟨fun inputs enough => concludes triggered running enough, ?_⟩
  obtain ⟨emptied, popped, isEmpty, sameAccepted⟩ := empties running
  have accepted := (triggered.execute popped).accepted_eq
  rw [isEmpty, List.append_nil, sameAccepted] at accepted
  exact ⟨emptied, popped, accepted.symm⟩

/-! ## A node with one request of one layer -/

/-- Slot zero is prepared, the layer arrives and is marked. -/
def sampleMarked : List NodeAction :=
  CompletionRun.samplePrepared ++
    [.poll (some [CompletionRun.sampleArrival true]) true, .advanceLoop {},
      .advanceLoop {}]

def sampleStart : TriggerRun :=
  start [0] 1 1 CompletionRun.sampleEngine { numLayers := 1 }

theorem transfers_triggered_once_sampleMarked :
    ∃ final,
      LabelledRuns.execute step sampleStart
          (sampleMarked ++
            [.advanceLoop {}, .advanceLoop {}, .advanceLoop {}]) =
        some final ∧
        final.concluded = [([10], .offered true)] ∧ final.Triggered := by
  have outcome :
      (LabelledRuns.execute step sampleStart
          (sampleMarked ++
            [.advanceLoop {}, .advanceLoop {}, .advanceLoop {}])).map
          (fun final => final.concluded) =
        some [([10], .offered true)] := by
    decide +kernel
  obtain ⟨final, run, concluded⟩ := Option.map_eq_some_iff.mp outcome
  exact ⟨final, run, concluded, (transfers_triggered_once _ _ _ _ _ run).1⟩

/-- The fence fails after the layer is marked. -/
def sampleUnfenced : List NodeAction :=
  sampleMarked ++ [.advanceLoop { fenceSucceeds := false }]

/-- The only place in the queue is taken when the event is offered. -/
def sampleCrowded : List NodeAction :=
  sampleMarked ++
    [.advanceLoop {}, .receive ⟨⟨7, .cleared⟩, 0⟩, .advanceLoop {},
      .advanceLoop {}]

/-- A complete transfer that is neither announced nor about to be. -/
theorem not_announcedOnce_of_lost
    {actions : List NodeAction}
    (observed :
      (LabelledRuns.execute step sampleStart actions).map
          (fun final =>
            (final.completed,
              final.accepted.filterMap AcceptedEvent.announces ++
                final.node.pollLoop.finishing.toList)) =
        some ([[10]], [])) :
    ∃ final,
      LabelledRuns.execute step sampleStart actions = some final ∧
        final.completed = [[10]] ∧ ¬ final.AnnouncedOnce := by
  obtain ⟨final, run, both⟩ := Option.map_eq_some_iff.mp observed
  obtain ⟨completed, lost⟩ := Prod.mk.inj both
  refine ⟨final, run, completed, ?_⟩
  intro announced
  rw [AnnouncedOnce, completed, lost] at announced
  cases announced

/-- Neither a transfer whose fence fails nor one whose event finds no room is ever
announced. -/
theorem complete_transfers_not_announced :
    (∃ final,
      LabelledRuns.execute step sampleStart sampleUnfenced = some final ∧
        final.completed = [[10]] ∧ ¬ final.AnnouncedOnce) ∧
      ∃ final,
        LabelledRuns.execute step sampleStart sampleCrowded = some final ∧
          final.completed = [[10]] ∧ ¬ final.AnnouncedOnce := by
  constructor
  · apply not_announcedOnce_of_lost
    decide +kernel
  · apply not_announcedOnce_of_lost
    decide +kernel

end TriggerRun

end RdmaKvCache
