import RdmaKvCache.Library.TaskLists
import RdmaKvCache.Orchestrator.HandlerSections
import RdmaKvCache.Orchestrator.SlotHolders

/-!
# Loads and live requests

The load of a node is meant to be the number of its active requests.  The handler
of a request increments the loads of its two nodes after the `ASSIGN_REQUEST`, and
a message that ends a request has the loads of the nodes it names decremented.

A ledger kept beside the orchestrator lists the requests that have been tracked.
A request is pending until its `ASSIGN_REQUEST` is enqueued; it is discarded when
one of its nodes has no connection.  Messages that end a request are those of the
types `DECODE_COMPLETE` and `REQUEST_FAILED` and a `PREFILL_COMPLETE_ORCHESTRATOR`
whose decode node has no connection.  A `DECODE_COMPLETE` is dropped as soon as a
worker takes it from the queue; the others are processed in the section that sets
the status.
-/

namespace RdmaKvCache

inductive RequestStage where
  | pending
  | assigned
  | discarded
  | ended
  deriving DecidableEq

/-- A request and the number of the handler that tracks it. -/
structure RequestRecord where
  call : Nat
  requestId : ByteString
  prefillNodeId : ByteString
  decodeNodeId : ByteString
  stage : RequestStage := .pending
  deriving DecidableEq

namespace RequestRecord

def nodeIds (record : RequestRecord) : List ByteString :=
  [record.prefillNodeId, record.decodeNodeId]

/-- The request has neither been discarded nor ended. -/
def isOpen (record : RequestRecord) : Bool :=
  decide (record.stage = .pending ∨ record.stage = .assigned)

/-- The nodes whose loads have to count the request, sooner or later. -/
def heldNodeIds (record : RequestRecord) : List ByteString :=
  if record.isOpen then record.nodeIds else []

/-- The handler `index` tracks the request, which is still pending. -/
def isPendingOf (index : Nat) (record : RequestRecord) : Bool :=
  decide (record.call = index ∧ record.stage = .pending)

/-- The request is known under the id and open. -/
def isOpenUnder (requestId : ByteString) (record : RequestRecord) : Bool :=
  decide (record.requestId = requestId) && record.isOpen

def withStage (stage : RequestStage) (record : RequestRecord) : RequestRecord :=
  { record with stage := stage }

end RequestRecord

/-- The requests, and the nodes whose loads still count a request that has
ended. -/
structure LoadLedger where
  requests : List RequestRecord := []
  owed : List ByteString := []
  deriving DecidableEq

namespace LoadLedger

def move
    (ledger : LoadLedger) (selected : RequestRecord → Bool)
    (stage : RequestStage) : LoadLedger :=
  { ledger with
    requests :=
      ledger.requests.map fun record =>
        if selected record then record.withStage stage else record }

def track (ledger : LoadLedger) (record : RequestRecord) : LoadLedger :=
  { ledger with requests := ledger.requests ++ [record] }

/-- The nodes of the open requests under the id. -/
def openNodeIds
    (ledger : LoadLedger) (requestId : ByteString) : List ByteString :=
  (ledger.requests.filter (RequestRecord.isOpenUnder requestId)).flatMap
    RequestRecord.heldNodeIds

/-- A message ends the requests under the id. -/
def finish (ledger : LoadLedger) (requestId : ByteString) : LoadLedger :=
  { ledger.move (RequestRecord.isOpenUnder requestId) .ended with
    owed := ledger.owed ++ ledger.openNodeIds requestId }

/-- The handler `index` goes from one program point to another. -/
def record (ledger : LoadLedger) (index : Nat) (message : Message) :
    HandlerTask → HandlerTask → LoadLedger
  | .clientRequest (.tracking routing), _ =>
      ledger.track
        { call := index
          requestId := message.requestInfo.requestId
          prefillNodeId := routing.prefillNode.nodeId
          decodeNodeId := routing.decodeNode.nodeId }
  | .clientRequest (.assigning _ _), _ =>
      ledger.move (RequestRecord.isPendingOf index) .assigned
  | .clientRequest _, .clientRequest (.discarding _) =>
      ledger.move (RequestRecord.isPendingOf index) .discarded
  | .failure _ .updatingStatus, _ =>
      ledger.finish message.requestInfo.requestId
  | .failure _ (.decrementing (nodeId :: _)), _ =>
      { ledger with owed := ledger.owed.erase nodeId }
  | _, _ => ledger

/-- The requests that are live with the node as prefill node and as decode
node. -/
def live (ledger : LoadLedger) (nodeId : ByteString) : Nat :=
  ledger.requests.countP
      (fun record =>
        decide (record.stage = .assigned ∧ record.prefillNodeId = nodeId)) +
    ledger.requests.countP
      (fun record =>
        decide (record.stage = .assigned ∧ record.decodeNodeId = nodeId))

end LoadLedger

structure LoadRun where
  system : OrchestratorSystem
  ledger : LoadLedger := {}

/-- The handler of a message about requests is running. -/
def HandlerTask.isRequestHandler : HandlerTask → Bool
  | .clientRequest _ | .prefillComplete _ | .failure _ _ => true
  | _ => false

namespace LoadRun

def start
    (orchestratorId nodeId : ByteString)
    (expectedPrefillNodes expectedDecodeNodes : Int32)
    (eventQueueSize : UInt64) : LoadRun where
  system :=
    .start orchestratorId nodeId expectedPrefillNodes expectedDecodeNodes
      eventQueueSize

/-- What the ledger is after an action that leads to `next`. -/
def recorded (run : LoadRun) (next : OrchestratorSystem) :
    OrchestratorSystemAction → LoadLedger
  | .waitAndPop =>
      match run.system.eventQueue with
      | [] => run.ledger
      | received :: _ =>
          if received.event.message.type = .decodeComplete then
            run.ledger.finish received.event.message.requestInfo.requestId
          else
            run.ledger
  | .advance index _ =>
      match run.system.calls[index]?, next.calls[index]? with
      | some call, some reached =>
          run.ledger.record index call.received.event.message call.task
            reached.task
      | _, _ => run.ledger
  | _ => run.ledger

def step (run : LoadRun) (action : OrchestratorSystemAction) : Option LoadRun :=
  (run.system.step action).map fun next =>
    { system := next, ledger := run.recorded next action }

/-- While no handler of a message about requests is running, every load is the
number of live requests. -/
def LoadsExact (run : LoadRun) : Prop :=
  (∀ call ∈ run.system.calls, call.task.isRequestHandler = false) →
    ∀ nodeId,
      (run.system.worker.requestRouter.getNodeLoad nodeId).toInt =
        run.ledger.live nodeId

/-! ## Sections that keep the account straight -/

/-- The next section of the handler `index` does what the account needs:

* a request that is discarded has not been ended;
* an increment does not overflow;
* the requests a message ends have nodes that the message names;
* a decrement takes effect exactly if the load counts a request that has
  ended. -/
def StraightSection (run : LoadRun) (index : Nat) (requestInfo : RequestInfo) :
    HandlerTask → Prop
  | .clientRequest (.lookingUpDecode tracked) =>
      run.system.worker.nodeRegistry.getNodeFd tracked.decodeNodeId = none →
        ∃ record ∈ run.ledger.requests, record.isPendingOf index = true
  | .clientRequest (.lookingUpPrefill tracked) =>
      run.system.worker.nodeRegistry.getNodeFd tracked.prefillNodeId = none →
        ∃ record ∈ run.ledger.requests, record.isPendingOf index = true
  | .clientRequest (.incrementing (nodeId :: _)) =>
      run.system.worker.requestRouter.getNodeLoad nodeId < Int32.maxValue
  | .failure _ .updatingStatus =>
      (run.ledger.openNodeIds requestInfo.requestId).Subperm
        [requestInfo.prefillNodeId, requestInfo.decodeNodeId]
  | .failure _ (.decrementing (nodeId :: _)) =>
      0 < run.system.worker.requestRouter.getNodeLoad nodeId ↔
        nodeId ∈ run.ledger.owed
  | _ => True

/-- A `DECODE_COMPLETE` that is dropped ends no request. -/
def Straight (run : LoadRun) : OrchestratorSystemAction → Prop
  | .waitAndPop =>
      ∀ received ∈ run.system.eventQueue.head?,
        received.event.message.type = .decodeComplete →
          run.ledger.openNodeIds
              received.event.message.requestInfo.requestId =
            []
  | .advance index _ =>
      ∀ call ∈ run.system.calls[index]?,
        run.StraightSection index call.received.event.message.requestInfo
          call.task
  | _ => True

instance (run : LoadRun) (index : Nat) (requestInfo : RequestInfo) :
    ∀ task, Decidable (run.StraightSection index requestInfo task)
  | .clientRequest (.lookingUpDecode _) | .clientRequest (.lookingUpPrefill _) =>
      inferInstanceAs (Decidable (_ = none → _))
  | .clientRequest (.incrementing (_ :: _)) => inferInstanceAs (Decidable (_ < _))
  | .failure _ .updatingStatus =>
      inferInstanceAs (Decidable (List.Subperm _ _))
  | .failure _ (.decrementing (_ :: _)) => inferInstanceAs (Decidable (_ ↔ _))
  | .clientRequest (.selecting _) | .clientRequest .refusing
  | .clientRequest (.tracking _) | .clientRequest (.preparing _ _)
  | .clientRequest (.assigning _ _) | .clientRequest (.incrementing [])
  | .clientRequest (.discarding _) | .failure _ .freeingSlot
  | .failure _ (.decrementing []) | .failure _ .lookingUpClient
  | .failure _ (.responding _) | .registration _ | .ready _
  | .prefillComplete _ | .blocked | .finished =>
      .isTrue trivial

instance (run : LoadRun) : ∀ action, Decidable (run.Straight action)
  | .waitAndPop =>
      inferInstanceAs
        (Decidable (∀ received ∈ run.system.eventQueue.head?, _))
  | .advance index _ =>
      inferInstanceAs (Decidable (∀ call ∈ run.system.calls[index]?, _))
  | .accept _ | .removeConnection _ | .receive _ _ => .isTrue trivial

end LoadRun

/-! ## Loads -/

namespace RequestRouter

variable {router next : RequestRouter}

theorem getNodeLoad_congr
    (loads : next.nodeLoads = router.nodeLoads) (nodeId : ByteString) :
    next.getNodeLoad nodeId = router.getNodeLoad nodeId := by
  rw [getNodeLoad, loads, getNodeLoad]

theorem toInt_incrementNodeLoad
    {nodeId : ByteString}
    (below : router.getNodeLoad nodeId < Int32.maxValue)
    (tested : ByteString) :
    ((router.incrementNodeLoad nodeId).getNodeLoad tested).toInt =
      (router.getNodeLoad tested).toInt + [nodeId].count tested := by
  by_cases same : tested = nodeId
  · have upper : (router.getNodeLoad nodeId).toInt < 2 ^ 31 - 1 :=
      Int32.lt_iff_toInt_lt.mp below
    have lower : -2 ^ 31 ≤ (router.getNodeLoad nodeId).toInt :=
      Int32.le_toInt _
    have incremented :
        (router.incrementNodeLoad nodeId).getNodeLoad nodeId =
          router.getNodeLoad nodeId + 1 := by
      simp [getNodeLoad, incrementNodeLoad]
    rw [same, incremented, List.count_singleton_self, Int32.toInt_add]
    have one : (1 : Int32).toInt = 1 :=
      rfl
    rw [one, Int.bmod_eq_of_le] <;>
      omega
  · have kept :
        (router.incrementNodeLoad nodeId).getNodeLoad tested =
          router.getNodeLoad tested := by
      simp [getNodeLoad, incrementNodeLoad, AList.lookup_insert_ne same]
    have absent : tested ∉ [nodeId] := by
      simpa using same
    rw [kept, List.count_eq_zero_of_not_mem absent]
    simp

/-- A load that is not positive is left alone. -/
theorem toInt_decrementNodeLoad
    (router : RequestRouter) (nodeId tested : ByteString) :
    ((router.decrementNodeLoad nodeId).getNodeLoad tested).toInt =
      (router.getNodeLoad tested).toInt -
        if tested = nodeId ∧ 0 < router.getNodeLoad nodeId then 1 else 0 := by
  rw [decrementNodeLoad]
  cases found : router.nodeLoads.lookup nodeId with
  | none =>
      have zero : router.getNodeLoad nodeId = 0 := by
        rw [getNodeLoad, found]
        rfl
      have notPositive :
          ¬ (tested = nodeId ∧ 0 < router.getNodeLoad nodeId) := by
        rw [zero]
        rintro ⟨_, positive⟩
        cases of_decide_eq_true positive
      rw [if_neg notPositive]
      simp
  | some load =>
      have isLoad : router.getNodeLoad nodeId = load := by
        rw [getNodeLoad, found]
        rfl
      rw [isLoad]
      by_cases positive : 0 < load
      · by_cases same : tested = nodeId
        · subst tested
          have positiveInt := Int32.lt_iff_toInt_lt.mp positive
          have decremented :
              (load - 1).toInt = load.toInt - 1 := by
            apply Int32.toInt_sub_of_le
            · decide
            · exact Int32.le_iff_toInt_le.mpr positiveInt
          simp [getNodeLoad, positive, found, decremented]
        · simp [getNodeLoad, same, positive, AList.lookup_insert_ne same]
      · simp [positive]

theorem freeSlot_nodeLoads (router : RequestRouter) (requestId : ByteString) :
    (router.freeSlot requestId).nodeLoads = router.nodeLoads := by
  rw [freeSlot]
  split
  · rfl
  · rw [freeSlotForNode]
    split
    · rfl
    · split <;> rfl

end RequestRouter

/-- A section of a selection leaves the loads alone. -/
theorem SelectState.nodeLoads_advance
    {router next : RequestRouter} {registry : NodeRegistry}
    {requestId : ByteString} {input : SelectInput}
    {state reached : SelectState}
    (advanced :
      state.advance router registry requestId input = some (next, reached)) :
    next.nodeLoads = router.nodeLoads := by
  cases section_of_advance advanced with
  | noPrefill | prefillListed | noDecode | decodeListed | returned =>
      rfl
  | prefillRefused prefillNodes chosen
  | prefillSelected prefillNodes chosen =>
      have kept :=
        (RequestRouter.SameAssignments.selectPrefillNode router prefillNodes
          input.draw).loads
      rw [chosen] at kept
      exact kept
  | noSlots prefillNode decodeNodes filtered
  | slotsFiltered prefillNode decodeNodes filtered =>
      have kept :=
        (RequestRouter.SameAssignments.nodesWithSlots router decodeNodes).loads
      rw [filtered] at kept
      exact kept
  | decodeRefused prefillNode nodesWithSlots chosen
  | decodeSelected prefillNode nodesWithSlots chosen =>
      have kept :=
        (RequestRouter.SameAssignments.selectDecodeNode router nodesWithSlots
          input.draw).loads
      rw [chosen] at kept
      exact kept
  | notAllocated prefillNode decodeNode failed =>
      rw [(RequestRouter.allocateSlotForNode_none failed).2]
      exact
        (RequestRouter.SameAssignments.initializeNodeSlots router
          decodeNode.nodeId).loads
  | slotAllocated prefillNode decodeNode succeeded =>
      obtain ⟨allocator, _, same⟩ :=
        RequestRouter.allocateSlotForNode_some succeeded
      rw [same]
      exact
        (RequestRouter.SameAssignments.initializeNodeSlots router
          decodeNode.nodeId).loads

/-! ## What a section does to the loads -/

def RequestInfo.nodeIds (requestInfo : RequestInfo) : List ByteString :=
  [requestInfo.prefillNodeId, requestInfo.decodeNodeId]

namespace HandlerTask

/-- The request that is going to be assigned or discarded. -/
def underway : HandlerTask → Option RequestInfo
  | .clientRequest (.lookingUpDecode tracked)
  | .clientRequest (.preparing _ tracked)
  | .clientRequest (.lookingUpPrefill tracked)
  | .clientRequest (.assigning _ tracked) => some tracked
  | _ => none

/-- The nodes whose loads the handler is going to increment, unless one of them
has no connection. -/
def increments (task : HandlerTask) : List ByteString :=
  match task.underway, task with
  | some tracked, _ => tracked.nodeIds
  | none, .clientRequest (.incrementing nodeIds) => nodeIds
  | _, _ => []

/-- The nodes whose loads the handler of a message is going to decrement for a
request that the message has ended. -/
def decrements (requestInfo : RequestInfo) : HandlerTask → List ByteString
  | .failure _ .freeingSlot => requestInfo.nodeIds
  | .failure _ (.decrementing nodeIds) => nodeIds
  | _ => []

/-- The handler may come to track a request. -/
def mayTrack : HandlerTask → Bool
  | .clientRequest (.selecting _) | .clientRequest (.tracking _) => true
  | _ => false

/-- The other handlers have nothing to do with loads. -/
theorem nothing_left
    {task : HandlerTask} (notRequest : task.isRequestHandler = false)
    (requestInfo : RequestInfo) :
    task.underway = none ∧ task.increments = [] ∧
      task.decrements requestInfo = [] := by
  cases task with
  | clientRequest | prefillComplete | failure =>
      cases notRequest
  | registration | ready | blocked | finished =>
      exact ⟨rfl, rfl, rfl⟩

end HandlerTask

/-- The router after a section. -/
def SectionEffect.router (worker : WorkerOrchestrator) :
    SectionEffect → RequestRouter
  | .setRouter requestRouter => requestRouter
  | _ => worker.requestRouter

theorem OrchestratorSystem.requestRouter_apply
    (system : OrchestratorSystem) (received : ReceivedEvent)
    (effect : SectionEffect) :
    (system.apply received effect).worker.requestRouter =
      effect.router system.worker := by
  cases effect <;> rfl

section Sections

variable (worker : WorkerOrchestrator) (event : Event)

/-- The section has nothing to do with loads. -/
structure HandlerTask.Quiet
    (task : HandlerTask) (effect : SectionEffect) (reached : HandlerTask) :
    Prop where
  loads : (effect.router worker).nodeLoads = worker.requestRouter.nodeLoads
  increments : reached.increments = task.increments
  decrements :
    reached.decrements event.message.requestInfo =
      task.decrements event.message.requestInfo
  underway : reached.underway = task.underway
  mayTrack : reached.mayTrack = true → task.mayTrack = true
  ledger :
    ∀ (ledger : LoadLedger) (index : Nat),
      ledger.record index event.message task reached = ledger

/-- All that a section can do to the loads and to what they have to be. -/
inductive LoadSection :
    HandlerTask → SectionEffect → HandlerTask → Prop
  | quiet
      {task : HandlerTask} {effect : SectionEffect} {reached : HandlerTask}
      (isQuiet : task.Quiet worker event effect reached) :
      LoadSection task effect reached
  | tracks
      (routing : RoutingResult) (tracked : RequestInfo)
      (sameNodes :
        tracked.nodeIds =
          [routing.prefillNode.nodeId, routing.decodeNode.nodeId]) :
      LoadSection (.clientRequest (.tracking routing)) (.trackRequest tracked)
        (.clientRequest (.lookingUpDecode tracked))
  | discardsDecode
      (tracked : RequestInfo)
      (missing : worker.nodeRegistry.getNodeFd tracked.decodeNodeId = none) :
      LoadSection (.clientRequest (.lookingUpDecode tracked)) .nothing
        (.clientRequest (.discarding tracked.requestId))
  | discardsPrefill
      (tracked : RequestInfo)
      (missing : worker.nodeRegistry.getNodeFd tracked.prefillNodeId = none) :
      LoadSection (.clientRequest (.lookingUpPrefill tracked)) .nothing
        (.clientRequest (.discarding tracked.requestId))
  | assigns
      (prefillFd : Int32) (tracked : RequestInfo) (response : Message) :
      LoadSection (.clientRequest (.assigning prefillFd tracked))
        (.enqueueResponse (.node tracked.prefillNodeId) prefillFd response)
        (.clientRequest (.incrementing tracked.nodeIds))
  | increments (nodeId : ByteString) (nodeIds : List ByteString) :
      LoadSection (.clientRequest (.incrementing (nodeId :: nodeIds)))
        (.setRouter (worker.requestRouter.incrementNodeLoad nodeId))
        (.clientRequest (.incrementing nodeIds))
  | ends
      (errorMessage : ByteString)
      (requestTracker : RequestTrackerOrchestrator) :
      LoadSection (.failure errorMessage .updatingStatus)
        (.setRequestTracker requestTracker)
        (.failure errorMessage .freeingSlot)
  | decrements
      (errorMessage nodeId : ByteString) (nodeIds : List ByteString) :
      LoadSection (.failure errorMessage (.decrementing (nodeId :: nodeIds)))
        (.setRouter (worker.requestRouter.decrementNodeLoad nodeId))
        (.failure errorMessage (.decrementing nodeIds))

variable {worker event} {input : SectionInput} {effect : SectionEffect}
variable {reached : HandlerTask}

/-- A quiet section after which the handler does not come to track a request. -/
theorem LoadSection.untracked
    {task : HandlerTask}
    (loads : (effect.router worker).nodeLoads = worker.requestRouter.nodeLoads)
    (increments : reached.increments = task.increments)
    (decrements :
      reached.decrements event.message.requestInfo =
        task.decrements event.message.requestInfo)
    (underway : reached.underway = task.underway)
    (mayNot : reached.mayTrack = false)
    (ledger :
      ∀ (ledger : LoadLedger) (index : Nat),
        ledger.record index event.message task reached = ledger) :
    LoadSection worker event task effect reached := by
  refine .quiet ⟨loads, increments, decrements, underway, ?_, ledger⟩
  intro may
  rw [mayNot] at may
  cases may

theorem loadSection_of_advance
    {task : HandlerTask}
    (advanced : task.advance worker event input = some (effect, reached)) :
    LoadSection worker event task effect reached := by
  cases handlerSection_of_advance advanced with
  | selected =>
      exact .quiet ⟨rfl, rfl, rfl, rfl, fun _ => rfl, fun _ _ => rfl⟩
  | selecting selected =>
      have kept := SelectState.nodeLoads_advance selected
      exact .quiet ⟨kept, rfl, rfl, rfl, fun _ => rfl, fun _ _ => rfl⟩
  | tracks routing =>
      exact .tracks routing _ rfl
  | decodeMissing missing =>
      exact .discardsDecode _ missing
  | prefillMissing missing =>
      exact .discardsPrefill _ missing
  | assigns prefillFd tracked =>
      exact .assigns prefillFd tracked _
  | increments nodeId nodeIds =>
      exact .increments nodeId nodeIds
  | discards requestId =>
      have kept := worker.requestRouter.freeSlot_nodeLoads requestId
      exact .untracked kept rfl rfl rfl rfl (fun _ _ => rfl)
  | setsFailed errorMessage =>
      exact .ends errorMessage _
  | freesSlot =>
      have kept :=
        worker.requestRouter.freeSlot_nodeLoads
          event.message.requestInfo.requestId
      exact .untracked kept rfl rfl rfl rfl (fun _ _ => rfl)
  | decrements errorMessage nodeId nodeIds =>
      exact .decrements errorMessage nodeId nodeIds
  | _ =>
      exact .untracked rfl rfl rfl rfl rfl (fun _ _ => rfl)

end Sections

/-! ## What a section does to the ledger -/

namespace LoadLedger

/-- How often the loads have to count a node for open requests. -/
def held (ledger : LoadLedger) (nodeId : ByteString) : Nat :=
  (ledger.requests.flatMap RequestRecord.heldNodeIds).count nodeId

variable {ledger : LoadLedger} {selected : RequestRecord → Bool}
variable {stage : RequestStage}

theorem map_call_move :
    (ledger.move selected stage).requests.map RequestRecord.call =
      ledger.requests.map RequestRecord.call := by
  rw [move, List.map_map]
  apply List.map_congr_left
  intro record _
  rw [Function.comp_apply]
  split <;> rfl

theorem pending_of_mem_move
    {record : RequestRecord} (leaves : stage ≠ .pending)
    (member : record ∈ (ledger.move selected stage).requests)
    (pending : record.stage = .pending) :
    record ∈ ledger.requests ∧ selected record = false := by
  obtain ⟨old, listed, moved⟩ := List.mem_map.mp member
  cases isSelected : selected old with
  | true =>
      rw [isSelected, if_pos rfl] at moved
      rw [← moved] at pending
      exact absurd pending leaves
  | false =>
      rw [isSelected, if_neg Bool.false_ne_true] at moved
      rw [← moved]
      exact ⟨listed, isSelected⟩

/-- Requests that are not open any more are not held. -/
theorem held_move_closed
    (ledger : LoadLedger) (selected : RequestRecord → Bool)
    (closed : stage ≠ .pending ∧ stage ≠ .assigned) (nodeId : ByteString) :
    (ledger.move selected stage).held nodeId +
        ((ledger.requests.filter selected).flatMap
          RequestRecord.heldNodeIds).count nodeId =
      ledger.held nodeId := by
  apply TaskLists.count_flatMap_map_add
  intro record _
  simp [RequestRecord.heldNodeIds, RequestRecord.isOpen,
    RequestRecord.withStage, closed]

theorem held_assign (index : Nat) (nodeId : ByteString) :
    (ledger.move (RequestRecord.isPendingOf index) .assigned).held nodeId =
      ledger.held nodeId := by
  rw [held, move]
  rw [List.flatMap_map]
  apply congrArg (List.count nodeId)
  apply List.flatMap_congr
  intro record _
  split
  · rename_i selected
    have pending := (of_decide_eq_true selected).2
    simp [RequestRecord.heldNodeIds, RequestRecord.isOpen,
      RequestRecord.withStage, RequestRecord.nodeIds, pending]
  · rfl

theorem held_track (record : RequestRecord) (nodeId : ByteString) :
    (ledger.track record).held nodeId =
      ledger.held nodeId + record.heldNodeIds.count nodeId :=
  TaskLists.count_flatMap_snoc _ record nodeId

/-- What an open request holds is owed from the moment it ends. -/
theorem held_finish (requestId nodeId : ByteString) :
    (ledger.finish requestId).held nodeId +
        (ledger.finish requestId).owed.count nodeId =
      ledger.held nodeId + ledger.owed.count nodeId := by
  have moved :
      (ledger.finish requestId).held nodeId +
          (ledger.openNodeIds requestId).count nodeId =
        ledger.held nodeId :=
    held_move_closed ledger _ (by decide) nodeId
  have added :
      (ledger.finish requestId).owed.count nodeId =
        ledger.owed.count nodeId +
          (ledger.openNodeIds requestId).count nodeId :=
    List.count_append
  omega

theorem finish_of_none
    {requestId : ByteString} (none : ledger.openNodeIds requestId = []) :
    ledger.finish requestId = ledger := by
  have notOpen :
      ∀ record ∈ ledger.requests, record.isOpenUnder requestId = false := by
    intro record listed
    by_contra isOpen
    rw [Bool.not_eq_false] at isOpen
    have empty :=
      List.flatMap_eq_nil_iff.mp none record
        (List.mem_filter.mpr ⟨listed, isOpen⟩)
    have stillOpen := (Bool.and_eq_true_iff.mp isOpen).2
    rw [RequestRecord.heldNodeIds, if_pos stillOpen] at empty
    cases empty
  have unchanged :
      ∀ record ∈ ledger.requests,
        (if record.isOpenUnder requestId then record.withStage .ended
          else record) =
          id record := by
    intro record listed
    rw [notOpen record listed, if_neg Bool.false_ne_true]
    rfl
  have same :
      (ledger.requests.map fun record =>
          if record.isOpenUnder requestId then record.withStage .ended
          else record) =
        ledger.requests :=
    (List.map_congr_left unchanged).trans (List.map_id _)
  simp only [finish, move, none, same, List.append_nil]

/-- Requests none of which is pending are held by the nodes with which they are
live. -/
theorem held_eq_live
    (noneIsPending :
      ∀ record ∈ ledger.requests, record.stage ≠ .pending)
    (nodeId : ByteString) :
    ledger.held nodeId = ledger.live nodeId := by
  rw [held, live]
  generalize ledger.requests = requests at noneIsPending ⊢
  induction requests with
  | nil =>
      rfl
  | cons record rest inductionHypothesis =>
      have restHeld :=
        inductionHypothesis fun other listed =>
          noneIsPending other (List.mem_cons_of_mem record listed)
      have notPending := noneIsPending record List.mem_cons_self
      rw [List.flatMap_cons, List.count_append, restHeld, List.countP_cons,
        List.countP_cons]
      by_cases assigned : record.stage = .assigned
      · have isOpen : record.isOpen = true :=
          decide_eq_true (Or.inr assigned)
        rw [RequestRecord.heldNodeIds, if_pos isOpen, RequestRecord.nodeIds,
          List.count_cons, List.count_singleton]
        simp only [assigned, true_and, decide_eq_true_eq, beq_iff_eq]
        omega
      · have notOpen : ¬ record.isOpen = true := by
          intro isOpen
          rcases of_decide_eq_true isOpen with pending | isAssigned
          · exact notPending pending
          · exact assigned isAssigned
        rw [RequestRecord.heldNodeIds, if_neg notOpen]
        simp [assigned]

end LoadLedger

/-! ## The account -/

namespace HandlerCall

def increments (call : HandlerCall) : List ByteString :=
  call.task.increments

def decrements (call : HandlerCall) : List ByteString :=
  call.task.decrements call.received.event.message.requestInfo

end HandlerCall

namespace LoadRun

def load (run : LoadRun) (nodeId : ByteString) : Int :=
  (run.system.worker.requestRouter.getNodeLoad nodeId).toInt

/-- How often the running handlers are going to increment the load. -/
def due (run : LoadRun) (nodeId : ByteString) : Nat :=
  (run.system.calls.flatMap HandlerCall.increments).count nodeId

/-- How often the running handlers are going to decrement the load, if it is
positive. -/
def decrementsLeft (run : LoadRun) (nodeId : ByteString) : Nat :=
  (run.system.calls.flatMap HandlerCall.decrements).count nodeId

/-- Every request in the ledger belongs to a handler of its own, which is going to
assign or to discard it while it is pending. -/
structure Located (run : LoadRun) : Prop where
  past :
    ∀ index ∈ run.ledger.requests.map RequestRecord.call,
      ∃ call,
        run.system.calls[index]? = some call ∧ call.task.mayTrack = false
  distinct : (run.ledger.requests.map RequestRecord.call).Nodup
  underway :
    ∀ record ∈ run.ledger.requests, record.stage = .pending →
      ∃ call tracked,
        run.system.calls[record.call]? = some call ∧
          call.task.underway = some tracked ∧
          tracked.nodeIds = record.nodeIds

/-- A load and the increments that are due make up what the open requests hold and
what is owed for others; a running handler settles what is owed. -/
structure Balanced (run : LoadRun) : Prop where
  account :
    ∀ nodeId,
      run.load nodeId + run.due nodeId =
        run.ledger.held nodeId + run.ledger.owed.count nodeId
  settled :
    ∀ nodeId, run.ledger.owed.count nodeId ≤ run.decrementsLeft nodeId

structure Accounted (run : LoadRun) : Prop where
  located : run.Located
  balanced : run.Balanced

theorem accounted_start
    (orchestratorId nodeId : ByteString)
    (expectedPrefillNodes expectedDecodeNodes : Int32)
    (eventQueueSize : UInt64) :
    (start orchestratorId nodeId expectedPrefillNodes expectedDecodeNodes
      eventQueueSize).Accounted where
  located :=
    { past := by
        intro index listed
        cases listed
      distinct := List.nodup_nil
      underway := by
        intro record listed
        cases listed }
  balanced := ⟨fun _ => rfl, fun _ => Nat.le_refl 0⟩

variable {run next : LoadRun}

/-! ### Actions outside the handlers -/

theorem Accounted.of_same
    (accounted : run.Accounted)
    (calls : next.system.calls = run.system.calls)
    (router :
      next.system.worker.requestRouter = run.system.worker.requestRouter)
    (ledger : next.ledger = run.ledger) :
    next.Accounted := by
  obtain ⟨⟨past, distinct, underway⟩, ⟨account, settled⟩⟩ := accounted
  refine ⟨⟨?_, ?_, ?_⟩, ⟨?_, ?_⟩⟩
  · rw [ledger, calls]
    exact past
  · rw [ledger]
    exact distinct
  · rw [ledger, calls]
    exact underway
  · intro nodeId
    rw [load, due, router, calls, ledger]
    exact account nodeId
  · intro nodeId
    rw [decrementsLeft, calls, ledger]
    exact settled nodeId

/-- A handler that starts owes nothing and is owed nothing. -/
theorem Accounted.of_started
    (accounted : run.Accounted) {received : ReceivedEvent}
    (calls :
      next.system.calls =
        run.system.calls ++ [⟨received, .first received.event.message⟩])
    (router :
      next.system.worker.requestRouter = run.system.worker.requestRouter)
    (ledger : next.ledger = run.ledger) :
    next.Accounted := by
  obtain ⟨⟨past, distinct, underway⟩, ⟨account, settled⟩⟩ := accounted
  have kept {index : Nat} {call : HandlerCall}
      (found : run.system.calls[index]? = some call) :
      next.system.calls[index]? = some call := by
    have bound := (List.getElem?_eq_some_iff.mp found).1
    rw [calls, List.getElem?_append_left bound]
    exact found
  have noIncrements :
      (HandlerTask.first received.event.message).increments = [] := by
    rw [HandlerTask.first]
    split <;> rfl
  have noDecrements :
      (HandlerTask.first received.event.message).decrements
          received.event.message.requestInfo =
        [] := by
    rw [HandlerTask.first]
    split <;> rfl
  refine ⟨⟨?_, ?_, ?_⟩, ⟨?_, ?_⟩⟩
  · intro index listed
    rw [ledger] at listed
    obtain ⟨call, found, may⟩ := past index listed
    exact ⟨call, kept found, may⟩
  · rw [ledger]
    exact distinct
  · intro record listed pending
    rw [ledger] at listed
    obtain ⟨call, tracked, found, task, same⟩ :=
      underway record listed pending
    exact ⟨call, tracked, kept found, task, same⟩
  · intro nodeId
    rw [load, due, router, calls, ledger, TaskLists.count_flatMap_snoc,
      HandlerCall.increments, noIncrements]
    exact account nodeId
  · intro nodeId
    rw [decrementsLeft, calls, ledger, TaskLists.count_flatMap_snoc,
      HandlerCall.decrements, noDecrements]
    exact settled nodeId

/-! ### Sections -/

/-- A section of the handler `index`. -/
structure Advances
    (run next : LoadRun) (index : Nat) (call : HandlerCall)
    (effect : SectionEffect) (reached : HandlerTask) : Prop where
  found : run.system.calls[index]? = some call
  calls :
    next.system.calls =
      run.system.calls.set index { call with task := reached }
  router :
    next.system.worker.requestRouter = effect.router run.system.worker
  ledger :
    next.ledger =
      run.ledger.record index call.received.event.message call.task reached

theorem advances_of_step
    {index : Nat} {input : SectionInput}
    (taken : run.step (.advance index input) = some next) :
    ∃ call effect reached,
      run.Advances next index call effect reached ∧
        LoadSection run.system.worker call.received.event call.task effect
          reached := by
  obtain ⟨system, stepped, same⟩ := Option.map_eq_some_iff.mp taken
  obtain ⟨call, effect, reached, found, advanced, isNext⟩ :=
    OrchestratorSystem.step_advance stepped
  refine ⟨call, effect, reached, ?_, loadSection_of_advance advanced⟩
  have calls :
      system.calls =
        run.system.calls.set index { call with task := reached } := by
    rw [isNext]
  have later :
      system.calls[index]? = some { call with task := reached } := by
    have bound := (List.getElem?_eq_some_iff.mp found).1
    rw [calls, List.getElem?_set_self bound]
  subst same
  refine ⟨found, calls, ?_, ?_⟩
  · rw [isNext]
    exact
      OrchestratorSystem.requestRouter_apply run.system call.received effect
  · simp only [recorded, found, later]

variable {index : Nat} {call : HandlerCall} {effect : SectionEffect}
variable {reached : HandlerTask}

theorem Advances.due_add
    (advances : run.Advances next index call effect reached)
    (nodeId : ByteString) :
    next.due nodeId + call.task.increments.count nodeId =
      run.due nodeId + reached.increments.count nodeId := by
  rw [due, due, advances.calls]
  exact
    TaskLists.count_flatMap_set_add HandlerCall.increments advances.found
      { call with task := reached } nodeId

theorem Advances.decrementsLeft_add
    (advances : run.Advances next index call effect reached)
    (nodeId : ByteString) :
    next.decrementsLeft nodeId +
        (call.task.decrements
          call.received.event.message.requestInfo).count nodeId =
      run.decrementsLeft nodeId +
        (reached.decrements
          call.received.event.message.requestInfo).count nodeId := by
  rw [decrementsLeft, decrementsLeft, advances.calls]
  exact
    TaskLists.count_flatMap_set_add HandlerCall.decrements advances.found
      { call with task := reached } nodeId

theorem Advances.getElem?_self
    (advances : run.Advances next index call effect reached) :
    next.system.calls[index]? = some { call with task := reached } := by
  have bound := (List.getElem?_eq_some_iff.mp advances.found).1
  rw [advances.calls, List.getElem?_set_self bound]

theorem Advances.getElem?_of_ne
    (advances : run.Advances next index call effect reached)
    {other : Nat} (different : other ≠ index) :
    next.system.calls[other]? = run.system.calls[other]? := by
  rw [advances.calls, List.getElem?_set_ne different.symm]

/-- Nothing has been tracked yet by a handler that may come to. -/
theorem Located.not_listed
    (located : run.Located) (found : run.system.calls[index]? = some call)
    (may : call.task.mayTrack = true) :
    index ∉ run.ledger.requests.map RequestRecord.call := by
  intro listed
  obtain ⟨other, otherFound, mayNot⟩ := located.past index listed
  rw [found] at otherFound
  cases otherFound
  rw [may] at mayNot
  cases mayNot

/-- The calls of the ledger's requests are past the point of tracking after a
section, too. -/
theorem Located.past_advance
    (located : run.Located)
    (advances : run.Advances next index call effect reached)
    (may : reached.mayTrack = true → call.task.mayTrack = true)
    {other : Nat}
    (listed : other ∈ run.ledger.requests.map RequestRecord.call) :
    ∃ later,
      next.system.calls[other]? = some later ∧ later.task.mayTrack = false := by
  by_cases same : other = index
  · subst other
    refine ⟨_, advances.getElem?_self, ?_⟩
    by_contra mayTrack
    rw [Bool.not_eq_false] at mayTrack
    exact located.not_listed advances.found (may mayTrack) listed
  · rw [advances.getElem?_of_ne same]
    exact located.past other listed

theorem Located.underway_advance
    (located : run.Located)
    (advances : run.Advances next index call effect reached)
    {record : RequestRecord} (listed : record ∈ run.ledger.requests)
    (pending : record.stage = .pending)
    (stays : record.call = index → reached.underway = call.task.underway) :
    ∃ later tracked,
      next.system.calls[record.call]? = some later ∧
        later.task.underway = some tracked ∧
        tracked.nodeIds = record.nodeIds := by
  obtain ⟨other, tracked, found, task, same⟩ :=
    located.underway record listed pending
  by_cases isIndex : record.call = index
  · rw [isIndex, advances.found] at found
    cases found
    rw [isIndex]
    refine ⟨_, tracked, advances.getElem?_self, ?_, same⟩
    exact (stays isIndex).trans task
  · rw [advances.getElem?_of_ne isIndex]
    exact ⟨other, tracked, found, task, same⟩

/-- A section that tracks no request keeps the requests located, as long as the
request of its handler is underway or no longer pending. -/
theorem Located.of_kept
    (located : run.Located)
    (advances : run.Advances next index call effect reached)
    (numbers :
      next.ledger.requests.map RequestRecord.call =
        run.ledger.requests.map RequestRecord.call)
    (may : reached.mayTrack = true → call.task.mayTrack = true)
    (pending :
      ∀ record ∈ next.ledger.requests, record.stage = .pending →
        record ∈ run.ledger.requests ∧
          (record.call = index → reached.underway = call.task.underway)) :
    next.Located where
  past := by
    intro other listed
    rw [numbers] at listed
    exact located.past_advance advances may listed
  distinct := by
    rw [numbers]
    exact located.distinct
  underway := by
    intro record listed isPending
    obtain ⟨earlier, stays⟩ := pending record listed isPending
    exact located.underway_advance advances earlier isPending stays

/-- The handler's request is assigned or discarded. -/
theorem Located.of_decided
    (located : run.Located)
    (advances : run.Advances next index call effect reached)
    {stage : RequestStage} (leaves : stage ≠ .pending)
    (ledger :
      next.ledger = run.ledger.move (RequestRecord.isPendingOf index) stage)
    (may : reached.mayTrack = false) :
    next.Located := by
  apply located.of_kept advances
  · rw [ledger]
    exact LoadLedger.map_call_move
  · intro mayTrack
    rw [may] at mayTrack
    cases mayTrack
  · intro record listed pending
    rw [ledger] at listed
    obtain ⟨earlier, notSelected⟩ :=
      LoadLedger.pending_of_mem_move leaves listed pending
    refine ⟨earlier, ?_⟩
    intro isIndex
    have selected : record.isPendingOf index = true :=
      decide_eq_true ⟨isIndex, pending⟩
    rw [selected] at notSelected
    cases notSelected

theorem Located.of_tracked
    (located : run.Located)
    (advances : run.Advances next index call effect reached)
    {record : RequestRecord} {tracked : RequestInfo}
    (ledger : next.ledger = run.ledger.track record)
    (isIndex : record.call = index)
    (may : call.task.mayTrack = true) (mayNot : reached.mayTrack = false)
    (underway : reached.underway = some tracked)
    (sameNodes : tracked.nodeIds = record.nodeIds) :
    next.Located := by
  have absent := located.not_listed advances.found may
  have numbers :
      next.ledger.requests.map RequestRecord.call =
        run.ledger.requests.map RequestRecord.call ++ [index] := by
    rw [ledger, LoadLedger.track, List.map_append, List.map_singleton, isIndex]
  refine ⟨?_, ?_, ?_⟩
  · intro other listed
    rw [numbers] at listed
    rcases List.mem_append.mp listed with earlier | last
    · exact located.past_advance advances (fun _ => may) earlier
    · rw [List.mem_singleton.mp last]
      exact ⟨_, advances.getElem?_self, mayNot⟩
  · rw [numbers, ← List.concat_eq_append]
    exact located.distinct.concat absent
  · intro other listed pending
    rw [ledger] at listed
    rcases List.mem_append.mp listed with earlier | last
    · apply located.underway_advance advances earlier pending
      intro same
      rw [← same] at absent
      exact absurd (List.mem_map_of_mem earlier) absent
    · rw [List.mem_singleton.mp last, isIndex]
      exact ⟨_, tracked, advances.getElem?_self, underway, sameNodes⟩

theorem Located.advance
    (located : run.Located)
    (advances : run.Advances next index call effect reached)
    (isSection :
      LoadSection run.system.worker call.received.event call.task effect
        reached) :
    next.Located := by
  have isLedger := advances.ledger
  rcases call with ⟨received, task⟩
  cases isSection with
  | quiet isQuiet =>
      have same := isLedger.trans (isQuiet.ledger run.ledger index)
      apply located.of_kept advances
      · rw [same]
      · exact isQuiet.mayTrack
      · intro record listed _
        rw [same] at listed
        exact ⟨listed, fun _ => isQuiet.underway⟩
  | tracks routing tracked sameNodes =>
      exact
        located.of_tracked advances isLedger rfl rfl rfl rfl sameNodes
  | discardsDecode tracked missing | discardsPrefill tracked missing =>
      exact located.of_decided advances (by decide) isLedger rfl
  | assigns prefillFd tracked response =>
      exact located.of_decided advances (by decide) isLedger rfl
  | ends errorMessage requestTracker =>
      apply located.of_kept advances
      · rw [isLedger]
        exact LoadLedger.map_call_move
      · exact id
      · intro record listed pending
        rw [isLedger] at listed
        have leaves : RequestStage.ended ≠ .pending := by
          decide
        exact
          ⟨(LoadLedger.pending_of_mem_move leaves listed pending).1,
            fun _ => rfl⟩
  | increments nodeId nodeIds | decrements errorMessage nodeId nodeIds =>
      apply located.of_kept advances
      · rw [isLedger]
        rfl
      · exact id
      · intro record listed _
        rw [isLedger] at listed
        exact ⟨listed, fun _ => rfl⟩

/-- The pending request of a handler holds the nodes of the handler's
request. -/
theorem Located.held_pending
    (located : run.Located) (found : run.system.calls[index]? = some call)
    {tracked : RequestInfo} (underway : call.task.underway = some tracked)
    (stillPending :
      ∃ record ∈ run.ledger.requests, record.isPendingOf index = true)
    (nodeId : ByteString) :
    ((run.ledger.requests.filter (RequestRecord.isPendingOf index)).flatMap
        RequestRecord.heldNodeIds).count nodeId =
      tracked.nodeIds.count nodeId := by
  obtain ⟨record, listed, isPending⟩ := stillPending
  obtain ⟨isIndex, pending⟩ := of_decide_eq_true isPending
  obtain ⟨other, sameTracked, sameFound, sameTask, sameNodes⟩ :=
    located.underway record listed pending
  rw [isIndex, found] at sameFound
  cases sameFound
  rw [underway] at sameTask
  cases sameTask
  have only :
      (run.ledger.requests.filter (RequestRecord.isPendingOf index)).Perm
        [record] := by
    have nodup := (List.Nodup.of_map _ located.distinct)
    apply
      (List.perm_ext_iff_of_nodup (nodup.filter _)
        (List.nodup_singleton record)).mpr
    intro tested
    rw [List.mem_filter, List.mem_singleton]
    constructor
    · rintro ⟨testedListed, testedPending⟩
      have sameCall : tested.call = record.call :=
        (of_decide_eq_true testedPending).1.trans isIndex.symm
      exact
        List.inj_on_of_nodup_map located.distinct testedListed listed sameCall
    · intro same
      rw [same]
      exact ⟨listed, isPending⟩
  have isOpen : record.isOpen = true :=
    decide_eq_true (Or.inl pending)
  rw [(only.flatMap_right _).count_eq, List.flatMap_singleton,
    RequestRecord.heldNodeIds, if_pos isOpen, sameNodes]

/-- The loads are the same, and so is the difference between what is held and
what is due. -/
theorem Balanced.of_loads
    (balanced : run.Balanced)
    (router :
      next.system.worker.requestRouter.nodeLoads =
        run.system.worker.requestRouter.nodeLoads)
    (account :
      ∀ nodeId,
        next.ledger.held nodeId + next.ledger.owed.count nodeId +
            run.due nodeId =
          run.ledger.held nodeId + run.ledger.owed.count nodeId +
            next.due nodeId)
    (settled :
      ∀ nodeId, next.ledger.owed.count nodeId ≤ next.decrementsLeft nodeId) :
    next.Balanced := by
  refine ⟨?_, settled⟩
  intro nodeId
  have before := balanced.account nodeId
  have difference := account nodeId
  have sameLoad : next.load nodeId = run.load nodeId := by
    rw [load, load, RequestRouter.getNodeLoad_congr router]
  omega

/-- What is owed stays settled by a section that leaves it alone. -/
theorem Balanced.settled_advance
    (balanced : run.Balanced)
    (advances : run.Advances next index call effect reached)
    (decrements :
      reached.decrements call.received.event.message.requestInfo =
        call.task.decrements call.received.event.message.requestInfo)
    (owed : next.ledger.owed = run.ledger.owed) (nodeId : ByteString) :
    next.ledger.owed.count nodeId ≤ next.decrementsLeft nodeId := by
  have left := advances.decrementsLeft_add nodeId
  have settled := balanced.settled nodeId
  rw [decrements] at left
  rw [owed]
  omega

theorem Balanced.of_quiet
    (balanced : run.Balanced)
    (advances : run.Advances next index call effect reached)
    (isQuiet :
      call.task.Quiet run.system.worker call.received.event effect reached) :
    next.Balanced := by
  have sameLedger := advances.ledger.trans (isQuiet.ledger run.ledger index)
  apply balanced.of_loads
  · rw [advances.router]
    exact isQuiet.loads
  · intro nodeId
    have due := advances.due_add nodeId
    rw [isQuiet.increments] at due
    rw [sameLedger]
    omega
  · apply balanced.settled_advance advances isQuiet.decrements
    rw [sameLedger]

/-- The handler's request is tracked and its increments become due. -/
theorem Balanced.of_tracked
    (balanced : run.Balanced) {received : ReceivedEvent}
    {routing : RoutingResult} {tracked : RequestInfo}
    (sameNodes :
      tracked.nodeIds =
        [routing.prefillNode.nodeId, routing.decodeNode.nodeId])
    (advances :
      run.Advances next index ⟨received, .clientRequest (.tracking routing)⟩
        (.trackRequest tracked)
        (.clientRequest (.lookingUpDecode tracked))) :
    next.Balanced := by
  have owed : next.ledger.owed = run.ledger.owed := by
    rw [advances.ledger]
    rfl
  apply balanced.of_loads
  · rw [advances.router]
    rfl
  · intro nodeId
    have due :
        next.due nodeId + 0 =
          run.due nodeId + tracked.nodeIds.count nodeId :=
      advances.due_add nodeId
    have held :
        next.ledger.held nodeId =
          run.ledger.held nodeId + tracked.nodeIds.count nodeId := by
      rw [advances.ledger, sameNodes]
      exact LoadLedger.held_track _ nodeId
    rw [owed]
    omega
  · exact balanced.settled_advance advances rfl owed

/-- The handler's pending request is discarded and its increments are no longer
due. -/
theorem Balanced.of_discarded
    (balanced : run.Balanced) (located : run.Located)
    {tracked : RequestInfo}
    (advances :
      run.Advances next index call .nothing
        (.clientRequest (.discarding tracked.requestId)))
    (underway : call.task.underway = some tracked)
    (ledger :
      next.ledger =
        run.ledger.move (RequestRecord.isPendingOf index) .discarded)
    (noDecrements :
      call.task.decrements call.received.event.message.requestInfo = [])
    (stillPending :
      ∃ record ∈ run.ledger.requests, record.isPendingOf index = true) :
    next.Balanced := by
  have owed : next.ledger.owed = run.ledger.owed := by
    rw [ledger]
    rfl
  have increments : call.task.increments = tracked.nodeIds := by
    rw [HandlerTask.increments]
    rw [underway]
  apply balanced.of_loads
  · rw [advances.router]
    rfl
  · intro nodeId
    have due :
        next.due nodeId + call.task.increments.count nodeId =
          run.due nodeId + 0 :=
      advances.due_add nodeId
    have released :=
      located.held_pending advances.found underway stillPending nodeId
    have closed :
        RequestStage.discarded ≠ .pending ∧
          RequestStage.discarded ≠ .assigned := by
      decide
    have held :=
      run.ledger.held_move_closed (RequestRecord.isPendingOf index) closed
        nodeId
    rw [increments] at due
    rw [← ledger, released] at held
    rw [owed]
    omega
  · exact balanced.settled_advance advances noDecrements.symm owed

/-- The handler's request is assigned, and its increments stay due. -/
theorem Balanced.of_assigned
    (balanced : run.Balanced) {received : ReceivedEvent} {prefillFd : Int32}
    {tracked : RequestInfo} {response : Message}
    (advances :
      run.Advances next index
        ⟨received, .clientRequest (.assigning prefillFd tracked)⟩
        (.enqueueResponse (.node tracked.prefillNodeId) prefillFd response)
        (.clientRequest (.incrementing tracked.nodeIds))) :
    next.Balanced := by
  have owed : next.ledger.owed = run.ledger.owed := by
    rw [advances.ledger]
    rfl
  apply balanced.of_loads
  · rw [advances.router]
    rfl
  · intro nodeId
    have due :
        next.due nodeId + tracked.nodeIds.count nodeId =
          run.due nodeId + tracked.nodeIds.count nodeId :=
      advances.due_add nodeId
    have held : next.ledger.held nodeId = run.ledger.held nodeId := by
      rw [advances.ledger]
      exact LoadLedger.held_assign index nodeId
    rw [owed]
    omega
  · exact balanced.settled_advance advances rfl owed

theorem Balanced.of_incremented
    (balanced : run.Balanced) {received : ReceivedEvent}
    {incremented : ByteString} {nodeIds : List ByteString}
    (advances :
      run.Advances next index
        ⟨received, .clientRequest (.incrementing (incremented :: nodeIds))⟩
        (.setRouter
          (run.system.worker.requestRouter.incrementNodeLoad incremented))
        (.clientRequest (.incrementing nodeIds)))
    (below :
      run.system.worker.requestRouter.getNodeLoad incremented <
        Int32.maxValue) :
    next.Balanced where
  account := by
    intro nodeId
    have before := balanced.account nodeId
    have due :
        next.due nodeId + (incremented :: nodeIds).count nodeId =
          run.due nodeId + nodeIds.count nodeId :=
      advances.due_add nodeId
    have split :
        (incremented :: nodeIds).count nodeId =
          [incremented].count nodeId + nodeIds.count nodeId := by
      rw [← List.count_append, List.singleton_append]
    have load :
        next.load nodeId = run.load nodeId + [incremented].count nodeId := by
      rw [LoadRun.load, advances.router]
      exact RequestRouter.toInt_incrementNodeLoad below nodeId
    have sameLedger : next.ledger = run.ledger :=
      advances.ledger
    rw [sameLedger]
    omega
  settled := by
    apply balanced.settled_advance advances rfl
    rw [advances.ledger]
    rfl

/-- A message ends open requests whose nodes it names. -/
theorem Balanced.of_ended
    (balanced : run.Balanced) {received : ReceivedEvent}
    {errorMessage : ByteString} {requestTracker : RequestTrackerOrchestrator}
    (advances :
      run.Advances next index
        ⟨received, .failure errorMessage .updatingStatus⟩
        (.setRequestTracker requestTracker)
        (.failure errorMessage .freeingSlot))
    (named :
      (run.ledger.openNodeIds
          received.event.message.requestInfo.requestId).Subperm
        received.event.message.requestInfo.nodeIds) :
    next.Balanced := by
  have ledger :
      next.ledger =
        run.ledger.finish received.event.message.requestInfo.requestId :=
    advances.ledger
  apply balanced.of_loads
  · rw [advances.router]
    rfl
  · intro nodeId
    have due : next.due nodeId + 0 = run.due nodeId + 0 :=
      advances.due_add nodeId
    rw [ledger, LoadLedger.held_finish]
    omega
  · intro nodeId
    have left :
        next.decrementsLeft nodeId + 0 =
          run.decrementsLeft nodeId +
            received.event.message.requestInfo.nodeIds.count nodeId :=
      advances.decrementsLeft_add nodeId
    have settled := balanced.settled nodeId
    have fewer := named.count_le nodeId
    rw [ledger, LoadLedger.finish, List.count_append]
    omega

/-- A decrement takes effect exactly if the load counts a request that has
ended. -/
theorem Balanced.of_decremented
    (balanced : run.Balanced) {received : ReceivedEvent}
    {errorMessage decremented : ByteString} {nodeIds : List ByteString}
    (advances :
      run.Advances next index
        ⟨received,
          .failure errorMessage (.decrementing (decremented :: nodeIds))⟩
        (.setRouter
          (run.system.worker.requestRouter.decrementNodeLoad decremented))
        (.failure errorMessage (.decrementing nodeIds)))
    (effective :
      0 < run.system.worker.requestRouter.getNodeLoad decremented ↔
        decremented ∈ run.ledger.owed) :
    next.Balanced := by
  have requests : next.ledger.requests = run.ledger.requests := by
    rw [advances.ledger]
    rfl
  have owed : next.ledger.owed = run.ledger.owed.erase decremented := by
    rw [advances.ledger]
    rfl
  refine ⟨?_, ?_⟩
  · intro nodeId
    have before := balanced.account nodeId
    have due : next.due nodeId + 0 = run.due nodeId + 0 :=
      advances.due_add nodeId
    have load :
        next.load nodeId =
          run.load nodeId -
            if nodeId = decremented ∧
                0 < run.system.worker.requestRouter.getNodeLoad decremented
              then 1 else 0 := by
      rw [LoadRun.load, advances.router]
      exact RequestRouter.toInt_decrementNodeLoad _ decremented nodeId
    have held : next.ledger.held nodeId = run.ledger.held nodeId := by
      rw [LoadLedger.held, requests, LoadLedger.held]
    rw [owed, load, held]
    by_cases same : nodeId = decremented
    · subst nodeId
      rw [List.count_erase_self]
      by_cases isOwed : decremented ∈ run.ledger.owed
      · have positive := List.count_pos_iff.mpr isOwed
        rw [if_pos ⟨rfl, effective.mpr isOwed⟩]
        omega
      · have none := List.count_eq_zero_of_not_mem isOwed
        rw [if_neg (fun both => isOwed (effective.mp both.2))]
        omega
    · rw [List.count_erase_of_ne same, if_neg (fun both => same both.1)]
      omega
  · intro nodeId
    have left :
        next.decrementsLeft nodeId + (decremented :: nodeIds).count nodeId =
          run.decrementsLeft nodeId + nodeIds.count nodeId :=
      advances.decrementsLeft_add nodeId
    have settled := balanced.settled nodeId
    rw [owed]
    by_cases same : nodeId = decremented
    · subst nodeId
      rw [List.count_erase_self]
      rw [List.count_cons_self] at left
      omega
    · rw [List.count_erase_of_ne same]
      rw [List.count_cons_of_ne (Ne.symm same)] at left
      omega

theorem Balanced.advance
    (balanced : run.Balanced) (located : run.Located)
    (advances : run.Advances next index call effect reached)
    (isSection :
      LoadSection run.system.worker call.received.event call.task effect
        reached)
    (straight :
      run.StraightSection index call.received.event.message.requestInfo
        call.task) :
    next.Balanced := by
  have isLedger := advances.ledger
  rcases call with ⟨received, task⟩
  cases isSection with
  | quiet isQuiet =>
      exact balanced.of_quiet advances isQuiet
  | tracks routing tracked sameNodes =>
      exact balanced.of_tracked sameNodes advances
  | discardsDecode tracked missing | discardsPrefill tracked missing =>
      exact
        balanced.of_discarded located advances rfl isLedger rfl
          (straight missing)
  | assigns prefillFd tracked response =>
      exact balanced.of_assigned advances
  | increments nodeId nodeIds =>
      exact balanced.of_incremented advances straight
  | ends errorMessage requestTracker =>
      exact balanced.of_ended advances straight
  | decrements errorMessage nodeId nodeIds =>
      exact balanced.of_decremented advances straight

/-! ### Runs -/

theorem Accounted.step
    {action : OrchestratorSystemAction}
    (taken : run.step action = some next) (straight : run.Straight action)
    (accounted : run.Accounted) :
    next.Accounted := by
  cases action with
  | accept fd | removeConnection fd =>
      obtain ⟨system, stepped, same⟩ := Option.map_eq_some_iff.mp taken
      subst same
      simp only [OrchestratorSystem.step] at stepped
      split at stepped <;>
        cases stepped
      exact accounted.of_same rfl rfl rfl
  | receive fd message =>
      obtain ⟨system, stepped, same⟩ := Option.map_eq_some_iff.mp taken
      obtain ⟨connection, _, isSystem⟩ := Option.map_eq_some_iff.mp stepped
      subst same isSystem
      exact accounted.of_same rfl rfl rfl
  | waitAndPop =>
      obtain ⟨system, stepped, same⟩ := Option.map_eq_some_iff.mp taken
      subst same
      simp only [OrchestratorSystem.step] at stepped
      split at stepped
      · cases stepped
      · rename_i received rest queue
        cases stepped
        refine accounted.of_started rfl rfl ?_
        simp only [recorded, queue]
        split
        · rename_i isComplete
          apply LoadLedger.finish_of_none
          apply straight received _ isComplete
          rw [queue]
          rfl
        · rfl
  | advance index input =>
      obtain ⟨call, effect, reached, advances, isSection⟩ :=
        advances_of_step taken
      have straightSection := straight call advances.found
      exact
        ⟨accounted.located.advance advances isSection,
          accounted.balanced.advance accounted.located advances isSection
            straightSection⟩

/-- With no handler of a message about requests running, nothing is due and
nothing is owed. -/
theorem Accounted.loadsExact (accounted : run.Accounted) : run.LoadsExact := by
  intro idle nodeId
  have noIncrements :
      run.system.calls.flatMap HandlerCall.increments = [] := by
    apply List.flatMap_eq_nil_iff.mpr
    intro call listed
    exact (HandlerTask.nothing_left (idle call listed)
        call.received.event.message.requestInfo).2.1
  have noDecrements :
      run.system.calls.flatMap HandlerCall.decrements = [] := by
    apply List.flatMap_eq_nil_iff.mpr
    intro call listed
    exact (HandlerTask.nothing_left (idle call listed) _).2.2
  have noneIsPending :
      ∀ record ∈ run.ledger.requests, record.stage ≠ .pending := by
    intro record listed pending
    obtain ⟨call, tracked, found, underway, _⟩ :=
      accounted.located.underway record listed pending
    have notRequest := idle call (List.mem_of_getElem? found)
    rw [(HandlerTask.nothing_left notRequest tracked).1] at underway
    cases underway
  have account := accounted.balanced.account nodeId
  have settled := accounted.balanced.settled nodeId
  rw [due, noIncrements, List.count_nil,
    LoadLedger.held_eq_live noneIsPending nodeId] at account
  rw [decrementsLeft, noDecrements, List.count_nil] at settled
  change run.load nodeId = _
  omega

/-- As long as every step is straight, the loads are the numbers of live requests
whenever no handler of a message about requests is running. -/
theorem loads_exact_of_straight
    (orchestratorId nodeId : ByteString)
    (expectedPrefillNodes expectedDecodeNodes : Int32)
    (eventQueueSize : UInt64) {actions : List OrchestratorSystemAction}
    (straight :
      LabelledRuns.Meets step Straight
        (start orchestratorId nodeId expectedPrefillNodes expectedDecodeNodes
          eventQueueSize)
        actions) :
    LabelledRuns.Throughout step LoadsExact
      (start orchestratorId nodeId expectedPrefillNodes expectedDecodeNodes
        eventQueueSize)
      actions :=
  LabelledRuns.throughout_of_meets
    (fun _ _ _ taken straight accounted => accounted.step taken straight)
    (fun _ accounted => accounted.loadsExact) straight
    (accounted_start orchestratorId nodeId expectedPrefillNodes
      expectedDecodeNodes eventQueueSize)

/-! ## Requests that fail -/

open OrchestratorSystem

/-- The orchestrator of one prefill and one decode node. -/
def sampleLoads : LoadRun :=
  start [0] [0] 1 1 16

/-- The handler `index` assigns a request to the nodes `1` and `2` and returns. -/
def assignedBy (index : Nat) (requestId : ByteString) :
    List OrchestratorSystemAction :=
  sampleReceived 7 (sampleRequest .clientRequest requestId) ++
    sampleSelected index 12

/-- A node reports that the request has failed. -/
def failedBy (index : Nat) (requestId : ByteString) :
    List OrchestratorSystemAction :=
  sampleReceived 6 (sampleRequest .requestFailed requestId) ++
    sampleSections index 7 [] []

/-- The request `10` fails and is reported a second time before the request `11`
is assigned. -/
def failedBefore : List OrchestratorSystemAction :=
  sampleRegistered ++ assignedBy 2 [10] ++ failedBy 3 [10] ++
    failedBy 4 [10] ++ assignedBy 5 [11]

/-- Both nodes report that the request `10` has failed while the request `11` is
live. -/
def failedTwice : List OrchestratorSystemAction :=
  sampleRegistered ++ assignedBy 2 [10] ++ assignedBy 3 [11] ++
    failedBy 4 [10] ++ failedBy 5 [10]

/-- The request `10` fails before its handler has incremented the loads. -/
def failedEarly : List OrchestratorSystemAction :=
  sampleRegistered ++
    sampleReceived 7 (sampleRequest .clientRequest [10]) ++
    sampleSelected 2 9 ++ failedBy 3 [10] ++ sampleSections 2 3 [] []

/-- The request `10` is decoded. -/
def decoded : List OrchestratorSystemAction :=
  sampleRegistered ++ assignedBy 2 [10] ++
    sampleReceived 6 (sampleRequest .decodeComplete [10])

/-- Whether a handler of a message about requests is running, the load of the
prefill node and the requests that are live with it. -/
def observed (run : LoadRun) : Bool × Int32 × Nat :=
  (run.system.calls.any fun call => call.task.isRequestHandler,
    run.system.worker.requestRouter.getNodeLoad [1], run.ledger.live [1])

theorem not_exact_of_observed
    {actions : List OrchestratorSystemAction} {load : Int32} {live : Nat}
    (outcome :
      (LabelledRuns.execute step sampleLoads actions).map observed =
        some (false, load, live))
    (differs : load.toInt ≠ live) :
    ∃ final,
      LabelledRuns.execute step sampleLoads actions = some final ∧
        final.observed = (false, load, live) ∧ ¬ final.LoadsExact := by
  obtain ⟨final, run, isObserved⟩ := Option.map_eq_some_iff.mp outcome
  refine ⟨final, run, isObserved, ?_⟩
  simp only [observed, Prod.mk.injEq] at isObserved
  obtain ⟨idle, isLoad, isLive⟩ := isObserved
  intro exactly
  have noneRunning :
      ∀ call ∈ final.system.calls, call.task.isRequestHandler = false := by
    intro call listed
    have notAny := List.any_eq_false.mp idle call listed
    exact Bool.eq_false_of_not_eq_true notAny
  have same := exactly noneRunning [1]
  rw [isLoad, isLive] at same
  exact differs same

theorem loads_exact_of_straight_failedBefore :
    (∃ final,
      LabelledRuns.execute step sampleLoads failedBefore = some final ∧
        final.observed = (false, 1, 1)) ∧
      LabelledRuns.Throughout step LoadsExact sampleLoads failedBefore := by
  have outcome :
      (LabelledRuns.execute step sampleLoads failedBefore).map observed =
        some (false, 1, 1) := by
    decide +kernel
  have straight :
      LabelledRuns.Meets step Straight (start [0] [0] 1 1 16)
        failedBefore := by
    decide +kernel
  exact
    ⟨Option.map_eq_some_iff.mp outcome,
      loads_exact_of_straight [0] [0] 1 1 16 straight⟩

/-- A load is too low once both nodes have reported a failure, and too high once
a request has failed early or has been decoded. -/
theorem loads_drift :
    (∃ final,
      LabelledRuns.execute step sampleLoads failedTwice = some final ∧
        final.observed = (false, 0, 1) ∧ ¬ final.LoadsExact) ∧
      (∃ final,
        LabelledRuns.execute step sampleLoads failedEarly = some final ∧
          final.observed = (false, 1, 0) ∧ ¬ final.LoadsExact) ∧
      ∃ final,
        LabelledRuns.execute step sampleLoads decoded = some final ∧
          final.observed = (false, 1, 0) ∧ ¬ final.LoadsExact := by
  refine
    ⟨not_exact_of_observed ?_ (by decide),
      not_exact_of_observed ?_ (by decide),
      not_exact_of_observed ?_ (by decide)⟩ <;>
    decide +kernel

end LoadRun

end RdmaKvCache
