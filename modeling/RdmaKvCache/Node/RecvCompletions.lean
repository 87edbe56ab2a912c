import RdmaKvCache.Library.LabelledRuns
import RdmaKvCache.Node.DecodeNode

/-!
# Fate of the receive completions

`poll_recv_cq` takes completions off the queue before it looks at them, and drops
the whole batch when one of them has failed or when the receive work requests
cannot be posted again once too often.  A run of a decode node records each
successful completion that is taken, and for each one the loop is done with the
request that its sequence number stood for, if any.
-/

namespace RdmaKvCache

open RequestTrackerLayer

/-- The call drops the completions it has taken. -/
theorem RDMAEngine.pollRecvCq_eq_none_iff
    (engine : RDMAEngine) (polled : List RecvCompletion) (replenished : Bool) :
    (engine.pollRecvCq (some polled) replenished).1 = none ↔
      (∃ completion ∈ polled, completion.success = false) ∨
        polled ≠ [] ∧ replenished = false ∧
          maxReplenishFailures ≤ engine.recvWrReplenishFailures + 1 := by
  unfold pollRecvCq
  dsimp only
  by_cases failed : ∃ completion ∈ polled, completion.success = false
  · have someFailed :
        (polled.any fun completion => !completion.success) = true := by
      simpa using failed
    rw [if_pos someFailed]
    exact iff_of_true rfl (Or.inl failed)
  · have noneFailed :
        ¬ (polled.any fun completion => !completion.success) = true := by
      simpa using failed
    rw [if_neg noneFailed]
    simp only [failed, false_or]
    cases polled with
    | nil =>
        simp
    | cons completion rest =>
        cases replenished
        · simp only [List.isEmpty_cons, Bool.false_eq_true, if_false]
          split <;>
            rename_i tooOften <;>
            simp [tooOften]
        · simp

/-- A completion the loop is done with, and the request that its sequence number
stands for when the loop looks it up or drops it. -/
structure CompletionFate where
  arrival : Arrival
  requestId : Option ByteString
  deriving DecidableEq

/-- The call of `mark_layer_received` that a completion is due. -/
def CompletionFate.mark (hostOrder : ByteOrders.ByteOrder) (fate : CompletionFate) :
    Option (ByteString × UInt16 × Arrival) :=
  fate.requestId.map fun requestId =>
    (requestId,
      (decodeLayerId (fate.arrival.completion.immData hostOrder)).2,
      fate.arrival)

/-! ## What a step takes and decides -/

namespace DecodeNode

/-- The request the sequence number of a completion stands for. -/
def requestOf (node : DecodeNode) (arrival : Arrival) : Option ByteString :=
  node.tracker.seqToRequest.lookup
    (decodeLayerId (arrival.completion.immData node.engine.hostOrder)).1

def fate (node : DecodeNode) (arrival : Arrival) : CompletionFate :=
  ⟨arrival, node.requestOf arrival⟩

/-- The successful completions of a batch. -/
def successes (polled : Option (List Arrival)) : List Arrival :=
  (polled.getD []).filter fun arrival => arrival.completion.success

/-- The successful completions that a poll takes off the queue. -/
def takenBy (node : DecodeNode) : NodeAction → List Arrival
  | .poll polled _ =>
      if node.engine.rdmaFatalError then [] else successes polled
  | _ => []

/-- The completions that are looked up, or dropped by a poll. -/
def decidedBy (node : DecodeNode) : NodeAction → List Arrival
  | .poll polled replenished =>
      if node.engine.rdmaFatalError then
        []
      else
        match
          (node.engine.pollRecvCq (polled.map fun arrivals =>
            arrivals.map Arrival.completion) replenished).1
        with
        | none => successes polled
        | some _ => []
  | .advanceLoop _ => node.pollLoop.looking.toList
  | _ => []

/-- The calls of `mark_layer_received`, the oldest first. -/
def marks (node : DecodeNode) : List (ByteString × UInt16 × Arrival) :=
  node.history.reverse.filterMap fun
    | .marked requestId layerId arrival _ => some (requestId, layerId, arrival)
    | _ => none

/-- The call of `mark_layer_received` a step decides on. -/
def calledBy (node : DecodeNode) :
    NodeAction → List (ByteString × UInt16 × Arrival)
  | .advanceLoop _ =>
      node.pollLoop.looking.toList.filterMap fun arrival =>
        let (seqNum, layerId) :=
          decodeLayerId (arrival.completion.immData node.engine.hostOrder)
        let requestId := node.tracker.resolveSeqNum seqNum
        if requestId = [] then none else some (requestId, layerId, arrival)
  | _ => []

section Steps

variable {node next : DecodeNode}

/-- What a step does to the batch and to the calls. -/
structure Decides (node next : DecodeNode) (action : NodeAction) : Prop where
  hostOrder_eq : next.engine.hostOrder = node.engine.hostOrder
  rest_eq :
    node.pollLoop.rest ++ node.takenBy action =
      node.decidedBy action ++ next.pollLoop.rest
  marks_eq :
    next.marks ++ next.pollLoop.marking.toList =
      node.marks ++ node.pollLoop.marking.toList ++ node.calledBy action

/-- The other threads leave the batch and the calls alone. -/
theorem Decides.of_sameLoop
    {action : NodeAction} (engine : next.engine = node.engine)
    (pollLoop : next.pollLoop = node.pollLoop)
    (marks : next.marks = node.marks)
    (taken : node.takenBy action = []) (decided : node.decidedBy action = [])
    (called : node.calledBy action = []) :
    node.Decides next action where
  hostOrder_eq := by rw [engine]
  rest_eq := by rw [taken, decided, pollLoop, List.append_nil, List.nil_append]
  marks_eq := by rw [called, marks, pollLoop, List.append_nil]

theorem marks_of_history
    {record : NodeRecord}
    (history : next.history = record :: node.history)
    (notMark : ∀ requestId layerId arrival accepted,
      record ≠ .marked requestId layerId arrival accepted) :
    next.marks = node.marks := by
  unfold marks
  rw [history, List.reverse_cons, List.filterMap_append]
  cases record with
  | marked requestId layerId arrival accepted =>
      exact absurd rfl (notMark requestId layerId arrival accepted)
  | added | removed | lost | discarded | pushed =>
      exact List.append_nil _

theorem decides_work
    {index : Nat} {input : WorkerInput}
    (worked : node.work index input = some next) :
    node.Decides next (.work index input) := by
  obtain ⟨task, reached, change⟩ := work_change worked
  have marks : next.marks = node.marks := by
    cases change.change with
    | unchanged _ _ history =>
        unfold DecodeNode.marks
        rw [history]
    | stateUpdated _ _ _ _ history =>
        unfold DecodeNode.marks
        rw [history]
    | requestAdded _ _ _ _ history =>
        apply marks_of_history history
        intro requestId layerId arrival accepted isMark
        cases isMark
    | requestRemoved _ _ history =>
        apply marks_of_history history
        intro requestId layerId arrival accepted isMark
        cases isMark
  exact
    .of_sameLoop change.sameLoop.engine_eq change.sameLoop.pollLoop_eq marks
      rfl rfl rfl

theorem pollRecvCq_some
    {engine after : RDMAEngine} {polled : Option (List Arrival)}
    {replenished : Bool} {handedOn : List RecvCompletion}
    (succeeded :
      engine.pollRecvCq (polled.map fun arrivals =>
          arrivals.map Arrival.completion) replenished =
        (some handedOn, after)) :
    successes polled = polled.getD [] := by
  apply List.filter_eq_self.mpr
  intro arrival member
  cases polled with
  | none =>
      cases member
  | some arrivals =>
      exact
        RDMAEngine.pollRecvCq_success succeeded (List.mem_map_of_mem member)

theorem decides_poll
    {polled : Option (List Arrival)} {replenished : Bool}
    (taken : node.poll polled replenished = some next) :
    node.Decides next (.poll polled replenished) := by
  unfold poll at taken
  split at taken
  · rename_i isPolling
    by_cases fatal : node.engine.rdmaFatalError = true
    · rw [if_pos fatal] at taken
      cases taken
      refine ⟨rfl, ?_, ?_⟩
      · simp only [takenBy, decidedBy, if_pos fatal, isPolling]
        rfl
      · simp [isPolling, calledBy, PollLoop.marking, marks]
    · rw [if_neg fatal] at taken
      have kept :=
        RDMAEngine.pollRecvCq_hostOrder node.engine
          (polled.map fun arrivals => arrivals.map Arrival.completion)
          replenished
      split at taken
      · rename_i engine dropped
        rw [dropped] at kept
        cases taken
        refine ⟨kept, ?_, ?_⟩
        · simp only [takenBy, decidedBy, if_neg fatal, dropped, isPolling,
            PollLoop.rest, List.append_nil, List.nil_append]
        · have sameMarks :
              { node with
                engine := engine
                history := .lost (polled.getD []) :: node.history }.marks =
                node.marks := by
            apply marks_of_history rfl
            intro requestId layerId arrival accepted isMark
            cases isMark
          rw [sameMarks]
          exact (List.append_nil _).symm
      · rename_i handedOn engine succeeded
        rw [succeeded] at kept
        cases taken
        refine ⟨kept, ?_, ?_⟩
        · simp only [takenBy, decidedBy, if_neg fatal, succeeded, isPolling,
            PollLoop.rest, List.nil_append]
          exact pollRecvCq_some succeeded
        · simp [isPolling, calledBy, PollLoop.marking, marks]
  · cases taken

theorem decides_resolve
    {arrival : Arrival} {rest : List Arrival} {input : LoopInput}
    (isProcessing : node.pollLoop = .processing (arrival :: rest)) :
    node.Decides (node.resolve arrival rest) (.advanceLoop input) := by
  unfold resolve
  dsimp only
  split
  · rename_i noRequest
    have sameMarks :
        { node with
          pollLoop := .processing rest
          history := .discarded arrival :: node.history }.marks =
          node.marks := by
      apply marks_of_history rfl
      intro requestId layerId marked accepted isMark
      cases isMark
    refine ⟨rfl, ?_, ?_⟩
    · simp [takenBy, decidedBy, isProcessing, PollLoop.rest, PollLoop.looking]
    · rw [sameMarks]
      simp [calledBy, isProcessing, PollLoop.marking, PollLoop.looking,
        noRequest]
  · rename_i isRequest
    refine ⟨rfl, ?_, ?_⟩
    · simp [takenBy, decidedBy, isProcessing, PollLoop.rest, PollLoop.looking]
    · simp [calledBy, isProcessing, PollLoop.marking, PollLoop.looking,
        isRequest, marks]

theorem decides_mark
    {requestId : ByteString} {layerId : UInt16} {arrival : Arrival}
    {rest : List Arrival} {input : LoopInput}
    (isResolved : node.pollLoop = .resolved requestId layerId arrival rest) :
    node.Decides (node.mark requestId layerId arrival rest)
      (.advanceLoop input) := by
  unfold mark
  dsimp only
  refine ⟨rfl, ?_, ?_⟩
  · simp only [takenBy, decidedBy, isResolved]
    split <;>
      simp [PollLoop.rest, PollLoop.looking]
  · simp only [calledBy, isResolved]
    split <;>
      simp [PollLoop.marking, PollLoop.looking, marks]

theorem decides_advanceLoop
    {input : LoopInput} (taken : node.advanceLoop input = some next) :
    node.Decides next (.advanceLoop input) := by
  cases loopSection_of_advanceLoop taken with
  | resolves isLoop =>
      exact decides_resolve isLoop
  | marks isLoop =>
      exact decides_mark isLoop
  | batchDone isLoop | fenceSucceeds isLoop | fenceFails isLoop
  | looksUp _ isLoop =>
      refine ⟨rfl, ?_, ?_⟩ <;>
        simp [takenBy, decidedBy, calledBy, isLoop, PollLoop.rest,
          PollLoop.marking, PollLoop.looking, marks]
  | announces isLoop =>
      refine ⟨?_, ?_, ?_⟩ <;>
        simp [announce, takenBy, decidedBy, calledBy, isLoop, PollLoop.rest,
          PollLoop.marking, PollLoop.looking, marks]

theorem decides_step
    {action : NodeAction} (stepped : node.step action = some next) :
    node.Decides next action := by
  obtain ⟨_, taken⟩ := step_running stepped
  cases action with
  | receive event =>
      cases taken
      apply Decides.of_sameLoop (push_engine _ _) (push_pollLoop _ _) _
        rfl rfl rfl
      unfold marks
      rw [push_history]
  | waitAndPop =>
      obtain ⟨event, rest, _, isNext⟩ := waitAndPop_eq_some taken
      rw [isNext]
      exact .of_sameLoop rfl rfl rfl rfl rfl rfl
  | work index input =>
      exact decides_work taken
  | poll polled replenished =>
      exact decides_poll taken
  | advanceLoop input =>
      exact decides_advanceLoop taken

end Steps

end DecodeNode

structure CompletionRun where
  node : DecodeNode
  taken : List Arrival := []
  fates : List CompletionFate := []

namespace CompletionRun

def step (run : CompletionRun) (action : NodeAction) : Option CompletionRun :=
  (run.node.step action).map fun next =>
    { node := next
      taken := run.taken ++ run.node.takenBy action
      fates :=
        run.fates ++ (run.node.decidedBy action).map run.node.fate }

/-- All completions taken so far have been decided in the order in which they were
taken, but for the rest of the batch; and those with a known sequence number, and
no others, have been passed to `mark_layer_received`, in this order and each of
them once. -/
structure PassedInOrder
    (hostOrder : ByteOrders.ByteOrder) (run : CompletionRun) : Prop where
  hostOrder_eq : run.node.engine.hostOrder = hostOrder
  taken_eq :
    run.taken =
      run.fates.map CompletionFate.arrival ++ run.node.pollLoop.rest
  marks_eq :
    run.node.marks ++ run.node.pollLoop.marking.toList =
      run.fates.filterMap (CompletionFate.mark hostOrder)

/-- No batch that is dropped holds a successful completion with a known sequence
number, and none stands for a request without a name. -/
def NothingKnownDropped (run : CompletionRun) : NodeAction → Prop
  | .poll polled replenished =>
      run.node.engine.rdmaFatalError = false →
        ∀ arrival ∈ DecodeNode.successes polled,
          run.node.requestOf arrival ≠ none →
            (∀ other ∈ polled.getD [], other.completion.success = true) ∧
              (replenished = true ∨
                run.node.engine.recvWrReplenishFailures + 1 <
                  RDMAEngine.maxReplenishFailures)
  | .advanceLoop _ =>
      ∀ arrival ∈ run.node.pollLoop.looking,
        run.node.requestOf arrival ≠ some []
  | _ => True

instance (run : CompletionRun) :
    ∀ action, Decidable (run.NothingKnownDropped action)
  | .poll _ _ =>
      inferInstanceAs (Decidable (_ = false → ∀ _ ∈ _, _ → _ ∧ _))
  | .advanceLoop _ => inferInstanceAs (Decidable (∀ _ ∈ _, _))
  | .receive _ => .isTrue trivial
  | .waitAndPop => .isTrue trivial
  | .work _ _ => .isTrue trivial

/-! ## A step that loses nothing -/

theorem mark_fate_eq_none_iff (node : DecodeNode) (arrival : Arrival) :
    (node.fate arrival).mark node.engine.hostOrder = none ↔
      node.requestOf arrival = none :=
  Option.map_eq_none_iff

/-- The batch is dropped, or every completion of it is successful and the receive
work requests do not fail once too often. -/
theorem pollRecvCq_dropped_iff
    {engine : RDMAEngine} {arrivals : List Arrival} {arrival : Arrival}
    {replenished : Bool} (member : arrival ∈ arrivals) :
    (engine.pollRecvCq (some (arrivals.map Arrival.completion))
          replenished).1 = none ↔
      ¬ ((∀ other ∈ arrivals, other.completion.success = true) ∧
          (replenished = true ∨
            engine.recvWrReplenishFailures + 1 <
              RDMAEngine.maxReplenishFailures)) := by
  have nonempty : arrivals.map Arrival.completion ≠ [] := by
    intro empty
    rw [List.map_eq_nil_iff.mp empty] at member
    cases member
  rw [RDMAEngine.pollRecvCq_eq_none_iff, not_and_or, not_or, Int32.not_lt,
    Bool.not_eq_true]
  have someFailed :
      (∃ completion ∈ arrivals.map Arrival.completion,
          completion.success = false) ↔
        ¬ ∀ other ∈ arrivals, other.completion.success = true := by
    simp
  rw [someFailed]
  simp only [nonempty, ne_eq, not_false_eq_true, true_and]

theorem called_iff_poll
    {run : CompletionRun} {polled : Option (List Arrival)}
    {replenished : Bool} :
    run.node.calledBy (.poll polled replenished) =
        ((run.node.decidedBy (.poll polled replenished)).map
          run.node.fate).filterMap
            (CompletionFate.mark run.node.engine.hostOrder) ↔
      run.NothingKnownDropped (.poll polled replenished) := by
  unfold NothingKnownDropped
  simp only [DecodeNode.calledBy, DecodeNode.decidedBy]
  by_cases fatal : run.node.engine.rdmaFatalError = true
  · simp [fatal]
  · have notFatal : run.node.engine.rdmaFatalError = false := by
      simpa using fatal
    rw [if_neg fatal]
    cases polled with
    | none =>
        simp [RDMAEngine.pollRecvCq, DecodeNode.successes]
    | some arrivals =>
        simp only [notFatal, forall_const, Option.map_some]
        have among (arrival : Arrival)
            (success : arrival ∈ DecodeNode.successes (some arrivals)) :
            arrival ∈ arrivals :=
          (List.mem_filter.mp success).1
        cases outcome :
            (run.node.engine.pollRecvCq
              (some (arrivals.map Arrival.completion)) replenished).1 with
        | none =>
            rw [eq_comm, List.filterMap_eq_nil_iff]
            constructor
            · intro noCalls arrival success known
              have noCall :=
                noCalls _ (List.mem_map_of_mem (f := run.node.fate) success)
              exact
                absurd ((mark_fate_eq_none_iff run.node arrival).mp noCall)
                  known
            · intro nothingKnown fate decided
              obtain ⟨arrival, success, isFate⟩ := List.mem_map.mp decided
              rw [← isFate, mark_fate_eq_none_iff]
              by_contra known
              have isDropped :=
                (pollRecvCq_dropped_iff (among arrival success)).mp outcome
              exact isDropped (nothingKnown arrival success known)
        | some handedOn =>
            apply iff_of_true rfl
            intro arrival success _
            by_contra isDropped
            have notHanded :=
              (pollRecvCq_dropped_iff (among arrival success)).mpr isDropped
            rw [outcome] at notHanded
            cases notHanded

theorem called_iff_advanceLoop
    {run : CompletionRun} {input : LoopInput} :
    run.node.calledBy (.advanceLoop input) =
        ((run.node.decidedBy (.advanceLoop input)).map
          run.node.fate).filterMap
            (CompletionFate.mark run.node.engine.hostOrder) ↔
      run.NothingKnownDropped (.advanceLoop input) := by
  unfold NothingKnownDropped
  simp only [DecodeNode.calledBy, DecodeNode.decidedBy]
  cases run.node.pollLoop.looking with
  | none =>
      simp
  | some arrival =>
      simp only [Option.toList_some, List.map_singleton, Option.mem_def,
        Option.some.injEq, forall_eq', RequestTrackerLayer.resolveSeqNum]
      cases isRequest : run.node.requestOf arrival with
      | none =>
          have notFound := isRequest
          unfold DecodeNode.requestOf at notFound
          simp [DecodeNode.fate, CompletionFate.mark, isRequest, notFound]
      | some requestId =>
          have found := isRequest
          unfold DecodeNode.requestOf at found
          cases requestId with
          | nil =>
              simp [DecodeNode.fate, CompletionFate.mark, isRequest, found]
          | cons byte rest =>
              simp [DecodeNode.fate, CompletionFate.mark, isRequest, found]

/-- The property goes on exactly if the step drops nothing known. -/
theorem PassedInOrder.step_iff
    {hostOrder : ByteOrders.ByteOrder} {run next : CompletionRun}
    {action : NodeAction} (passed : run.PassedInOrder hostOrder)
    (stepped : run.step action = some next) :
    next.PassedInOrder hostOrder ↔ run.NothingKnownDropped action := by
  obtain ⟨node, taken, isNext⟩ := Option.map_eq_some_iff.mp stepped
  have decides := DecodeNode.decides_step taken
  have called :
      run.node.calledBy action =
          ((run.node.decidedBy action).map run.node.fate).filterMap
            (CompletionFate.mark run.node.engine.hostOrder) ↔
        run.NothingKnownDropped action := by
    cases action with
    | poll =>
        exact called_iff_poll
    | advanceLoop =>
        exact called_iff_advanceLoop
    | receive | waitAndPop | work =>
        exact iff_of_true rfl trivial
  rw [← called, ← isNext]
  constructor
  · intro after
    have marks := after.marks_eq
    dsimp only at marks
    rw [decides.marks_eq, passed.marks_eq, List.filterMap_append] at marks
    rw [passed.hostOrder_eq]
    exact List.append_cancel_left marks
  · intro same
    rw [passed.hostOrder_eq] at same
    refine ⟨decides.hostOrder_eq.trans passed.hostOrder_eq, ?_, ?_⟩
    · dsimp only
      rw [passed.taken_eq, List.append_assoc, decides.rest_eq,
        List.map_append, List.map_map, List.append_assoc]
      congr 2
      exact (List.map_id _).symm
    · dsimp only
      rw [decides.marks_eq, passed.marks_eq, List.filterMap_append, same]

/-! ## The end of a batch -/

end CompletionRun

/-- A bound on the sections of the loop until it polls again. -/
def PollLoop.remaining : PollLoop → Nat
  | .polling => 0
  | .processing rest => 5 * rest.length + 1
  | .announcing _ _ rest => 5 * rest.length + 2
  | .fenced _ rest => 5 * rest.length + 3
  | .allDone _ rest => 5 * rest.length + 4
  | .resolved _ _ _ rest => 5 * rest.length + 5
  | .stopped => 0

theorem PollLoop.done_of_remaining
    {pollLoop : PollLoop} (done : pollLoop.remaining = 0) :
    pollLoop.rest = [] ∧ pollLoop.marking = none := by
  cases pollLoop with
  | polling | stopped =>
      exact ⟨rfl, rfl⟩
  | processing | announcing | fenced | allDone | resolved =>
      cases done

/-- The loop goes on until its batch is done. -/
theorem DecodeNode.advanceLoop_of_remaining
    {node : DecodeNode} (input : LoopInput)
    (remains : 0 < node.pollLoop.remaining) :
    ∃ next,
      node.advanceLoop input = some next ∧
        next.terminated = node.terminated ∧
        next.pollLoop.remaining < node.pollLoop.remaining := by
  unfold advanceLoop
  cases isLoop : node.pollLoop with
  | polling =>
      rw [isLoop] at remains
      cases remains
  | stopped =>
      rw [isLoop] at remains
      cases remains
  | processing batch =>
      cases batch with
      | nil =>
          exact ⟨_, rfl, rfl, Nat.one_pos⟩
      | cons arrival rest =>
          refine ⟨_, rfl, ?_, ?_⟩ <;>
            unfold resolve <;>
            dsimp only <;>
            split <;>
            simp [PollLoop.remaining]
          all_goals omega
  | resolved requestId layerId arrival rest =>
      refine ⟨_, rfl, rfl, ?_⟩
      unfold mark
      dsimp only
      split <;>
        simp [PollLoop.remaining]
  | allDone requestId rest =>
      dsimp only
      split <;>
        refine ⟨_, rfl, rfl, ?_⟩ <;>
        simp [PollLoop.remaining]
  | fenced requestId rest =>
      refine ⟨_, rfl, rfl, ?_⟩
      simp [PollLoop.remaining]
  | announcing requestId maxTokens rest =>
      refine ⟨_, rfl, ?_, ?_⟩
      · unfold announce push
        dsimp only
        split <;> rfl
      · simp [announce, PollLoop.remaining]

/-- Unless the process has ended the loop gets through its batch. -/
theorem DecodeNode.returns
    {node : DecodeNode} (running : node.terminated = false)
    {inputs : List LoopInput}
    (enough : node.pollLoop.remaining ≤ inputs.length) :
    ∃ count returned,
      LabelledRuns.execute step node
          ((inputs.take count).map NodeAction.advanceLoop) =
        some returned ∧
          returned.pollLoop.remaining = 0 := by
  induction inputs generalizing node with
  | nil =>
      exact ⟨0, node, rfl, Nat.eq_zero_of_le_zero enough⟩
  | cons input rest inductionHypothesis =>
      by_cases remains : 0 < node.pollLoop.remaining
      · obtain ⟨next, advanced, stillRunning, fewer⟩ :=
          advanceLoop_of_remaining input remains
        have taken : node.step (.advanceLoop input) = some next := by
          rw [step, running]
          exact advanced
        rw [List.length_cons] at enough
        obtain ⟨count, returned, remaining, done⟩ :=
          inductionHypothesis (stillRunning.trans running) (by omega)
        refine ⟨count + 1, returned, ?_, done⟩
        rw [List.take_succ_cons, List.map_cons, LabelledRuns.execute, taken]
        exact remaining
      · exact ⟨0, node, rfl, Nat.eq_zero_of_not_pos remains⟩

namespace CompletionRun

theorem map_node_step (run : CompletionRun) (action : NodeAction) :
    (run.step action).map node = run.node.step action := by
  rw [step, Option.map_map]
  exact Option.map_id'

theorem returns
    {run : CompletionRun} (running : run.node.terminated = false)
    {inputs : List LoopInput}
    (enough : run.node.pollLoop.remaining ≤ inputs.length) :
    ∃ count returned,
      LabelledRuns.execute step run
          ((inputs.take count).map NodeAction.advanceLoop) =
        some returned ∧
          returned.node.pollLoop.rest = [] ∧
          returned.node.pollLoop.marking = none := by
  obtain ⟨count, node, finished, done⟩ := DecodeNode.returns running enough
  obtain ⟨returned, recorded, isNode⟩ :=
    LabelledRuns.exists_execute_of_erased map_node_step finished
  rw [← isNode] at done
  exact ⟨count, returned, recorded, PollLoop.done_of_remaining done⟩

/-- A decode node that has just been started. -/
def start
    (orchestratorId : ByteString) (numLayers : UInt32) (capacity : UInt64)
    (engine : RDMAEngine) (layout : MemoryLayout) : CompletionRun where
  node := .start orchestratorId numLayers capacity engine layout

theorem passedInOrder_start
    (orchestratorId : ByteString) (numLayers : UInt32) (capacity : UInt64)
    (engine : RDMAEngine) (layout : MemoryLayout) :
    (start orchestratorId numLayers capacity engine layout).PassedInOrder
      engine.hostOrder where
  hostOrder_eq := rfl
  taken_eq := rfl
  marks_eq := rfl

/-- The completions are passed on throughout a run exactly if no step drops a known
one; and a batch that has been taken comes to its end, unless the process ends. -/
theorem completions_passed_in_order
    (orchestratorId : ByteString) (numLayers : UInt32) (capacity : UInt64)
    (engine : RDMAEngine) (layout : MemoryLayout)
    {actions : List NodeAction} {final : CompletionRun}
    (run :
      LabelledRuns.execute step
          (start orchestratorId numLayers capacity engine layout) actions =
        some final) :
    (LabelledRuns.Throughout step (PassedInOrder engine.hostOrder)
        (start orchestratorId numLayers capacity engine layout) actions ↔
      LabelledRuns.Meets step NothingKnownDropped
        (start orchestratorId numLayers capacity engine layout) actions) ∧
      (final.node.terminated = false →
        ∀ inputs : List LoopInput,
          final.node.pollLoop.remaining ≤ inputs.length →
            ∃ count returned,
              LabelledRuns.execute step final
                  ((inputs.take count).map NodeAction.advanceLoop) =
                some returned ∧
                  returned.node.pollLoop.rest = [] ∧
                  returned.node.pollLoop.marking = none) := by
  constructor
  · apply LabelledRuns.throughout_iff_meets _ (fun _ passed => passed) _ run
      (passedInOrder_start _ _ _ _ _)
    · intro state action next stepped dropsNothing passed
      exact (passed.step_iff stepped).mpr dropsNothing
    · intro state action next stepped passed stillPassed
      exact (passed.step_iff stepped).mp stillPassed
  · intro running inputs enough
    exact returns running enough

/-! ## A node with one request -/

def sampleEngine : RDMAEngine where
  kvBufferMb := 1
  hostOrder := .littleEndian
  mem := ⟨1024, 7, 4096⟩
  qmaps := []

def sampleStart : CompletionRun :=
  start [0] 2 16 sampleEngine { numLayers := 2 }

/-- Slot zero is prepared for a request. -/
def samplePrepared : List NodeAction :=
  [.receive
      { clientFd := 7
        message :=
          .createPrepareDecodeSlot ⟨.cleared, 0⟩ [1]
            { Message.cleared.requestInfo with
              requestId := [10]
              prefillNodeId := [2]
              slotId := 0 } },
    .waitAndPop, .work 0 {}]

/-- The completion of layer zero of the request. -/
def sampleArrival (success : Bool) : Arrival where
  completion := ⟨success, [0, 0, 0, 0], 37, 4096⟩
  write := none

/-- A batch of one successful completion. -/
def sampleBatch : List NodeAction :=
  samplePrepared ++
    [.poll (some [sampleArrival true]) true, .advanceLoop {}, .advanceLoop {}]

/-- A successful completion is polled along with one that has failed. -/
def mixedBatch : List NodeAction :=
  samplePrepared ++ [.poll (some [sampleArrival true, sampleArrival false]) true]

theorem completions_passed_in_order_sampleBatch :
    ∃ final,
      LabelledRuns.execute step sampleStart sampleBatch = some final ∧
        final.node.marks = [([10], 0, sampleArrival true)] ∧
        LabelledRuns.Throughout step (PassedInOrder .littleEndian) sampleStart
          sampleBatch := by
  have outcome :
      (LabelledRuns.execute step sampleStart sampleBatch).map
          (fun final => final.node.marks) =
        some [([10], 0, sampleArrival true)] := by
    decide +kernel
  obtain ⟨final, run, marks⟩ := Option.map_eq_some_iff.mp outcome
  refine ⟨final, run, marks, ?_⟩
  apply
    (completions_passed_in_order [0] 2 16 sampleEngine { numLayers := 2 }
      run).1.mpr
  change LabelledRuns.Meets step NothingKnownDropped sampleStart sampleBatch
  decide +kernel

/-- The successful completion is taken, and never passed on. -/
theorem mixed_batch_dropped :
    ∃ final,
      LabelledRuns.execute step sampleStart mixedBatch = some final ∧
        final.taken = [sampleArrival true] ∧
        final.node.requestOf (sampleArrival true) = some [10] ∧
        final.node.marks = [] ∧
        ¬ final.PassedInOrder .littleEndian := by
  have takenOne :
      (LabelledRuns.execute step sampleStart mixedBatch).map
          (fun final => final.taken) =
        some [sampleArrival true] := by
    decide +kernel
  have request :
      (LabelledRuns.execute step sampleStart mixedBatch).map
          (fun final => final.node.requestOf (sampleArrival true)) =
        some (some [10]) := by
    decide +kernel
  have noCalls :
      (LabelledRuns.execute step sampleStart mixedBatch).map
          (fun final =>
            final.node.marks ++ final.node.pollLoop.marking.toList) =
        some [] := by
    decide +kernel
  have calls :
      (LabelledRuns.execute step sampleStart mixedBatch).map
          (fun final =>
            final.fates.filterMap (CompletionFate.mark .littleEndian)) =
        some [([10], 0, sampleArrival true)] := by
    decide +kernel
  obtain ⟨final, run, taken⟩ := Option.map_eq_some_iff.mp takenOne
  rw [run, Option.map_some, Option.some.injEq] at request noCalls calls
  refine
    ⟨final, run, taken, request, (List.append_eq_nil_iff.mp noCalls).1, ?_⟩
  intro passed
  have marks := passed.marks_eq
  rw [noCalls, calls] at marks
  cases marks

end CompletionRun

end RdmaKvCache
