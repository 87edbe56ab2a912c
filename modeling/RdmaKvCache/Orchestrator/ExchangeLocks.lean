import RdmaKvCache.Library.LabelledRuns
import RdmaKvCache.Library.ScopedLocks
import RdmaKvCache.Orchestrator.RdmaExchangeTracker

/-!
# The mutex of the exchange tracker

`register_node` and `mark_node_ready` hold the mutex to their end.  For a node
that is there already they return what `all_nodes_registered` and
`all_nodes_ready` say, which acquire the mutex themselves, so the second report of
a node is never answered.  To acquire a `std::shared_mutex` again is undefined for
the thread that holds it.  The model reads it as a wait without end, in which every
later call waits too; libstdc++ throws `EDEADLK` instead, and the process ends.
-/

namespace RdmaKvCache

open LabelledRuns ScopedLocks

namespace RdmaExchangeTracker

/-! ## The operations with their mutex -/

abbrev LockedOperation (α : Type) :=
  Body RdmaExchangeTracker α

namespace Locked

def allNodesRegistered : LockedOperation Bool :=
  Body.locked .shared do
    let tracker ← Body.read
    pure tracker.allNodesRegistered

def allNodesReady : LockedOperation Bool :=
  Body.locked .shared do
    let tracker ← Body.read
    pure
      (decide (tracker.readyNodes.length = tracker.registeredNodes.length) &&
        decide (0 < tracker.registeredNodes.length))

def registerNode (nodeId : ByteString) (role : NodeRole) :
    LockedOperation Bool :=
  Body.locked .exclusive do
    let tracker ← Body.read
    if nodeId ∈ tracker.registeredNodes then
      allNodesRegistered
    else do
      let registered :=
        { tracker with
          registeredNodes := tracker.registeredNodes ++ [nodeId]
          registeredPrefill :=
            if role = .prefill then tracker.registeredPrefill ++ [nodeId]
            else tracker.registeredPrefill
          registeredDecode :=
            if role = .decode then tracker.registeredDecode ++ [nodeId]
            else tracker.registeredDecode }
      Body.write registered
      pure
        (sizeEquals registered.registeredPrefill
            registered.expectedPrefillNodes &&
          sizeEquals registered.registeredDecode
            registered.expectedDecodeNodes)

def markNodeReady (nodeId : ByteString) : LockedOperation Bool :=
  Body.locked .exclusive do
    let tracker ← Body.read
    if nodeId ∉ tracker.registeredNodes then
      pure false
    else if nodeId ∈ tracker.readyNodes then
      allNodesReady
    else do
      let ready := { tracker with readyNodes := tracker.readyNodes ++ [nodeId] }
      Body.write ready
      pure (decide (ready.readyNodes.length = ready.registeredNodes.length))

/-! ## Blocking -/

/-- Inside of another operation the question is never answered. -/
theorem allNodesRegistered_waits
    (mode : LockMode) (tracker : RdmaExchangeTracker) :
    allNodesRegistered ⟨some mode, tracker⟩ =
      .waitsForItself ⟨some mode, tracker⟩ :=
  Body.locked_of_held _ _ rfl

theorem allNodesReady_waits
    (mode : LockMode) (tracker : RdmaExchangeTracker) :
    allNodesReady ⟨some mode, tracker⟩ =
      .waitsForItself ⟨some mode, tracker⟩ :=
  Body.locked_of_held _ _ rfl

end Locked

/-- What an operation that may not return leaves of a free mutex. -/
def attemptOf
    (tracker : RdmaExchangeTracker) :
    Option (Bool × RdmaExchangeTracker) → Attempt RdmaExchangeTracker Bool
  | none => .waitsForItself ⟨some .exclusive, tracker⟩
  | some (answer, next) => .returned answer ⟨none, next⟩

/-- With its mutex `register_node` returns the same, or not at all. -/
theorem locked_registerNode
    (tracker : RdmaExchangeTracker) (nodeId : ByteString) (role : NodeRole) :
    Locked.registerNode nodeId role ⟨none, tracker⟩ =
      tracker.attemptOf (tracker.registerNode nodeId role) := by
  rw [registerNode]
  by_cases registered : nodeId ∈ tracker.registeredNodes
  · rw [if_pos registered]
    apply Body.locked_waits
    rw [Body.read_bind, if_pos registered]
    exact Locked.allNodesRegistered_waits .exclusive tracker
  · rw [if_neg registered]
    apply Body.locked_returned ⟨some .exclusive, _⟩
    rw [Body.read_bind, if_neg registered]
    rfl

theorem locked_markNodeReady
    (tracker : RdmaExchangeTracker) (nodeId : ByteString) :
    Locked.markNodeReady nodeId ⟨none, tracker⟩ =
      tracker.attemptOf (tracker.markNodeReady nodeId) := by
  rw [markNodeReady]
  by_cases unregistered : nodeId ∉ tracker.registeredNodes
  · rw [if_pos unregistered]
    apply Body.locked_returned ⟨some .exclusive, _⟩
    rw [Body.read_bind, if_pos unregistered]
    rfl
  · rw [if_neg unregistered]
    by_cases ready : nodeId ∈ tracker.readyNodes
    · rw [if_pos ready]
      apply Body.locked_waits
      rw [Body.read_bind, if_neg unregistered, if_pos ready]
      exact Locked.allNodesReady_waits .exclusive tracker
    · rw [if_neg ready]
      apply Body.locked_returned ⟨some .exclusive, _⟩
      rw [Body.read_bind, if_neg unregistered, if_neg ready]
      rfl

/-! ## Calls one after the other -/

inductive ExchangeCall where
  | registerNode (nodeId : ByteString) (role : NodeRole)
  | markNodeReady (nodeId : ByteString)
  deriving DecidableEq

namespace ExchangeCall

def perform : ExchangeCall → LockedOperation Bool
  | .registerNode nodeId role => Locked.registerNode nodeId role
  | .markNodeReady nodeId => Locked.markNodeReady nodeId

/-- The node is recorded already in the set that the call adds it to. -/
def IsRepeated (tracker : RdmaExchangeTracker) : ExchangeCall → Prop
  | .registerNode nodeId _ => nodeId ∈ tracker.registeredNodes
  | .markNodeReady nodeId => nodeId ∈ tracker.readyNodes

instance decidableIsRepeated (tracker : RdmaExchangeTracker) :
    ∀ call : ExchangeCall, Decidable (call.IsRepeated tracker)
  | .registerNode nodeId _ =>
      inferInstanceAs (Decidable (nodeId ∈ tracker.registeredNodes))
  | .markNodeReady nodeId =>
      inferInstanceAs (Decidable (nodeId ∈ tracker.readyNodes))

/-- What the call should answer, and that a repeated one changes nothing. -/
def AnsweredBy
    (before after : RdmaExchangeTracker) (answer : Bool) :
    ExchangeCall → Prop
  | .registerNode nodeId _ =>
      (nodeId ∈ before.registeredNodes → after = before) ∧
        (answer = true ↔
          (after.registeredPrefill.length : Int) =
              after.expectedPrefillNodes.toInt ∧
            (after.registeredDecode.length : Int) =
              after.expectedDecodeNodes.toInt)
  | .markNodeReady nodeId =>
      (nodeId ∈ before.readyNodes → after = before) ∧
        (answer = true ↔
          nodeId ∈ after.registeredNodes ∧
            after.registeredNodes ⊆ after.readyNodes)

end ExchangeCall

/-- A call that has returned. -/
structure AnsweredCall where
  call : ExchangeCall
  before : RdmaExchangeTracker
  answer : Bool

structure ExchangeRun where
  tracker : Guarded RdmaExchangeTracker
  /-- The thread of the last call waits for the mutex that it holds. -/
  waitsForItself : Bool := false
  last : Option AnsweredCall := none

namespace ExchangeRun

def start (expectedPrefillNodes expectedDecodeNodes : Int32) : ExchangeRun where
  tracker :=
    { contents :=
        { expectedPrefillNodes := expectedPrefillNodes
          expectedDecodeNodes := expectedDecodeNodes } }

/-- Further calls wait for the mutex, and no set of the program has room for
`2 ^ 63` nodes. -/
def step (run : ExchangeRun) (call : ExchangeCall) : Option ExchangeRun :=
  if run.waitsForItself ∨
      2 ^ 63 ≤ run.tracker.contents.registeredNodes.length + 1 then
    none
  else
    match call.perform run.tracker with
    | .returned answer after =>
        some
          { tracker := after
            last := some ⟨call, run.tracker.contents, answer⟩ }
    | .waitsForItself after =>
        some { tracker := after, waitsForItself := true }

/-- No call waits for itself, nodes become ready only after they have registered,
and the last call has been answered as it should. -/
structure Answers (run : ExchangeRun) : Prop where
  returns : run.waitsForItself = false
  ready_subset :
    run.tracker.contents.readyNodes ⊆ run.tracker.contents.registeredNodes
  answered :
    ∀ returned ∈ run.last,
      returned.call.AnsweredBy returned.before run.tracker.contents
        returned.answer

def IsNew (run : ExchangeRun) (call : ExchangeCall) : Prop :=
  ¬ call.IsRepeated run.tracker.contents

instance decidableIsNew (run : ExchangeRun) (call : ExchangeCall) :
    Decidable (run.IsNew call) :=
  inferInstanceAs (Decidable (¬ call.IsRepeated _))

end ExchangeRun

/-! ## Answers -/

/-- The size of a set in memory equals an `int` if the numbers are equal. -/
theorem sizeEquals_iff
    {nodes : List ByteString} {expected : Int32}
    (bounded : nodes.length < 2 ^ 63) :
    sizeEquals nodes expected = true ↔
      (nodes.length : Int) = expected.toInt := by
  have converted := toUInt64_toNat_eq_emod expected
  have below := expected.toInt_lt
  have above := expected.le_toInt
  rw [sizeEquals, decide_eq_true_iff, ← UInt64.toNat_inj,
    UInt64.toNat_ofNat']
  omega

section Results

variable {tracker next : RdmaExchangeTracker} {nodeId : ByteString}
variable {answer : Bool}

theorem nodup_of_registerNode
    {role : NodeRole} (nodup : tracker.registeredNodes.Nodup)
    (registered : tracker.registerNode nodeId role = some (answer, next)) :
    next.registeredNodes.Nodup := by
  obtain ⟨unregistered, same⟩ := registerNode_eq_some registered
  rw [same, ← List.concat_eq_append]
  exact nodup.concat unregistered

theorem answeredBy_of_registerNode
    {role : NodeRole} (wellFormed : tracker.WellFormed)
    (room : tracker.registeredNodes.length + 1 < 2 ^ 63)
    (registered : tracker.registerNode nodeId role = some (answer, next)) :
    (ExchangeCall.registerNode nodeId role).AnsweredBy tracker next answer := by
  obtain ⟨unregistered, same⟩ := registerNode_eq_some registered
  have nextWellFormed := wellFormed.registerNode registered
  have size : next.registeredNodes.length < 2 ^ 63 := by
    rw [same, List.length_append]
    exact room
  have prefill : next.registeredPrefill.length < 2 ^ 63 :=
    Nat.lt_of_le_of_lt
      (List.subperm_of_subset nextWellFormed.prefill_nodup
        nextWellFormed.prefill_subset).length_le size
  have decode : next.registeredDecode.length < 2 ^ 63 :=
    Nat.lt_of_le_of_lt
      (List.subperm_of_subset nextWellFormed.decode_nodup
        nextWellFormed.decode_subset).length_le size
  refine ⟨fun repeated => absurd repeated unregistered, ?_⟩
  rw [← sizeEquals_iff prefill, ← sizeEquals_iff decode,
    ← Bool.and_eq_true]
  rw [registerNode, if_neg unregistered] at registered
  cases registered
  rfl

/-- The sets have the same size exactly if every registered node is ready. -/
theorem WellFormed.sameSize_iff
    (wellFormed : tracker.WellFormed)
    (nodup : tracker.registeredNodes.Nodup) :
    tracker.readyNodes.length = tracker.registeredNodes.length ↔
      tracker.registeredNodes ⊆ tracker.readyNodes := by
  constructor
  · exact wellFormed.registered_subset_ready
  · intro allReady
    apply Nat.le_antisymm
    · exact
        (List.subperm_of_subset wellFormed.ready_nodup
          wellFormed.ready_subset).length_le
    · exact (List.subperm_of_subset nodup allReady).length_le

theorem answeredBy_of_markNodeReady
    (wellFormed : tracker.WellFormed)
    (nodup : tracker.registeredNodes.Nodup)
    (marked : tracker.markNodeReady nodeId = some (answer, next)) :
    (ExchangeCall.markNodeReady nodeId).AnsweredBy tracker next answer := by
  have nextWellFormed := wellFormed.markNodeReady marked
  by_cases registered : nodeId ∈ tracker.registeredNodes
  · by_cases ready : nodeId ∈ tracker.readyNodes
    · rw [markNodeReady, if_neg (not_not.mpr registered), if_pos ready]
        at marked
      cases marked
    · rw [markNodeReady, if_neg (not_not.mpr registered), if_neg ready]
        at marked
      cases marked
      refine ⟨fun repeated => absurd repeated ready, ?_⟩
      rw [decide_eq_true_iff, nextWellFormed.sameSize_iff nodup]
      exact (and_iff_right registered).symm
  · rw [markNodeReady, if_pos registered] at marked
    cases marked
    refine ⟨fun _ => rfl, ?_⟩
    constructor
    · intro wrong
      cases wrong
    · intro ready
      exact absurd ready.1 registered

end Results

namespace ExchangeCall

variable {tracker next : RdmaExchangeTracker} {call : ExchangeCall}

/-- The call without its mutex. -/
def attempt (tracker : RdmaExchangeTracker) :
    ExchangeCall → Option (Bool × RdmaExchangeTracker)
  | .registerNode nodeId role => tracker.registerNode nodeId role
  | .markNodeReady nodeId => tracker.markNodeReady nodeId

theorem perform_eq (tracker : RdmaExchangeTracker) (call : ExchangeCall) :
    call.perform ⟨none, tracker⟩ =
      tracker.attemptOf (call.attempt tracker) := by
  cases call with
  | registerNode nodeId role =>
      exact locked_registerNode tracker nodeId role
  | markNodeReady nodeId =>
      exact locked_markNodeReady tracker nodeId

/-- A call does not return exactly if it is repeated. -/
theorem attempt_eq_none_iff (wellFormed : tracker.WellFormed) :
    call.attempt tracker = none ↔ call.IsRepeated tracker := by
  cases call with
  | registerNode nodeId role =>
      simp [attempt, RdmaExchangeTracker.registerNode, IsRepeated]
  | markNodeReady nodeId =>
      have registered : nodeId ∈ tracker.readyNodes →
          nodeId ∈ tracker.registeredNodes := fun ready =>
        wellFormed.ready_subset ready
      simp only [attempt, RdmaExchangeTracker.markNodeReady, IsRepeated]
      split
      · rename_i unregistered
        simp [mt registered unregistered]
      · split <;>
          simp [*]

theorem settled_of_attempt
    {answer : Bool} (wellFormed : tracker.WellFormed)
    (nodup : tracker.registeredNodes.Nodup)
    (room : tracker.registeredNodes.length + 1 < 2 ^ 63)
    (returned : call.attempt tracker = some (answer, next)) :
    next.WellFormed ∧ next.registeredNodes.Nodup ∧
      call.AnsweredBy tracker next answer := by
  cases call with
  | registerNode nodeId role =>
      exact
        ⟨wellFormed.registerNode returned,
          nodup_of_registerNode nodup returned,
          answeredBy_of_registerNode wellFormed room returned⟩
  | markNodeReady nodeId =>
      have sameNodes : next.registeredNodes = tracker.registeredNodes := by
        rcases markNodeReady_eq_some returned with
          ⟨_, same⟩ | ⟨_, _, same, _⟩
        · rw [same]
        · rw [same]
      exact
        ⟨wellFormed.markNodeReady returned, sameNodes ▸ nodup,
          answeredBy_of_markNodeReady wellFormed nodup returned⟩

end ExchangeCall

/-! ## Runs -/

namespace ExchangeRun

/-- Between two calls the mutex is free, and every node is registered once. -/
structure Settled (run : ExchangeRun) : Prop where
  free : run.tracker.held = none
  wellFormed : run.tracker.contents.WellFormed
  nodup : run.tracker.contents.registeredNodes.Nodup
  answers : run.Answers

variable {run next : ExchangeRun} {call : ExchangeCall}

theorem step_eq_some
    (settled : run.Settled) (taken : run.step call = some next) :
    run.tracker.contents.registeredNodes.length + 1 < 2 ^ 63 ∧
      match call.attempt run.tracker.contents with
      | none => next.waitsForItself = true
      | some (answer, after) =>
          next =
            { tracker := ⟨none, after⟩
              last := some ⟨call, run.tracker.contents, answer⟩ } := by
  have free : run.tracker = ⟨none, run.tracker.contents⟩ := by
    rw [← settled.free]
  have performed := call.perform_eq run.tracker.contents
  rw [← free] at performed
  rw [step] at taken
  split at taken
  · cases taken
  · rename_i goesOn
    refine ⟨Nat.lt_of_not_le fun full => goesOn (Or.inr full), ?_⟩
    rw [performed] at taken
    cases returned : call.attempt run.tracker.contents with
    | none =>
        rw [returned] at taken
        cases taken
        rfl
    | some answered =>
        rw [returned] at taken
        cases taken
        rfl

theorem Settled.step
    (settled : run.Settled) (taken : run.step call = some next)
    (isNew : run.IsNew call) : next.Settled := by
  obtain ⟨room, result⟩ := step_eq_some settled taken
  have wellFormed := settled.wellFormed
  cases returned : call.attempt run.tracker.contents with
  | none =>
      exact
        absurd ((ExchangeCall.attempt_eq_none_iff wellFormed).mp returned) isNew
  | some answered =>
      obtain ⟨answer, after⟩ := answered
      rw [returned] at result
      obtain ⟨nextWellFormed, nextNodup, answeredBy⟩ :=
        ExchangeCall.settled_of_attempt wellFormed settled.nodup room returned
      rw [result]
      have answers : Answers
          { tracker := ⟨none, after⟩
            last := some ⟨call, run.tracker.contents, answer⟩ } := by
        refine ⟨rfl, nextWellFormed.ready_subset, ?_⟩
        intro last isLast
        cases isLast
        exact answeredBy
      exact ⟨rfl, nextWellFormed, nextNodup, answers⟩

theorem Settled.isNew
    (settled : run.Settled) (taken : run.step call = some next)
    (answers : next.Answers) : run.IsNew call := by
  intro repeated
  have result := (step_eq_some settled taken).2
  rw [(ExchangeCall.attempt_eq_none_iff settled.wellFormed).mpr repeated]
    at result
  have returns := answers.returns
  rw [result] at returns
  cases returns

theorem settled_start (expectedPrefillNodes expectedDecodeNodes : Int32) :
    (start expectedPrefillNodes expectedDecodeNodes).Settled where
  free := rfl
  wellFormed :=
    ⟨List.nodup_nil, List.nil_subset _, List.nodup_nil, List.nil_subset _,
      List.nodup_nil, List.nil_subset _⟩
  nodup := List.nodup_nil
  answers := ⟨rfl, List.nil_subset _, fun _ isLast => by cases isLast⟩

/-- No call waits for itself and every call is answered as it should be,
throughout a run exactly if no call is repeated. -/
theorem answers_iff_new
    (expectedPrefillNodes expectedDecodeNodes : Int32)
    {calls : List ExchangeCall} {final : ExchangeRun}
    (run :
      execute step (start expectedPrefillNodes expectedDecodeNodes) calls =
        some final) :
    Throughout step Answers (start expectedPrefillNodes expectedDecodeNodes)
        calls ↔
      Meets step IsNew (start expectedPrefillNodes expectedDecodeNodes)
        calls := by
  have preserved (state : ExchangeRun) (call : ExchangeCall)
      (next : ExchangeRun) (taken : state.step call = some next)
      (isNew : state.IsNew call) (settled : state.Settled) : next.Settled :=
    settled.step taken isNew
  have complete (state : ExchangeRun) (call : ExchangeCall)
      (next : ExchangeRun) (taken : state.step call = some next)
      (settled : state.Settled) (answers : next.Answers) : state.IsNew call :=
    settled.isNew taken answers
  exact
    throughout_iff_meets preserved (fun _ settled => settled.answers) complete
      run (settled_start expectedPrefillNodes expectedDecodeNodes)

/-- Two nodes that register once and become ready once. -/
def bothNodes : List ExchangeCall :=
  [.registerNode [1] .prefill, .registerNode [2] .decode, .markNodeReady [1],
    .markNodeReady [2]]

theorem answers_bothNodes :
    ∃ final : ExchangeRun,
      execute step (start 1 1) bothNodes = some final ∧
        Throughout step Answers (start 1 1) bothNodes :=
  ⟨_, rfl, (answers_iff_new 1 1 rfl).mpr (by decide)⟩

/-- A node that registers again, or is ready again, after a restart. -/
theorem restarted_node_not_answered :
    (∃ final : ExchangeRun,
        execute step (start 1 1)
            [.registerNode [1] .prefill, .registerNode [1] .prefill] =
          some final ∧
        final.waitsForItself = true ∧ ¬ final.Answers) ∧
      ∃ final : ExchangeRun,
        execute step (start 1 1) (bothNodes ++ [.markNodeReady [1]]) =
          some final ∧
        final.waitsForItself = true ∧ ¬ final.Answers := by
  constructor
  · exact ⟨_, rfl, rfl, fun answers => by cases answers.returns⟩
  · exact ⟨_, rfl, rfl, fun answers => by cases answers.returns⟩

end ExchangeRun

end RdmaExchangeTracker

end RdmaKvCache
