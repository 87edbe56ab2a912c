import Mathlib.Data.Option.Basic

/-!
# Runs of a guarded transition function

A system is a partial step function: `step state action` is `none` when the
action is not enabled.  A schedule is a list of actions and `execute` runs it.
An invariant that every step preserves holds after every schedule; when only the
steps meeting some condition preserve it, it holds after every schedule all of
whose steps meet the condition in the state they are taken from.
-/

namespace LabelledRuns

universe u v

variable {State : Type u} {Action : Type v}
variable (step : State → Action → Option State)

/-- Run a schedule from a state; `none` when some action is not enabled. -/
def execute : State → List Action → Option State
  | state, [] => some state
  | state, action :: rest =>
      (step state action).bind fun next => execute next rest

/-- Every step of the schedule meets `condition` in the state it is taken from. -/
def Meets (condition : State → Action → Prop) : State → List Action → Prop
  | _, [] => True
  | state, action :: rest =>
      condition state action ∧
        ∀ next, step state action = some next → Meets condition next rest

variable {step}

instance decidableMeets
    {condition : State → Action → Prop}
    [∀ state action, Decidable (condition state action)] :
    ∀ (state : State) (actions : List Action),
      Decidable (Meets step condition state actions)
  | _, [] => .isTrue trivial
  | state, action :: rest =>
      have : Decidable
          (∀ next, step state action = some next →
            Meets step condition next rest) :=
        match taken : step state action with
        | none => .isTrue (fun next same => by cases same)
        | some next =>
            have : Decidable (Meets step condition next rest) :=
              decidableMeets next rest
            decidable_of_iff (Meets step condition next rest)
              ⟨fun meets reached same => Option.some.inj same ▸ meets,
                fun meets => meets next rfl⟩
      inferInstanceAs (Decidable (_ ∧ _))

theorem execute_cons_eq_some
    {state final : State} {action : Action} {rest : List Action}
    (run : execute step state (action :: rest) = some final) :
    ∃ next, step state action = some next ∧
      execute step next rest = some final := by
  simpa only [execute, Option.bind_eq_some_iff] using run

theorem execute_append
    (state : State) (initial suffix : List Action) :
    execute step state (initial ++ suffix) =
      (execute step state initial).bind fun next =>
        execute step next suffix := by
  induction initial generalizing state with
  | nil =>
      rfl
  | cons action rest inductionHypothesis =>
      simp only [List.cons_append, execute, Option.bind_assoc,
        inductionHypothesis]

theorem execute_trans
    {state middle final : State} {initial suffix : List Action}
    (run : execute step state initial = some middle)
    (remaining : execute step middle suffix = some final) :
    execute step state (initial ++ suffix) = some final := by
  rw [execute_append, run]
  exact remaining

/-- An invariant preserved by the steps that meet `condition` holds after every
schedule whose steps all meet it. -/
theorem invariant_of_meets
    {condition : State → Action → Prop} {invariant : State → Prop}
    (preserved :
      ∀ state action next,
        step state action = some next →
          condition state action → invariant state → invariant next) :
    ∀ {actions : List Action} {state final : State},
      execute step state actions = some final →
        Meets step condition state actions →
          invariant state → invariant final
  | [], state, final, run, _, holds => by
      cases run
      exact holds
  | action :: rest, state, final, run, meets, holds => by
      obtain ⟨next, taken, remaining⟩ := execute_cons_eq_some run
      have nextHolds : invariant next :=
        preserved state action next taken meets.1 holds
      exact
        invariant_of_meets preserved remaining
          (meets.2 next taken) nextHolds

theorem Meets.mono
    {condition weaker : State → Action → Prop}
    (weakens :
      ∀ state action, condition state action → weaker state action)
    {actions : List Action} {state : State}
    (meets : Meets step condition state actions) :
    Meets step weaker state actions := by
  induction actions generalizing state with
  | nil =>
      trivial
  | cons action rest inductionHypothesis =>
      exact
        ⟨weakens state action meets.1,
          fun next taken => inductionHypothesis (meets.2 next taken)⟩

theorem meets_true (state : State) (actions : List Action) :
    Meets step (fun _ _ => True) state actions := by
  induction actions generalizing state with
  | nil =>
      trivial
  | cons action rest inductionHypothesis =>
      exact ⟨trivial, fun next _ => inductionHypothesis next⟩

/-- An invariant preserved by every step holds after every schedule. -/
theorem invariant_of_execute
    {invariant : State → Prop}
    (preserved :
      ∀ state action next,
        step state action = some next → invariant state → invariant next)
    {actions : List Action} {state final : State}
    (run : execute step state actions = some final)
    (holds : invariant state) :
    invariant final :=
  invariant_of_meets
    (fun source action next taken _ => preserved source action next taken)
    run (meets_true state actions) holds

/-! ## Runs that record more -/

section Erasing

universe w

variable {Recorded : Type w}
variable {recordedStep : Recorded → Action → Option Recorded}
variable {erase : Recorded → State}

/-- A run of a system that records more about the states of another one is a run
of the other one. -/
theorem map_erase_execute
    (erases :
      ∀ recorded action,
        (recordedStep recorded action).map erase =
          step (erase recorded) action)
    (recorded : Recorded) (actions : List Action) :
    (execute recordedStep recorded actions).map erase =
      execute step (erase recorded) actions := by
  induction actions generalizing recorded with
  | nil =>
      rfl
  | cons action rest inductionHypothesis =>
      rw [execute, execute, ← erases]
      cases recordedStep recorded action with
      | none =>
          rfl
      | some next =>
          exact inductionHypothesis next

/-- Every run of the other system can be recorded. -/
theorem exists_execute_of_erased
    (erases :
      ∀ recorded action,
        (recordedStep recorded action).map erase =
          step (erase recorded) action)
    {recorded : Recorded} {actions : List Action} {final : State}
    (run : execute step (erase recorded) actions = some final) :
    ∃ recordedFinal,
      execute recordedStep recorded actions = some recordedFinal ∧
        erase recordedFinal = final := by
  rw [← map_erase_execute erases] at run
  exact Option.map_eq_some_iff.mp run

end Erasing

/-! ## Properties that hold throughout a run -/

variable (step) in
/-- `property` holds in every state the run passes through. -/
def Throughout (property : State → Prop) : State → List Action → Prop
  | state, [] => property state
  | state, action :: rest =>
      property state ∧
        ∀ next, step state action = some next → Throughout property next rest

theorem Throughout.start
    {property : State → Prop} {state : State} {actions : List Action}
    (throughout : Throughout step property state actions) :
    property state := by
  cases actions with
  | nil =>
      exact throughout
  | cons action rest =>
      exact throughout.1

theorem throughout_of_meets
    {condition : State → Action → Prop} {invariant property : State → Prop}
    (preserved :
      ∀ state action next,
        step state action = some next →
          condition state action → invariant state → invariant next)
    (sound : ∀ state, invariant state → property state)
    {actions : List Action} {state : State}
    (meets : Meets step condition state actions) (holds : invariant state) :
    Throughout step property state actions := by
  induction actions generalizing state with
  | nil =>
      exact sound state holds
  | cons action rest inductionHypothesis =>
      refine ⟨sound state holds, ?_⟩
      intro next taken
      have nextHolds : invariant next :=
        preserved state action next taken meets.1 holds
      exact inductionHypothesis (meets.2 next taken) nextHolds

theorem meets_of_throughout
    {condition : State → Action → Prop} {invariant property : State → Prop}
    (preserved :
      ∀ state action next,
        step state action = some next →
          condition state action → invariant state → invariant next)
    (complete :
      ∀ state action next,
        step state action = some next →
          invariant state → property next → condition state action) :
    ∀ {actions : List Action} {state final : State},
      execute step state actions = some final →
        Throughout step property state actions →
          invariant state → Meets step condition state actions
  | [], _, _, _, _, _ => trivial
  | action :: rest, state, final, run, throughout, holds => by
      obtain ⟨next, taken, remaining⟩ := execute_cons_eq_some run
      have afterwards := throughout.2 next taken
      have met : condition state action :=
        complete state action next taken holds afterwards.start
      have nextHolds : invariant next :=
        preserved state action next taken met holds
      refine ⟨met, ?_⟩
      intro reached takenAgain
      rw [taken] at takenAgain
      cases takenAgain
      exact meets_of_throughout preserved complete remaining afterwards nextHolds

/-- The property holds throughout a completed run exactly if every step of it
meets the condition. -/
theorem throughout_iff_meets
    {condition : State → Action → Prop} {invariant property : State → Prop}
    (preserved :
      ∀ state action next,
        step state action = some next →
          condition state action → invariant state → invariant next)
    (sound : ∀ state, invariant state → property state)
    (complete :
      ∀ state action next,
        step state action = some next →
          invariant state → property next → condition state action)
    {actions : List Action} {state final : State}
    (run : execute step state actions = some final)
    (holds : invariant state) :
    Throughout step property state actions ↔
      Meets step condition state actions := by
  constructor
  · intro throughout
    exact meets_of_throughout preserved complete run throughout holds
  · intro meets
    exact throughout_of_meets preserved sound meets holds

/-- A run whose steps all meet the condition keeps the invariant; any other run
breaks it, for ever. -/
theorem meets_or_broken
    {condition : State → Action → Prop} {invariant broken : State → Prop}
    (preserved :
      ∀ state action next,
        step state action = some next →
          condition state action → invariant state → invariant next)
    (breaks :
      ∀ state action next,
        step state action = some next →
          ¬ condition state action → invariant state → broken next)
    (stays :
      ∀ state action next,
        step state action = some next → broken state → broken next) :
    ∀ {actions : List Action} {state final : State},
      execute step state actions = some final →
        invariant state →
          Meets step condition state actions ∧ invariant final ∨
            ¬ Meets step condition state actions ∧ broken final
  | [], state, final, run, holds => by
      cases run
      exact Or.inl ⟨trivial, holds⟩
  | action :: rest, state, final, run, holds => by
      obtain ⟨next, taken, remaining⟩ := execute_cons_eq_some run
      by_cases met : condition state action
      · have nextHolds : invariant next :=
          preserved state action next taken met holds
        rcases meets_or_broken preserved breaks stays remaining nextHolds with
          ⟨meets, holdsFinally⟩ | ⟨fails, brokenFinally⟩
        · refine Or.inl ⟨⟨met, ?_⟩, holdsFinally⟩
          intro reached takenAgain
          rw [taken] at takenAgain
          cases takenAgain
          exact meets
        · refine Or.inr ⟨?_, brokenFinally⟩
          intro meets
          exact fails (meets.2 next taken)
      · refine Or.inr ⟨fun meets => met meets.1, ?_⟩
        have brokenNext : broken next :=
          breaks state action next taken met holds
        exact
          invariant_of_execute
            (fun state action next taken broken =>
              stays state action next taken broken)
            remaining brokenNext

end LabelledRuns
