/-!
# Scoped locks

A component whose operations hold a mutex from one place to the end of a scope.
The mutex is not recursive: a thread that holds it and acquires it again, in
whatever mode, waits for itself and does not return.  While one thread runs no
other has the mutex, so a section of the program is a function of the contents and
of the mode in which its own thread holds the mutex.
-/

namespace ScopedLocks

universe u

inductive LockMode where
  | shared
  | exclusive
  deriving DecidableEq

/-- What the mutex protects, and how the running thread holds it. -/
structure Guarded (σ : Type u) where
  held : Option LockMode := none
  contents : σ

inductive Attempt (σ α : Type u) where
  | returned (value : α) (state : Guarded σ)
  | waitsForItself (state : Guarded σ)

/-- A piece of program that one thread runs. -/
def Body (σ α : Type u) :=
  Guarded σ → Attempt σ α

variable {σ α γ : Type u}

instance : Monad (Body σ) where
  pure value := fun state => .returned value state
  bind body continued := fun state =>
    match body state with
    | .returned value after => continued value after
    | .waitsForItself after => .waitsForItself after

namespace Body

def read : Body σ σ := fun state =>
  .returned state.contents state

def write (contents : σ) : Body σ PUnit := fun state =>
  .returned ⟨⟩ { state with contents := contents }

/-- Acquire the mutex, run the body and release the mutex at its end. -/
def locked (mode : LockMode) (body : Body σ α) : Body σ α := fun state =>
  match state.held with
  | some _ => .waitsForItself state
  | none =>
      match body { state with held := some mode } with
      | .returned value after => .returned value { after with held := none }
      | .waitsForItself after => .waitsForItself after

/-! ## Acquiring the mutex -/

theorem locked_of_held
    (mode : LockMode) (body : Body σ α)
    {state : Guarded σ} {holds : LockMode}
    (held : state.held = some holds) :
    locked mode body state = .waitsForItself state := by
  simp only [locked, held]

/-- What a body returns is returned, and the mutex is free again. -/
theorem locked_returned
    {mode : LockMode} {body : Body σ α} {contents : σ} {value : α}
    (after : Guarded σ)
    (returned : body ⟨some mode, contents⟩ = .returned value after) :
    locked mode body ⟨none, contents⟩ =
      .returned value ⟨none, after.contents⟩ := by
  simp only [locked, returned]

/-- A body that waits for its own mutex keeps it for ever. -/
theorem locked_waits
    {mode : LockMode} {body : Body σ α} {contents : σ} {after : Guarded σ}
    (waits : body ⟨some mode, contents⟩ = .waitsForItself after) :
    locked mode body ⟨none, contents⟩ = .waitsForItself after := by
  simp only [locked, waits]

theorem read_bind
    (continued : σ → Body σ γ) (state : Guarded σ) :
    (read >>= continued) state = continued state.contents state :=
  rfl

end Body

end ScopedLocks
