import Mathlib.Data.List.Nodup

/-!
# Resources that depend on each other

A driver makes objects out of other objects.  It refuses to release an object that
is not there or that something was made of which is still there.  Which kinds of
objects can be made of which is fixed.

A list of objects is released as a whole if everything made of an object of the
list is in the list as well and no kind comes after one it can be made of.
-/

namespace ResourceLedgers

universe u

structure Handle (κ : Type u) where
  kind : κ
  number : Nat
  deriving DecidableEq

structure Object (κ : Type u) where
  handle : Handle κ
  uses : List (Handle κ)

/-- What the driver has made, what is still there, and the objects that it was told
to release and did not. -/
structure Ledger (κ : Type u) where
  made : Nat := 0
  live : List (Object κ) := []
  refused : List (Handle κ) := []

namespace Ledger

variable {κ : Type u}

def handles (ledger : Ledger κ) : List (Handle κ) :=
  ledger.live.map Object.handle

/-- The number of the new object is that of all objects made before. -/
def acquire (ledger : Ledger κ) (kind : κ) (uses : List (Handle κ)) :
    Ledger κ :=
  { ledger with
    made := ledger.made + 1
    live := ⟨⟨kind, ledger.made⟩, uses⟩ :: ledger.live }

section Releasing

variable [DecidableEq κ]

def Releasable (ledger : Ledger κ) (handle : Handle κ) : Prop :=
  handle ∈ ledger.handles ∧ ∀ object ∈ ledger.live, handle ∉ object.uses

instance (ledger : Ledger κ) (handle : Handle κ) :
    Decidable (ledger.Releasable handle) :=
  inferInstanceAs (Decidable (_ ∧ _))

def release (ledger : Ledger κ) (handle : Handle κ) : Ledger κ :=
  if ledger.Releasable handle then
    { ledger with
      live := ledger.live.filter fun object => object.handle ≠ handle }
  else
    { ledger with refused := ledger.refused ++ [handle] }

def releaseAll (ledger : Ledger κ) (released : List (Handle κ)) : Ledger κ :=
  released.foldl release ledger

end Releasing

/-- `mayUse` tells of which kinds an object can be made.  An object has its own
handle and was made of objects made before. -/
structure Layered (mayUse : κ → κ → Prop) (ledger : Ledger κ) : Prop where
  uses :
    ∀ object ∈ ledger.live, ∀ used ∈ object.uses,
      mayUse object.handle.kind used.kind ∧ used.number < ledger.made
  numbers : ∀ handle ∈ ledger.handles, handle.number < ledger.made
  nodup : ledger.handles.Nodup

variable {mayUse : κ → κ → Prop} {ledger : Ledger κ}

theorem layered_empty : Layered mayUse ({} : Ledger κ) where
  uses := List.forall_mem_nil _
  numbers := List.forall_mem_nil _
  nodup := List.nodup_nil

@[simp]
theorem handles_acquire (kind : κ) (uses : List (Handle κ)) :
    (ledger.acquire kind uses).handles =
      ⟨kind, ledger.made⟩ :: ledger.handles :=
  rfl

/-- A new object is none of those that are there. -/
theorem Layered.fresh
    (layered : ledger.Layered mayUse) (kind : κ) :
    (⟨kind, ledger.made⟩ : Handle κ) ∉ ledger.handles := by
  intro member
  exact Nat.lt_irrefl _ (layered.numbers _ member)

theorem Layered.acquire
    (layered : ledger.Layered mayUse) {kind : κ} {uses : List (Handle κ)}
    (allowed : ∀ used ∈ uses, mayUse kind used.kind ∧ used ∈ ledger.handles) :
    (ledger.acquire kind uses).Layered mayUse where
  uses := by
    refine List.forall_mem_cons.mpr ⟨?_, ?_⟩
    · intro used member
      obtain ⟨mayUseIt, isLive⟩ := allowed used member
      exact ⟨mayUseIt, Nat.lt_succ_of_lt (layered.numbers used isLive)⟩
    · intro object member used usesIt
      obtain ⟨mayUseIt, earlier⟩ := layered.uses object member used usesIt
      exact ⟨mayUseIt, Nat.lt_succ_of_lt earlier⟩
  numbers := by
    intro handle member
    rw [handles_acquire, List.mem_cons] at member
    rcases member with rfl | earlier
    · exact Nat.lt_succ_self _
    · exact Nat.lt_succ_of_lt (layered.numbers handle earlier)
  nodup := by
    rw [handles_acquire, List.nodup_cons]
    exact ⟨layered.fresh kind, layered.nodup⟩

/-- Numbers need not be used. -/
theorem Layered.skip (layered : ledger.Layered mayUse) :
    Layered mayUse { ledger with made := ledger.made + 1 } where
  uses := by
    intro object member used usesIt
    obtain ⟨mayUseIt, earlier⟩ := layered.uses object member used usesIt
    exact ⟨mayUseIt, Nat.lt_succ_of_lt earlier⟩
  numbers := by
    intro handle member
    exact Nat.lt_succ_of_lt (layered.numbers handle member)
  nodup := layered.nodup

/-! ## Releasing -/

variable [DecidableEq κ]

/-- Without the objects whose handles are listed. -/
def without (ledger : Ledger κ) (released : List (Handle κ)) : Ledger κ :=
  { ledger with
    live := ledger.live.filter fun object => object.handle ∉ released }

theorem handles_without (released : List (Handle κ)) :
    (ledger.without released).handles =
      ledger.handles.filter fun handle => handle ∉ released := by
  simp only [handles, without, List.filter_map, Function.comp_def]

theorem Layered.without
    (layered : ledger.Layered mayUse) (released : List (Handle κ)) :
    (ledger.without released).Layered mayUse where
  uses := by
    intro object member
    exact layered.uses object (List.mem_of_mem_filter member)
  numbers := by
    intro handle member
    rw [handles_without] at member
    exact layered.numbers handle (List.mem_of_mem_filter member)
  nodup := by
    rw [handles_without]
    exact layered.nodup.filter _

theorem without_nil : ledger.without [] = ledger := by
  simp [Ledger.without]

theorem without_without (first second : List (Handle κ)) :
    (ledger.without first).without second =
      ledger.without (first ++ second) := by
  simp only [without, List.filter_filter, List.mem_append, not_or,
    Bool.decide_and, Bool.and_comm]

theorem release_of_releasable
    {handle : Handle κ} (releasable : ledger.Releasable handle) :
    ledger.release handle = ledger.without [handle] := by
  rw [release, if_pos releasable]
  simp [without]

/-- What was just made can be released. -/
theorem Layered.release_acquire
    (layered : ledger.Layered mayUse) {kind : κ} {uses : List (Handle κ)}
    (earlier : ∀ used ∈ uses, used ∈ ledger.handles) :
    (ledger.acquire kind uses).release ⟨kind, ledger.made⟩ =
      { ledger with made := ledger.made + 1 } := by
  have fresh := layered.fresh kind
  have releasable :
      (ledger.acquire kind uses).Releasable ⟨kind, ledger.made⟩ := by
    refine ⟨List.mem_cons_self, List.forall_mem_cons.mpr ⟨?_, ?_⟩⟩
    · intro usesItself
      exact fresh (earlier _ usesItself)
    · intro object member usesNew
      exact Nat.lt_irrefl _ (layered.uses object member _ usesNew).2
  have others :
      ledger.live.filter (fun object => object.handle ≠ ⟨kind, ledger.made⟩) =
        ledger.live := by
    rw [List.filter_eq_self]
    intro object member
    have different : object.handle ≠ ⟨kind, ledger.made⟩ := by
      intro same
      exact fresh (same ▸ List.mem_map_of_mem member)
    exact decide_eq_true different
  rw [release, if_pos releasable]
  simp only [Ledger.acquire, List.filter_cons, ne_eq, not_true_eq_false,
    decide_false, Bool.false_eq_true, if_false]
  exact congrArg (Ledger.mk (ledger.made + 1) · ledger.refused) others

/-- The objects of a list are released one after the other. -/
theorem Layered.releaseAll
    (layered : ledger.Layered mayUse) (irreflexive : ∀ kind, ¬ mayUse kind kind)
    {released : List (Handle κ)}
    (there : ∀ handle ∈ released, handle ∈ ledger.handles)
    (nodup : released.Nodup)
    (ordered :
      released.Pairwise fun earlier later =>
        ¬ mayUse later.kind earlier.kind)
    (closed :
      ∀ object ∈ ledger.live, ∀ used ∈ object.uses,
        used ∈ released → object.handle ∈ released) :
    ledger.releaseAll released = ledger.without released := by
  induction released generalizing ledger with
  | nil =>
      exact without_nil.symm
  | cons handle rest inductionHypothesis =>
      obtain ⟨notInRest, nodupRest⟩ := List.nodup_cons.mp nodup
      obtain ⟨notUsed, orderedRest⟩ := List.pairwise_cons.mp ordered
      have releasable : ledger.Releasable handle := by
        refine ⟨there handle List.mem_cons_self, ?_⟩
        intro object member uses
        have mayUseIt := (layered.uses object member handle uses).1
        have listed :=
          closed object member handle uses List.mem_cons_self
        rcases List.mem_cons.mp listed with same | later
        · rw [same] at mayUseIt
          exact irreflexive handle.kind mayUseIt
        · exact notUsed object.handle later mayUseIt
      have stillThere :
          ∀ other ∈ rest, other ∈ (ledger.without [handle]).handles := by
        intro other member
        rw [handles_without, List.mem_filter]
        refine ⟨there other (List.mem_cons_of_mem _ member), ?_⟩
        rw [decide_eq_true_eq, List.mem_singleton]
        rintro rfl
        exact notInRest member
      have stillClosed :
          ∀ object ∈ (ledger.without [handle]).live, ∀ used ∈ object.uses,
            used ∈ rest → object.handle ∈ rest := by
        intro object member used uses inRest
        obtain ⟨wasLive, kept⟩ := List.mem_filter.mp member
        have listed :=
          closed object wasLive used uses (List.mem_cons_of_mem _ inRest)
        rcases List.mem_cons.mp listed with same | later
        · rw [decide_eq_true_eq, List.mem_singleton] at kept
          exact (kept same).elim
        · exact later
      have others :=
        inductionHypothesis (layered.without [handle]) stillThere nodupRest
          orderedRest stillClosed
      calc
        ledger.releaseAll (handle :: rest) =
            (ledger.release handle).releaseAll rest := rfl
        _ = (ledger.without [handle]).without rest := by
          rw [release_of_releasable releasable, others]
        _ = ledger.without (handle :: rest) := without_without [handle] rest

end Ledger

end ResourceLedgers
