import RdmaKvCache.Library.CheckedReaders

/-!
# Readers with a log

A reader that notes events on its way, each with what is left of the string when
it is noted.  Without the log it is a checked reader.

`Notes` says all there is to say about the log: an event is noted exactly where
the string has come to a place of the event, and a place is an encoding of what
stands before it.  The rules derive the places of a reader from those of its
parts.
-/

namespace LoggedReaders

open CheckedReaders

universe u

def LoggedReader (ε β α : Type u) :=
  List β → List (ε × List β) × Outcome β α

variable {ε β α γ : Type u}

instance : Monad (LoggedReader ε β) where
  pure value := fun symbols => ([], .done value symbols)
  bind reader continued := fun symbols =>
    match (reader symbols).2 with
    | .overrun => ((reader symbols).1, .overrun)
    | .refused => ((reader symbols).1, .refused)
    | .done value rest =>
        ((reader symbols).1 ++ (continued value rest).1,
          (continued value rest).2)

namespace LoggedReader

/-- A reader that notes nothing. -/
def quiet (reader : Reader β α) : LoggedReader ε β α := fun symbols =>
  ([], reader symbols)

def note (event : ε) : LoggedReader ε β PUnit := fun symbols =>
  ([(event, symbols)], .done ⟨⟩ symbols)

/-- Read `count` elements, one after the other. -/
def many : Nat → LoggedReader ε β α → LoggedReader ε β (List α)
  | 0, _ => pure []
  | count + 1, reader => do
      let first ← reader
      let others ← many count reader
      pure (first :: others)

/-- The reader without its log. -/
def forget (reader : LoggedReader ε β α) : Reader β α := fun symbols =>
  (reader symbols).2

@[simp]
theorem forget_pure (value : α) :
    forget (pure value : LoggedReader ε β α) = pure value :=
  rfl

@[simp]
theorem forget_quiet (reader : Reader β α) :
    forget (quiet reader : LoggedReader ε β α) = reader :=
  rfl

@[simp]
theorem forget_note (event : ε) :
    forget (note event : LoggedReader ε β PUnit) = pure ⟨⟩ :=
  rfl

@[simp]
theorem forget_bind
    (reader : LoggedReader ε β α) (continued : α → LoggedReader ε β γ) :
    forget (reader >>= continued) =
      forget reader >>= fun value => forget (continued value) := by
  funext symbols
  simp only [forget, Bind.bind]
  cases (reader symbols).2 with
  | overrun =>
      rfl
  | refused =>
      rfl
  | done value rest =>
      rfl

theorem forget_many (count : Nat) (reader : LoggedReader ε β α) :
    forget (many count reader) = Reader.many count (forget reader) := by
  induction count with
  | zero =>
      rfl
  | succ count inductionHypothesis =>
      simp only [many, Reader.many, forget_bind, forget_pure,
        inductionHypothesis]

theorem mem_log_bind
    {reader : LoggedReader ε β α} {continued : α → LoggedReader ε β γ}
    {symbols : List β} {entry : ε × List β} :
    entry ∈ ((reader >>= continued) symbols).1 ↔
      entry ∈ (reader symbols).1 ∨
        ∃ value rest,
          forget reader symbols = .done value rest ∧
            entry ∈ (continued value rest).1 := by
  simp only [forget, Bind.bind]
  cases outcome : (reader symbols).2 with
  | overrun =>
      simp
  | refused =>
      simp
  | done value rest =>
      simp

end LoggedReader

open LoggedReader

/-! ## Places -/

/-- The reader reads the format, and it notes an event wherever the string has
come to a place of the event. -/
structure Notes
    (reader : LoggedReader ε β α) (format : α → List β → Prop)
    (place : ε → List β → Prop) : Prop where
  reads : Reads (forget reader) format
  noted_iff :
    ∀ symbols event rest,
      (event, rest) ∈ (reader symbols).1 ↔
        ∃ before, place event before ∧ symbols = before ++ rest

namespace Notes

variable {reader : LoggedReader ε β α} {format : α → List β → Prop}
variable {place other : ε → List β → Prop}

theorem congr
    (notes : Notes reader format place)
    (same : ∀ event before, place event before ↔ other event before) :
    Notes reader format other where
  reads := notes.reads
  noted_iff := by
    intro symbols event rest
    rw [notes.noted_iff]
    simp only [same]

theorem quiet
    {silent : Reader β α} (reads : Reads silent format) :
    Notes (LoggedReader.quiet silent : LoggedReader ε β α) format
      fun _ _ => False where
  reads := reads
  noted_iff := by
    intro symbols event rest
    simp [LoggedReader.quiet]

theorem pure (value : α) :
    Notes (Pure.pure value : LoggedReader ε β α)
      (fun returned encoding => returned = value ∧ encoding = [])
      fun _ _ => False :=
  Notes.quiet (Reads.pure value)

theorem note (event : ε) :
    Notes (LoggedReader.note event : LoggedReader ε β PUnit)
      (fun returned encoding => returned = ⟨⟩ ∧ encoding = [])
      fun noted before => noted = event ∧ before = [] where
  reads := Reads.pure PUnit.unit
  noted_iff := by
    intro symbols noted rest
    simp only [LoggedReader.note, List.mem_singleton, Prod.mk.injEq]
    constructor
    · intro same
      exact ⟨[], ⟨same.1, rfl⟩, same.2.symm⟩
    · intro found
      obtain ⟨before, ⟨same, nothing⟩, whole⟩ := found
      rw [nothing] at whole
      exact ⟨same, whole.symm⟩

/-- The places of the second reader stand behind an encoding that the first one
reads. -/
theorem bind
    {continued : α → LoggedReader ε β γ} {formats : α → γ → List β → Prop}
    {places : α → ε → List β → Prop}
    (notes : Notes reader format place)
    (continues :
      ∀ value, Notes (continued value) (formats value) (places value)) :
    Notes (reader >>= continued)
      (fun returned encoding =>
        ∃ value first remaining,
          format value first ∧ formats value returned remaining ∧
            encoding = first ++ remaining)
      fun event before =>
        place event before ∨
          ∃ value first remaining,
            format value first ∧ places value event remaining ∧
              before = first ++ remaining where
  reads := by
    rw [forget_bind]
    exact notes.reads.bind fun value => (continues value).reads
  noted_iff := by
    intro symbols event rest
    rw [mem_log_bind, notes.noted_iff]
    constructor
    · intro noted
      rcases noted with ⟨before, isPlace, whole⟩ | ⟨value, middle, done, later⟩
      · exact ⟨before, Or.inl isPlace, whole⟩
      · obtain ⟨first, encodes, whole⟩ :=
          (notes.reads.done_iff symbols value middle).mp done
        obtain ⟨remaining, isPlace, behind⟩ :=
          ((continues value).noted_iff middle event rest).mp later
        refine
          ⟨first ++ remaining,
            Or.inr ⟨value, first, remaining, encodes, isPlace, rfl⟩, ?_⟩
        rw [whole, behind, List.append_assoc]
    · intro found
      obtain ⟨before, isPlace | later, whole⟩ := found
      · exact Or.inl ⟨before, isPlace, whole⟩
      · obtain ⟨value, first, remaining, encodes, isPlace, split⟩ := later
        have done :
            forget reader symbols = .done value (remaining ++ rest) := by
          rw [whole, split, List.append_assoc]
          exact notes.reads.read_append encodes _
        have noted :=
          ((continues value).noted_iff (remaining ++ rest) event rest).mpr
            ⟨remaining, isPlace, rfl⟩
        exact Or.inr ⟨value, _, done, noted⟩

/-- The first reader notes nothing. -/
theorem after
    {silent : Reader β α} {continued : α → LoggedReader ε β γ}
    {formats : α → γ → List β → Prop} {places : α → ε → List β → Prop}
    (reads : Reads silent format)
    (continues :
      ∀ value, Notes (continued value) (formats value) (places value)) :
    Notes (LoggedReader.quiet silent >>= continued)
      (fun returned encoding =>
        ∃ value first remaining,
          format value first ∧ formats value returned remaining ∧
            encoding = first ++ remaining)
      fun event before =>
        ∃ value first remaining,
          format value first ∧ places value event remaining ∧
            before = first ++ remaining := by
  refine ((Notes.quiet reads).bind continues).congr ?_
  intro event before
  exact iff_of_eq (false_or _)

/-- A place in a list stands behind some of its elements. -/
theorem many (notes : Notes reader format place) (count : Nat) :
    Notes (LoggedReader.many count reader)
      (fun values encoding =>
        values.length = count ∧
          ∃ encodings,
            List.Forall₂ format values encodings ∧
              encoding = encodings.flatten)
      fun event before =>
        ∃ values encodings last,
          values.length < count ∧ List.Forall₂ format values encodings ∧
            place event last ∧ before = encodings.flatten ++ last := by
  have reads := notes.reads.many count
  rw [← forget_many] at reads
  refine ⟨reads, ?_⟩
  clear reads
  induction count with
  | zero =>
      intro symbols event rest
      simp [LoggedReader.many, Pure.pure]
  | succ count inductionHypothesis =>
      intro symbols event rest
      simp only [LoggedReader.many, mem_log_bind, notes.noted_iff,
        inductionHypothesis]
      constructor
      · intro noted
        rcases noted with ⟨last, isPlace, whole⟩ |
          ⟨value, middle, done, noted | ⟨others, remaining, _, noted⟩⟩
        · exact
            ⟨last, ⟨[], [], last, Nat.succ_pos count, .nil, isPlace, rfl⟩,
              whole⟩
        · obtain ⟨_, ⟨values, encodings, last, short, encodes, isPlace, rfl⟩,
            behind⟩ := noted
          obtain ⟨first, encodesFirst, whole⟩ :=
            (notes.reads.done_iff symbols value middle).mp done
          refine
            ⟨first ++ (encodings.flatten ++ last),
              ⟨value :: values, first :: encodings, last,
                Nat.succ_lt_succ short, .cons encodesFirst encodes, isPlace,
                ?_⟩, ?_⟩
          · rw [List.flatten_cons, List.append_assoc]
          · rw [whole, behind]
            simp only [List.append_assoc]
        · cases noted
      · intro found
        obtain ⟨_, ⟨values, encodings, last, short, encodes, isPlace, rfl⟩,
          whole⟩ := found
        cases encodes with
        | nil =>
            exact Or.inl ⟨last, isPlace, whole⟩
        | @cons value first values encodings encodesFirst encodesOthers =>
            have done :
                forget reader symbols =
                  .done value (encodings.flatten ++ last ++ rest) := by
              rw [whole, List.flatten_cons, List.append_assoc,
                List.append_assoc, ← List.append_assoc _ last]
              exact notes.reads.read_append encodesFirst _
            exact
              Or.inr
                ⟨value, _, done, Or.inl
                  ⟨_, ⟨values, encodings, last, Nat.lt_of_succ_lt_succ short,
                    encodesOthers, isPlace, rfl⟩, rfl⟩⟩

end Notes

/-! ## Logs of strings that are not refused -/

/-- When a value is returned, each event fits what was left at that point. -/
def FitWhenDone
    (fits : ε → List β → Prop) (reader : LoggedReader ε β α) : Prop :=
  ∀ symbols value rest,
    forget reader symbols = .done value rest →
      ∀ event left, (event, left) ∈ (reader symbols).1 → fits event left

namespace FitWhenDone

variable {fits : ε → List β → Prop}

theorem quiet (reader : Reader β α) :
    FitWhenDone fits (LoggedReader.quiet reader) := by
  intro symbols value rest _ event left noted
  cases noted

theorem bind
    {reader : LoggedReader ε β α} {continued : α → LoggedReader ε β γ}
    (first : FitWhenDone fits reader)
    (continues : ∀ value, FitWhenDone fits (continued value)) :
    FitWhenDone fits (reader >>= continued) := by
  intro symbols returned rest done event left noted
  rw [forget_bind] at done
  simp only [Bind.bind] at done
  cases outcome : forget reader symbols with
  | overrun | refused =>
      rw [outcome] at done
      cases done
  | done value middle =>
      rw [outcome] at done
      rcases mem_log_bind.mp noted with early | ⟨other, _, doneFirst, late⟩
      · exact first symbols value middle outcome event left early
      · rw [outcome] at doneFirst
        cases doneFirst
        exact continues value middle returned rest done event left late

theorem many
    {reader : LoggedReader ε β α} (each : FitWhenDone fits reader)
    (count : Nat) : FitWhenDone fits (LoggedReader.many count reader) := by
  induction count with
  | zero =>
      exact FitWhenDone.quiet (Pure.pure [])
  | succ count inductionHypothesis =>
      exact
        each.bind fun first =>
          inductionHypothesis.bind fun others =>
            FitWhenDone.quiet (Pure.pure (first :: others))

end FitWhenDone

/-- A list has at most as many elements as symbols if no encoding is empty. -/
theorem count_le_of_many
    {reader : Reader β α} {format : α → List β → Prop}
    (reads : Reads reader format)
    (nonempty : ∀ value encoding, format value encoding → encoding ≠ [])
    {count : Nat} {symbols rest : List β} {values : List α}
    (done : Reader.many count reader symbols = .done values rest) :
    count ≤ symbols.length := by
  obtain ⟨_, ⟨length, encodings, encodes, rfl⟩, rfl⟩ :=
    ((reads.many count).done_iff _ _ _).mp done
  rw [← length, List.length_append]
  clear done length
  induction encodes with
  | nil =>
      exact Nat.zero_le _
  | cons encodesFirst _ inductionHypothesis =>
      have positive := List.length_pos_iff.mpr (nonempty _ _ encodesFirst)
      rw [List.flatten_cons, List.length_append, List.length_cons]
      omega

end LoggedReaders
