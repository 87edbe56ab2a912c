import Mathlib.Data.List.Basic

/-!
# Checked readers

A reader walks over a string of symbols with a pointer and the end of the
string.  What is left of the string is the range from the pointer to the end.
A reader either refuses the string, or returns a value and moves the pointer, or
looks at a symbol past the end, which a correct reader never does.

`Reads` says all there is to say about a reader by means of a format, the
relation between values and their encodings: the reader stays within the string,
and it returns a value exactly when the string starts with an encoding of it.
The rules below derive the format of a reader from those of its parts, and the
format determines the value, the encoding and what is left.
-/

namespace CheckedReaders

universe u

inductive Outcome (β α : Type u) where
  | overrun
  | refused
  | done (value : α) (rest : List β)
  deriving DecidableEq

def Outcome.value? {β α : Type u} : Outcome β α → Option α
  | .done value _ => some value
  | .overrun | .refused => none

def Reader (β α : Type u) :=
  List β → Outcome β α

variable {β α γ : Type u}

instance : Monad (Reader β) where
  pure value := fun symbols => .done value symbols
  bind reader continued := fun symbols =>
    match reader symbols with
    | .overrun => .overrun
    | .refused => .refused
    | .done value rest => continued value rest

namespace Reader

theorem bind_assoc
    {δ : Type u} (reader : Reader β α) (continued : α → Reader β γ)
    (last : γ → Reader β δ) :
    reader >>= continued >>= last =
      reader >>= fun value => continued value >>= last := by
  funext symbols
  simp only [Bind.bind]
  cases reader symbols with
  | overrun =>
      rfl
  | refused =>
      rfl
  | done value rest =>
      rfl

theorem pure_bind (value : α) (continued : α → Reader β γ) :
    (pure value >>= continued : Reader β γ) = continued value :=
  rfl

/-- Refuse unless `count` symbols are left. -/
def demand (count : Nat) : Reader β PUnit := fun symbols =>
  if symbols.length < count then .refused else .done ⟨⟩ symbols

/-- Copy `count` symbols and move past them. -/
def fetch (count : Nat) : Reader β (List β) := fun symbols =>
  if count ≤ symbols.length then
    .done (symbols.take count) (symbols.drop count)
  else
    .overrun

/-- A check followed by the copy it is for. -/
def block (count : Nat) : Reader β (List β) := do
  demand count
  fetch count

theorem block_of_le
    {count : Nat} {symbols : List β} (enough : count ≤ symbols.length) :
    block count symbols =
      .done (symbols.take count) (symbols.drop count) := by
  have checked :
      demand count symbols = .done ⟨⟩ symbols :=
    if_neg (Nat.not_lt_of_le enough)
  simp only [block, Bind.bind, checked]
  exact if_pos enough

theorem block_of_lt
    {count : Nat} {symbols : List β} (short : symbols.length < count) :
    block count symbols = .refused := by
  have checked : demand count symbols = .refused := if_pos short
  simp only [block, Bind.bind, checked]

/-- Read `count` elements, one after the other. -/
def many : Nat → Reader β α → Reader β (List α)
  | 0, _ => pure []
  | count + 1, reader => do
      let first ← reader
      let others ← many count reader
      pure (first :: others)

end Reader

/-! ## Formats -/

/-- The reader stays within every string and returns a value exactly when the
string starts with an encoding of it. -/
structure Reads
    (reader : Reader β α) (format : α → List β → Prop) : Prop where
  bounded : ∀ symbols, reader symbols ≠ .overrun
  done_iff :
    ∀ symbols value rest,
      reader symbols = .done value rest ↔
        ∃ encoding, format value encoding ∧ symbols = encoding ++ rest

namespace Reads

variable {reader : Reader β α} {format other : α → List β → Prop}

theorem congr
    (reads : Reads reader format)
    (same : ∀ value encoding, format value encoding ↔ other value encoding) :
    Reads reader other where
  bounded := reads.bounded
  done_iff := by
    intro symbols value rest
    rw [reads.done_iff]
    simp only [same]

theorem pure (value : α) :
    Reads (Pure.pure value : Reader β α)
      fun returned encoding => returned = value ∧ encoding = [] where
  bounded := by
    intro symbols overrun
    cases overrun
  done_iff := by
    intro symbols returned rest
    constructor
    · intro done
      cases done
      exact ⟨[], ⟨rfl, rfl⟩, rfl⟩
    · rintro ⟨encoding, ⟨rfl, rfl⟩, rfl⟩
      rfl

/-- One reader after another reads one encoding after another. -/
theorem bind
    {continued : α → Reader β γ} {formats : α → γ → List β → Prop}
    (reads : Reads reader format)
    (continues : ∀ value, Reads (continued value) (formats value)) :
    Reads (reader >>= continued)
      fun returned encoding =>
        ∃ value first remaining,
          format value first ∧ formats value returned remaining ∧
            encoding = first ++ remaining where
  bounded := by
    intro symbols overrun
    have bounded := reads.bounded symbols
    simp only [Bind.bind] at overrun
    cases outcome : reader symbols with
    | overrun =>
        exact bounded outcome
    | refused =>
        rw [outcome] at overrun
        cases overrun
    | done value rest =>
        rw [outcome] at overrun
        exact (continues value).bounded rest overrun
  done_iff := by
    intro symbols returned rest
    constructor
    · intro done
      simp only [Bind.bind] at done
      cases outcome : reader symbols with
      | overrun | refused =>
          rw [outcome] at done
          cases done
      | done value middle =>
          rw [outcome] at done
          obtain ⟨first, encodesFirst, rfl⟩ :=
            (reads.done_iff symbols value middle).mp outcome
          obtain ⟨remaining, encodesRemaining, rfl⟩ :=
            ((continues value).done_iff middle returned rest).mp done
          exact
            ⟨first ++ remaining,
              ⟨value, first, remaining, encodesFirst, encodesRemaining, rfl⟩,
              (List.append_assoc first remaining rest).symm⟩
    · rintro ⟨_, ⟨value, first, remaining, encodesFirst, encodesRemaining,
        rfl⟩, rfl⟩
      have outcome :
          reader (first ++ remaining ++ rest) =
            .done value (remaining ++ rest) :=
        (reads.done_iff _ _ _).mpr
          ⟨first, encodesFirst, List.append_assoc first remaining rest⟩
      have done :
          continued value (remaining ++ rest) = .done returned rest :=
        ((continues value).done_iff _ _ _).mpr
          ⟨remaining, encodesRemaining, rfl⟩
      simp only [Bind.bind, outcome]
      exact done

theorem block (count : Nat) :
    Reads (Reader.block count : Reader β (List β))
      fun symbols encoding =>
        encoding = symbols ∧ symbols.length = count where
  bounded := by
    intro symbols overrun
    by_cases short : symbols.length < count
    · rw [Reader.block_of_lt short] at overrun
      cases overrun
    · rw [Reader.block_of_le (Nat.le_of_not_lt short)] at overrun
      cases overrun
  done_iff := by
    intro symbols returned rest
    constructor
    · intro done
      by_cases short : symbols.length < count
      · rw [Reader.block_of_lt short] at done
        cases done
      · have enough : count ≤ symbols.length := Nat.le_of_not_lt short
        rw [Reader.block_of_le enough] at done
        cases done
        exact
          ⟨symbols.take count, ⟨rfl, List.length_take_of_le enough⟩,
            (List.take_append_drop count symbols).symm⟩
    · rintro ⟨encoding, ⟨rfl, rfl⟩, rfl⟩
      have enough : encoding.length ≤ (encoding ++ rest).length := by
        rw [List.length_append]
        omega
      rw [Reader.block_of_le enough, List.take_left, List.drop_left]

/-- A block of symbols that is converted by a bijection. -/
theorem ofBlock
    {count : Nat} {decode : List β → α} {encode : α → List β}
    (length : ∀ value, (encode value).length = count)
    (decode_encode : ∀ value, decode (encode value) = value)
    (encode_decode :
      ∀ symbols, symbols.length = count →
        encode (decode symbols) = symbols) :
    Reads (do
        let symbols ← Reader.block count
        Pure.pure (decode symbols))
      fun value encoding => encoding = encode value := by
  refine
    ((Reads.block count).bind fun symbols =>
      Reads.pure (decode symbols)).congr ?_
  intro value encoding
  constructor
  · rintro ⟨symbols, _, _, ⟨rfl, exact⟩, ⟨rfl, rfl⟩, rfl⟩
    rw [List.append_nil, encode_decode _ exact]
  · intro same
    subst same
    exact
      ⟨encode value, encode value, [], ⟨rfl, length value⟩,
        ⟨(decode_encode value).symm, rfl⟩, (List.append_nil _).symm⟩

/-- A list is encoded as its elements, one after the other. -/
theorem many (reads : Reads reader format) (count : Nat) :
    Reads (Reader.many count reader)
      fun values encoding =>
        values.length = count ∧
          ∃ encodings,
            List.Forall₂ format values encodings ∧
              encoding = encodings.flatten := by
  induction count with
  | zero =>
      refine (Reads.pure []).congr ?_
      intro values encoding
      constructor
      · rintro ⟨rfl, rfl⟩
        exact ⟨rfl, [], .nil, rfl⟩
      · rintro ⟨empty, encodings, encodes, rfl⟩
        cases List.length_eq_zero_iff.mp empty
        cases encodes
        exact ⟨rfl, rfl⟩
  | succ count inductionHypothesis =>
      refine
        (reads.bind fun first =>
          inductionHypothesis.bind fun others =>
            Reads.pure (first :: others)).congr ?_
      intro values encoding
      constructor
      · rintro ⟨first, initial, _, encodesFirst,
          ⟨others, _, _, ⟨length, encodings, encodes, rfl⟩, ⟨rfl, rfl⟩, rfl⟩,
          rfl⟩
        refine
          ⟨by rw [List.length_cons, length], initial :: encodings,
            .cons encodesFirst encodes, ?_⟩
        rw [List.flatten_cons, List.append_nil]
      · rintro ⟨length, encodings, encodes, rfl⟩
        cases encodes with
        | nil =>
            cases length
        | cons encodesFirst encodesOthers =>
            refine
              ⟨_, _, _, encodesFirst,
                ⟨_, _, [],
                  ⟨Nat.succ.inj length, _, encodesOthers, rfl⟩,
                  ⟨rfl, rfl⟩, rfl⟩, ?_⟩
            rw [List.flatten_cons, List.append_nil]

/-! ## Records -/

/-- A record is encoded as a part, from which one field is converted, followed
by the rest. -/
def Part
    {δ : Type u} (field : γ → δ) (convert : α → δ)
    (format : α → List β → Prop) (remaining : γ → List β → Prop)
    (record : γ) (encoding : List β) : Prop :=
  ∃ value first rest,
    field record = convert value ∧ format value first ∧
      remaining record rest ∧ encoding = first ++ rest

/-- The rest of the record is read with the field known. -/
theorem part
    {δ : Type u} {known : γ → Prop}
    {continued : α → Reader β γ} {remaining : γ → List β → Prop}
    (reads : Reads reader format) (field : γ → δ) (convert : α → δ)
    (continues :
      ∀ value,
        Reads (continued value) fun record encoding =>
          (known record ∧ field record = convert value) ∧
            remaining record encoding) :
    Reads (reader >>= continued) fun record encoding =>
      known record ∧ Part field convert format remaining record encoding := by
  refine (reads.bind continues).congr ?_
  intro record encoding
  constructor
  · rintro ⟨value, first, rest, encodes, ⟨⟨isKnown, fieldEq⟩, encodesRest⟩,
      rfl⟩
    exact ⟨isKnown, value, first, rest, fieldEq, encodes, encodesRest, rfl⟩
  · rintro ⟨isKnown, value, first, rest, fieldEq, encodes, encodesRest, rfl⟩
    exact
      ⟨value, first, rest, encodes, ⟨⟨isKnown, fieldEq⟩, encodesRest⟩, rfl⟩

/-- When all fields are known, nothing is left. -/
theorem complete
    {known : γ → Prop} {record : γ} (all : ∀ other, known other ↔ other = record) :
    Reads (Pure.pure record : Reader β γ) fun other encoding =>
      known other ∧ encoding = [] := by
  refine (Reads.pure record).congr ?_
  intro other encoding
  rw [all]

theorem part_exact
    {write : α → List β} {field : γ → α}
    {remaining : γ → List β → Prop} {record : γ} {encoding : List β} :
    Part field id (fun value first => first = write value)
        remaining record encoding ↔
      ∃ rest, remaining record rest ∧
        encoding = write (field record) ++ rest := by
  constructor
  · rintro ⟨_, _, rest, rfl, rfl, encodesRest, rfl⟩
    exact ⟨rest, encodesRest, rfl⟩
  · rintro ⟨rest, encodesRest, rfl⟩
    exact ⟨_, _, rest, rfl, rfl, encodesRest, rfl⟩

theorem part_valid
    {valid : α → Prop} {write : α → List β} {field : γ → α}
    {remaining : γ → List β → Prop} {record : γ} {encoding : List β} :
    Part field id (fun value first => valid value ∧ first = write value)
        remaining record encoding ↔
      valid (field record) ∧
        ∃ rest, remaining record rest ∧
          encoding = write (field record) ++ rest := by
  constructor
  · rintro ⟨_, _, rest, rfl, ⟨isValid, rfl⟩, encodesRest, rfl⟩
    exact ⟨isValid, rest, encodesRest, rfl⟩
  · rintro ⟨isValid, rest, encodesRest, rfl⟩
    exact ⟨_, _, rest, rfl, ⟨isValid, rfl⟩, encodesRest, rfl⟩

/-- A field that is converted to what is written and back. -/
theorem part_converted
    {δ : Type u} {write : α → List β} {field : γ → δ} {convert : α → δ}
    {remaining : γ → List β → Prop} {record : γ} {encoding : List β}
    (valid : δ → Prop) (back : δ → α)
    (back_convert : ∀ value, back (convert value) = value)
    (valid_convert : ∀ value, valid (convert value))
    (convert_back : ∀ value, valid value → convert (back value) = value) :
    Part field convert (fun value first => first = write value)
        remaining record encoding ↔
      valid (field record) ∧
        ∃ rest, remaining record rest ∧
          encoding = write (back (field record)) ++ rest := by
  constructor
  · rintro ⟨value, _, rest, fieldEq, rfl, encodesRest, rfl⟩
    rw [fieldEq, back_convert]
    exact ⟨valid_convert value, rest, encodesRest, rfl⟩
  · rintro ⟨isValid, rest, encodesRest, rfl⟩
    exact
      ⟨_, _, rest, (convert_back _ isValid).symm, rfl, encodesRest, rfl⟩

/-! ## What a format determines -/

theorem read_append
    (reads : Reads reader format) {value : α} {encoding : List β}
    (encodes : format value encoding) (rest : List β) :
    reader (encoding ++ rest) = .done value rest :=
  (reads.done_iff _ _ _).mpr ⟨encoding, encodes, rfl⟩

/-- No string starts with two encodings. -/
theorem unique
    (reads : Reads reader format) {first second : α}
    {encoding another rest remaining : List β}
    (encodesFirst : format first encoding)
    (encodesSecond : format second another)
    (same : encoding ++ rest = another ++ remaining) :
    first = second ∧ encoding = another ∧ rest = remaining := by
  have readFirst := reads.read_append encodesFirst rest
  rw [same, reads.read_append encodesSecond remaining] at readFirst
  injection readFirst with sameValue sameRest
  subst sameRest
  exact ⟨sameValue.symm, List.append_cancel_right same, rfl⟩

/-- A string that is cut off inside an encoding is refused. -/
theorem refused_of_cut
    (reads : Reads reader format) {value : α} {initial missing : List β}
    (encodes : format value (initial ++ missing)) (cut : missing ≠ []) :
    reader initial = .refused := by
  cases outcome : reader initial with
  | overrun =>
      exact (reads.bounded initial outcome).elim
  | refused =>
      rfl
  | done early rest =>
      obtain ⟨encoding, encodesEarly, rfl⟩ :=
        (reads.done_iff initial early rest).mp outcome
      have same :
          encoding ++ rest ++ missing ++ [] = encoding ++ (rest ++ missing) := by
        simp only [List.append_assoc, List.append_nil]
      obtain ⟨_, _, nothing⟩ := reads.unique encodes encodesEarly same
      exact (cut (List.append_eq_nil_iff.mp nothing.symm).2).elim

end Reads

end CheckedReaders
