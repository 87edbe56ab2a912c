import Mathlib.Data.List.Basic

/-!
# Resumable parsers

A resumable parser keeps what it has not yet understood in a buffer.  Given its
phase and the buffer it waits for more, rejects what it sees, or takes some
symbols from the front of the buffer and goes on with the rest.

A parser is stable when symbols that arrive later do not change what it has
decided.  The outputs of a stable parser, the place at which it rejects and the
phase and buffer with which it waits do not depend on how a stream is cut into
the chunks that arrive.
-/

namespace ResumableParsers

universe u v w

inductive Verdict (σ : Type u) (β : Type v) (ω : Type w) where
  | waits
  | rejects
  | advances (next : σ) (rest : List β) (outputs : List ω)

/-- How a parser stops: at symbols that it rejects, or waiting for more. -/
inductive Ending (σ : Type u) (β : Type v) where
  | rejected (rest : List β)
  | waiting (phase : σ) (buffer : List β)
  deriving DecidableEq

structure Parsed (σ : Type u) (β : Type v) (ω : Type w) where
  outputs : List ω
  ending : Ending σ β
  deriving DecidableEq

variable {σ : Type u} {β : Type v} {ω : Type w}

def Parsed.after (earlier : List ω) (parsed : Parsed σ β ω) :
    Parsed σ β ω where
  outputs := earlier ++ parsed.outputs
  ending := parsed.ending

variable (parser : σ → List β → Verdict σ β ω)

/-- Go on until the parser waits or rejects, at most `fuel` times. -/
def runFor : Nat → σ → List β → Parsed σ β ω
  | 0, phase, buffer => ⟨[], .waiting phase buffer⟩
  | fuel + 1, phase, buffer =>
      match parser phase buffer with
      | .waits => ⟨[], .waiting phase buffer⟩
      | .rejects => ⟨[], .rejected buffer⟩
      | .advances next rest outputs => (runFor fuel next rest).after outputs

/-- Go on until the parser waits or rejects. -/
def run (measure : σ → List β → Nat) (phase : σ) (buffer : List β) :
    Parsed σ β ω :=
  runFor parser (measure phase buffer + 1) phase buffer

/-- The verdicts of the parser survive the arrival of more symbols, and it does
not advance for ever. -/
structure Stable (measure : σ → List β → Nat) : Prop where
  decreases :
    ∀ {phase buffer next rest outputs},
      parser phase buffer = .advances next rest outputs →
        measure next rest < measure phase buffer
  advances_append :
    ∀ {phase buffer next rest outputs},
      parser phase buffer = .advances next rest outputs →
        ∀ more,
          parser phase (buffer ++ more) =
            .advances next (rest ++ more) outputs
  rejects_append :
    ∀ {phase buffer},
      parser phase buffer = .rejects →
        ∀ more, parser phase (buffer ++ more) = .rejects

variable {parser} {measure : σ → List β → Nat}

theorem runFor_waits
    {fuel : Nat} {phase : σ} {buffer : List β}
    (waits : parser phase buffer = .waits) :
    runFor parser (fuel + 1) phase buffer =
      ⟨[], .waiting phase buffer⟩ := by
  simp only [runFor, waits]

theorem runFor_rejects
    {fuel : Nat} {phase : σ} {buffer : List β}
    (rejects : parser phase buffer = .rejects) :
    runFor parser (fuel + 1) phase buffer = ⟨[], .rejected buffer⟩ := by
  simp only [runFor, rejects]

theorem runFor_advances
    {fuel : Nat} {phase next : σ} {buffer rest : List β} {outputs : List ω}
    (advances : parser phase buffer = .advances next rest outputs) :
    runFor parser (fuel + 1) phase buffer =
      (runFor parser fuel next rest).after outputs := by
  simp only [runFor, advances]

theorem run_waits
    {phase : σ} {buffer : List β} (waits : parser phase buffer = .waits) :
    run parser measure phase buffer = ⟨[], .waiting phase buffer⟩ :=
  runFor_waits waits

theorem run_rejects
    {phase : σ} {buffer : List β} (rejects : parser phase buffer = .rejects) :
    run parser measure phase buffer = ⟨[], .rejected buffer⟩ :=
  runFor_rejects rejects

namespace Stable

variable (stable : Stable parser measure)

include stable

/-- More fuel than the measure changes nothing. -/
theorem runFor_eq_run
    {fuel : Nat} {phase : σ} {buffer : List β}
    (enough : measure phase buffer < fuel) :
    runFor parser fuel phase buffer = run parser measure phase buffer := by
  induction fuel using Nat.strongRecOn generalizing phase buffer with
  | ind fuel inductionHypothesis =>
      obtain ⟨fuel, rfl⟩ :=
        Nat.exists_eq_succ_of_ne_zero (Nat.ne_zero_of_lt enough)
      cases verdict : parser phase buffer with
      | waits =>
          rw [run_waits verdict]
          exact runFor_waits verdict
      | rejects =>
          rw [run_rejects verdict]
          exact runFor_rejects verdict
      | advances next rest outputs =>
          have smaller := stable.decreases verdict
          have within :
              runFor parser fuel next rest = run parser measure next rest :=
            inductionHypothesis fuel (Nat.lt_succ_self fuel) (by omega)
          have exactly :
              runFor parser (measure phase buffer) next rest =
                run parser measure next rest :=
            inductionHypothesis (measure phase buffer) enough smaller
          calc
            _ = (runFor parser fuel next rest).after outputs :=
              runFor_advances verdict
            _ = (run parser measure next rest).after outputs := by
              rw [within]
            _ = (runFor parser (measure phase buffer) next rest).after
                outputs := by
              rw [exactly]
            _ = run parser measure phase buffer :=
              (runFor_advances verdict).symm

theorem run_advances
    {phase next : σ} {buffer rest : List β} {outputs : List ω}
    (advances : parser phase buffer = .advances next rest outputs) :
    run parser measure phase buffer =
      (run parser measure next rest).after outputs := by
  rw [run, runFor_advances advances,
    stable.runFor_eq_run (stable.decreases advances)]

/-- The induction along a run. -/
theorem run_induction
    {motive : σ → List β → Parsed σ β ω → Prop}
    (waits :
      ∀ {phase buffer}, parser phase buffer = .waits →
        motive phase buffer ⟨[], .waiting phase buffer⟩)
    (rejects :
      ∀ {phase buffer}, parser phase buffer = .rejects →
        motive phase buffer ⟨[], .rejected buffer⟩)
    (advances :
      ∀ {phase buffer next rest outputs},
        parser phase buffer = .advances next rest outputs →
          motive next rest (run parser measure next rest) →
            motive phase buffer
              ((run parser measure next rest).after outputs))
    (phase : σ) (buffer : List β) :
    motive phase buffer (run parser measure phase buffer) := by
  generalize size : measure phase buffer = bound
  induction bound using Nat.strongRecOn generalizing phase buffer with
  | ind bound inductionHypothesis =>
      subst size
      cases verdict : parser phase buffer with
      | waits =>
          rw [run_waits verdict]
          exact waits verdict
      | rejects =>
          rw [run_rejects verdict]
          exact rejects verdict
      | advances next rest outputs =>
          rw [stable.run_advances verdict]
          apply advances verdict
          exact
            inductionHypothesis _ (stable.decreases verdict) next rest rfl

/-- A run that has rejected ignores what arrives; one that waits goes on. -/
theorem run_append (phase : σ) (buffer more : List β) :
    run parser measure phase (buffer ++ more) =
      match (run parser measure phase buffer).ending with
      | .rejected rest =>
          ⟨(run parser measure phase buffer).outputs, .rejected (rest ++ more)⟩
      | .waiting next rest =>
          (run parser measure next (rest ++ more)).after
            (run parser measure phase buffer).outputs := by
  refine
    stable.run_induction
      (motive := fun phase buffer parsed =>
        run parser measure phase (buffer ++ more) =
          match parsed.ending with
          | .rejected rest => ⟨parsed.outputs, .rejected (rest ++ more)⟩
          | .waiting next rest =>
              (run parser measure next (rest ++ more)).after parsed.outputs)
      ?_ ?_ ?_ phase buffer
  · intro phase buffer _
    rfl
  · intro phase buffer rejects
    exact run_rejects (stable.rejects_append rejects more)
  · intro phase buffer next rest outputs advances inductionHypothesis
    rw [stable.run_advances (stable.advances_append advances more),
      inductionHypothesis]
    cases ending : (run parser measure next rest).ending with
    | rejected _ =>
        simp only [Parsed.after, ending]
    | waiting _ _ =>
        simp only [Parsed.after, ending, List.append_assoc]

/-- A run does not stop before the parser waits. -/
theorem waits_of_waiting
    {phase next : σ} {buffer rest : List β}
    (ending :
      (run parser measure phase buffer).ending = .waiting next rest) :
    parser next rest = .waits := by
  revert ending
  refine
    stable.run_induction
      (motive := fun _ _ parsed =>
        parsed.ending = .waiting next rest → parser next rest = .waits)
      ?_ ?_ ?_ phase buffer
  · intro phase buffer waits same
    cases same
    exact waits
  · rintro phase buffer _ ⟨⟩
  · intro phase buffer next rest outputs _ inductionHypothesis
    exact inductionHypothesis

end Stable

/-! ## Chunks -/

/-- How the parsing of a stream ends: with the number of symbols that precede
the rejected ones, or waiting for more. -/
inductive StreamEnding (σ : Type u) (β : Type v) where
  | rejected (position : Nat)
  | waiting (phase : σ) (buffer : List β)
  deriving DecidableEq

structure StreamParsed (σ : Type u) (β : Type v) (ω : Type w) where
  outputs : List ω
  ending : StreamEnding σ β
  deriving DecidableEq

def StreamParsed.after (earlier : List ω) (parsed : StreamParsed σ β ω) :
    StreamParsed σ β ω where
  outputs := earlier ++ parsed.outputs
  ending := parsed.ending

variable (parser measure) in
/-- Append each chunk to the buffer and parse.  Nothing is done with the chunks
behind one that is rejected. -/
def feed (received : Nat) (phase : σ) (buffer : List β) :
    List (List β) → StreamParsed σ β ω
  | [] => ⟨[], .waiting phase buffer⟩
  | chunk :: chunks =>
      match run parser measure phase (buffer ++ chunk) with
      | ⟨outputs, .rejected rest⟩ =>
          ⟨outputs, .rejected (received + chunk.length - rest.length)⟩
      | ⟨outputs, .waiting next rest⟩ =>
          (feed (received + chunk.length) next rest chunks).after outputs

/-- The place in the stream, of which `received` symbols have arrived. -/
def Ending.located (received : Nat) : Ending σ β → StreamEnding σ β
  | .rejected rest => .rejected (received - rest.length)
  | .waiting phase buffer => .waiting phase buffer

theorem feed_singleton
    (received : Nat) (phase : σ) (buffer chunk : List β) :
    feed parser measure received phase buffer [chunk] =
      ⟨(run parser measure phase (buffer ++ chunk)).outputs,
        (run parser measure phase (buffer ++ chunk)).ending.located
          (received + chunk.length)⟩ := by
  cases parsed : run parser measure phase (buffer ++ chunk) with
  | mk outputs ending =>
      cases ending with
      | rejected rest =>
          simp only [feed, parsed, Ending.located]
      | waiting next rest =>
          simp only [feed, parsed, Ending.located, StreamParsed.after,
            List.append_nil]

/-- It makes no difference how a stream is cut. -/
theorem Stable.feed_eq_flatten
    (stable : Stable parser measure)
    (received : Nat) {phase : σ} {buffer : List β}
    (waits : parser phase buffer = .waits) (chunks : List (List β)) :
    feed parser measure received phase buffer chunks =
      feed parser measure received phase buffer [chunks.flatten] := by
  induction chunks generalizing received phase buffer with
  | nil =>
      rw [feed_singleton, List.flatten_nil, List.append_nil, run_waits waits]
      rfl
  | cons chunk chunks inductionHypothesis =>
      have whole := stable.run_append phase (buffer ++ chunk) chunks.flatten
      rw [List.append_assoc] at whole
      rw [feed_singleton, List.flatten_cons, whole]
      cases parsed : run parser measure phase (buffer ++ chunk) with
      | mk outputs ending =>
          cases ending with
          | rejected rest =>
              simp only [feed, parsed, Ending.located, List.length_append]
              congr 2
              omega
          | waiting next rest =>
              have waitsNext : parser next rest = .waits :=
                stable.waits_of_waiting (congrArg Parsed.ending parsed)
              have later :=
                inductionHypothesis (received + chunk.length) waitsNext
              rw [feed_singleton] at later
              simp only [feed, parsed, later, Parsed.after,
                StreamParsed.after, List.length_append, Nat.add_assoc]

end ResumableParsers
