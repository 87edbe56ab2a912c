import Mathlib.Data.List.Infix

/-!
# Histories

A history lists the records of what has happened, the newest first.  A record has
been made when `older` was the history if `record :: older` is a suffix of the
history.  A history is justified if every record of it is by what was recorded
before.
-/

namespace Histories

universe u

variable {Record : Type u}

/-- Every record is justified by the history in which it has been made. -/
def Justified
    (justifies : List Record → Record → Prop) (history : List Record) : Prop :=
  ∀ record older, record :: older <:+ history → justifies older record

variable {justifies weaker : List Record → Record → Prop}
variable {record : Record} {history : List Record}

theorem justified_nil : Justified justifies ([] : List Record) := by
  intro record older made
  cases List.suffix_nil.mp made

theorem justified_cons :
    Justified justifies (record :: history) ↔
      justifies history record ∧ Justified justifies history := by
  constructor
  · intro justified
    refine ⟨justified record history (List.suffix_refl _), ?_⟩
    intro earlier older made
    exact justified earlier older (made.trans (List.suffix_cons _ _))
  · rintro ⟨newest, justified⟩ earlier older made
    rcases List.suffix_cons_iff.mp made with same | before
    · cases same
      exact newest
    · exact justified earlier older before

theorem Justified.mono
    (justified : Justified justifies history)
    (weakens :
      ∀ record older, justifies older record → weaker older record) :
    Justified weaker history := by
  intro record older made
  exact weakens record older (justified record older made)

end Histories
