import Mathlib.Data.List.Nodup
import Mathlib.Data.List.Perm.Basic

/-!
# Tables of numbers that are used again

An operating system gives out numbers that nobody has and takes them back by number
only, so a number can be given back by one who does not have it.  The table tells who
has each number, and records the numbers that were given back by somebody else or by
nobody.

`Accounts` says that everyone has the numbers they think they have.  Whoever gives
back only such a number keeps it so.
-/

namespace DescriptorTables

universe u v

structure Table (ν : Type u) (ω : Type v) where
  entries : List (ν × ω) := []
  misclosed : List ν := []

namespace Table

variable {ν : Type u} {ω : Type v} [DecidableEq ν] [DecidableEq ω]

def numbers (table : Table ν ω) : List ν :=
  table.entries.map Prod.fst

/-- A number that nobody has is given to `owner`. -/
def openFor (table : Table ν ω) (number : ν) (owner : ω) :
    Option (Table ν ω) :=
  if number ∈ table.numbers then none
  else some { table with entries := (number, owner) :: table.entries }

/-- `owner` gives back a number, whoever has it. -/
def close (table : Table ν ω) (number : ν) (owner : ω) : Table ν ω where
  entries := table.entries.filter fun entry => entry.1 ≠ number
  misclosed :=
    if (number, owner) ∈ table.entries then table.misclosed
    else table.misclosed ++ [number]

def closeAll (table : Table ν ω) (owner : ω) (given : List ν) : Table ν ω :=
  given.foldl (fun table number => table.close number owner) table

/-- What everyone holds is what the table says they have. -/
structure Accounts (table : Table ν ω) (held : ω → List ν) : Prop where
  distinct : table.numbers.Nodup
  nodup : ∀ owner, (held owner).Nodup
  entries :
    ∀ number owner, (number, owner) ∈ table.entries ↔ number ∈ held owner

variable {table next : Table ν ω} {held : ω → List ν} {number : ν} {owner : ω}

omit [DecidableEq ν] [DecidableEq ω] in
theorem accounts_empty : Accounts ({} : Table ν ω) fun _ => [] where
  distinct := List.nodup_nil
  nodup _ := List.nodup_nil
  entries _ _ := iff_of_false List.not_mem_nil List.not_mem_nil

omit [DecidableEq ν] [DecidableEq ω] in
theorem Accounts.of_perm
    (accounts : Accounts table held) {later : ω → List ν}
    (same : ∀ owner, (later owner).Perm (held owner)) :
    Accounts table later where
  distinct := accounts.distinct
  nodup owner := (same owner).nodup_iff.mpr (accounts.nodup owner)
  entries number owner := by
    rw [(same owner).mem_iff]
    exact accounts.entries number owner

omit [DecidableEq ν] [DecidableEq ω] in
/-- Nobody else holds a number. -/
theorem Accounts.owner_eq
    (accounts : Accounts table held) {other : ω}
    (isHeld : number ∈ held owner) (otherHeld : number ∈ held other) :
    owner = other := by
  have entry := (accounts.entries number owner).mpr isHeld
  have otherEntry := (accounts.entries number other).mpr otherHeld
  have same :=
    List.inj_on_of_nodup_map accounts.distinct entry otherEntry rfl
  exact congrArg Prod.snd same

omit [DecidableEq ω] in
theorem openFor_eq_some
    (opened : table.openFor number owner = some next) :
    number ∉ table.numbers ∧
      next = { table with entries := (number, owner) :: table.entries } := by
  unfold openFor at opened
  split at opened
  · cases opened
  · rename_i fresh
    exact ⟨fresh, (Option.some.inj opened).symm⟩

omit [DecidableEq ω] in
theorem Accounts.openFor
    (accounts : Accounts table held)
    (opened : table.openFor number owner = some next)
    {later : ω → List ν}
    (own : (later owner).Perm (number :: held owner))
    (others : ∀ other, other ≠ owner → later other = held other) :
    Accounts next later ∧ next.misclosed = table.misclosed := by
  obtain ⟨fresh, rfl⟩ := openFor_eq_some opened
  have unheld (other : ω) : number ∉ held other := by
    intro isHeld
    have entry := (accounts.entries number other).mpr isHeld
    exact fresh (List.mem_map_of_mem entry)
  refine ⟨⟨List.nodup_cons.mpr ⟨fresh, accounts.distinct⟩, ?_, ?_⟩, rfl⟩
  · intro other
    by_cases isOwner : other = owner
    · subst isOwner
      rw [own.nodup_iff, List.nodup_cons]
      exact ⟨unheld other, accounts.nodup other⟩
    · rw [others other isOwner]
      exact accounts.nodup other
  · intro asked other
    rw [List.mem_cons, accounts.entries, Prod.mk.injEq]
    by_cases isOwner : other = owner
    · subst isOwner
      rw [own.mem_iff, List.mem_cons, and_iff_left rfl]
    · rw [others other isOwner]
      simp only [isOwner, and_false, false_or]

/-- Whoever gives back a number it holds harms nobody. -/
theorem Accounts.close
    (accounts : Accounts table held) (isHeld : number ∈ held owner)
    {later : ω → List ν}
    (own : (number :: later owner).Perm (held owner))
    (others : ∀ other, other ≠ owner → later other = held other) :
    Accounts (table.close number owner) later ∧
      (table.close number owner).misclosed = table.misclosed := by
  have entry := (accounts.entries number owner).mpr isHeld
  obtain ⟨notLater, nodup⟩ :=
    List.nodup_cons.mp (own.nodup_iff.mpr (accounts.nodup owner))
  refine ⟨⟨?_, ?_, ?_⟩, if_pos entry⟩
  · exact
      (List.Sublist.map _ List.filter_sublist).nodup accounts.distinct
  · intro other
    by_cases isOwner : other = owner
    · subst isOwner
      exact nodup
    · rw [others other isOwner]
      exact accounts.nodup other
  · intro asked other
    simp only [Table.close, List.mem_filter, accounts.entries,
      decide_eq_true_eq]
    by_cases isOwner : other = owner
    · subst isOwner
      rw [← own.mem_iff, List.mem_cons]
      constructor
      · rintro ⟨rfl | stays, isOther⟩
        · exact absurd rfl isOther
        · exact stays
      · intro stays
        refine ⟨Or.inr stays, ?_⟩
        rintro rfl
        exact notLater stays
    · rw [others other isOwner, and_iff_left_iff_imp]
      rintro otherHeld rfl
      exact isOwner (accounts.owner_eq otherHeld isHeld)

/-- A number that is given back as soon as it has been given out. -/
theorem Accounts.openFor_close
    (accounts : Accounts table held)
    (opened : table.openFor number owner = some next) :
    Accounts (next.close number owner) held ∧
      (next.close number owner).misclosed = table.misclosed := by
  let between : ω → List ν :=
    Function.update held owner (number :: held owner)
  have own : between owner = number :: held owner :=
    Function.update_self _ _ _
  have others (other : ω) (isOther : other ≠ owner) :
      between other = held other :=
    Function.update_of_ne isOther _ _
  obtain ⟨accountsNext, sameMisclosed⟩ :=
    accounts.openFor opened (List.Perm.of_eq own) others
  have isHeld : number ∈ between owner := by
    rw [own]
    exact List.mem_cons_self
  obtain ⟨closed, sameAfter⟩ :=
    accountsNext.close isHeld (List.Perm.of_eq own.symm)
      fun other isOther => (others other isOther).symm
  exact ⟨closed, sameAfter.trans sameMisclosed⟩

/-- Giving back all of what the owner holds. -/
theorem Accounts.closeAll
    (accounts : Accounts table held) {later : ω → List ν}
    (given : List ν) (own : (given ++ later owner).Perm (held owner))
    (others : ∀ other, other ≠ owner → later other = held other) :
    Accounts (table.closeAll owner given) later ∧
      (table.closeAll owner given).misclosed = table.misclosed := by
  induction given generalizing table held with
  | nil =>
      refine ⟨accounts.of_perm ?_, rfl⟩
      intro other
      by_cases isOwner : other = owner
      · subst isOwner
        exact own
      · rw [others other isOwner]
  | cons first rest inductionHypothesis =>
      let between : ω → List ν :=
        Function.update held owner (rest ++ later owner)
      have isHeld : first ∈ held owner :=
        own.mem_iff.mp List.mem_cons_self
      have betweenOwn : between owner = rest ++ later owner :=
        Function.update_self _ _ _
      have betweenOthers (other : ω) (isOther : other ≠ owner) :
          between other = held other :=
        Function.update_of_ne isOther _ _
      obtain ⟨closed, sameMisclosed⟩ :=
        accounts.close isHeld (betweenOwn ▸ own) betweenOthers
      obtain ⟨closedAll, sameAfter⟩ :=
        inductionHypothesis closed (List.Perm.of_eq betweenOwn.symm)
          fun other isOther =>
            (others other isOther).trans (betweenOthers other isOther).symm
      exact ⟨closedAll, sameAfter.trans sameMisclosed⟩

/-! ## Numbers that were given back wrongly -/

theorem misclosed_close_ne_nil
    (notHeld : (number, owner) ∉ table.entries) :
    (table.close number owner).misclosed ≠ [] := by
  rw [close, if_neg notHeld]
  exact List.append_ne_nil_of_right_ne_nil _ (List.cons_ne_nil _ _)

/-- What was given back wrongly stays so, and `owner` gets no number. -/
structure Later (owner : ω) (before after : Table ν ω) : Prop where
  misclosed : before.misclosed ≠ [] → after.misclosed ≠ []
  unopened :
    ∀ number,
      (number, owner) ∉ before.entries → (number, owner) ∉ after.entries

omit [DecidableEq ν] [DecidableEq ω] in
theorem Later.refl (owner : ω) (table : Table ν ω) :
    Later owner table table where
  misclosed wrong := wrong
  unopened _ unopened := unopened

omit [DecidableEq ν] [DecidableEq ω] in
theorem Later.trans
    {first middle last : Table ν ω} (earlier : Later owner first middle)
    (later : Later owner middle last) : Later owner first last where
  misclosed wrong := later.misclosed (earlier.misclosed wrong)
  unopened number unopened :=
    later.unopened number (earlier.unopened number unopened)

omit [DecidableEq ω] in
theorem later_openFor
    {opener : ω} (opened : table.openFor number opener = some next)
    (isOther : opener ≠ owner) : Later owner table next := by
  obtain ⟨_, rfl⟩ := openFor_eq_some opened
  refine ⟨fun wrong => wrong, ?_⟩
  intro asked unopened entry
  rcases List.mem_cons.mp entry with isNew | earlier
  · exact isOther (congrArg Prod.snd isNew).symm
  · exact unopened earlier

theorem later_close (owner closer : ω) (table : Table ν ω) (number : ν) :
    Later owner table (table.close number closer) where
  misclosed wrong := by
    unfold close
    split
    · exact wrong
    · exact List.append_ne_nil_of_left_ne_nil wrong _
  unopened _ unopened entry := unopened (List.mem_filter.mp entry).1

theorem later_closeAll
    (owner closer : ω) (given : List ν) (table : Table ν ω) :
    Later owner table (table.closeAll closer given) := by
  induction given generalizing table with
  | nil =>
      exact Later.refl owner table
  | cons first rest inductionHypothesis =>
      exact
        (later_close owner closer table first).trans
          (inductionHypothesis (table.close first closer))

end Table

end DescriptorTables
