import Mathlib.Data.List.Nodup

/-!
# Rows taken out of tables and stored in tables

A table is a list of rows.  The rows at some places are gathered, and rows are
scattered to places one after the other.  What has been scattered to distinct
places is gathered there again, and all other rows stay.
-/

namespace RowTables

universe u

variable {α : Type u}

/-- `none` if one of the places is not in the table. -/
def gather (table : List α) : List Nat → Option (List α)
  | [] => some []
  | place :: rest =>
      match table[place]?, gather table rest with
      | some row, some rows => some (row :: rows)
      | _, _ => none

def scatter (table : List α) : List (Nat × α) → List α
  | [] => table
  | (place, row) :: rest => scatter (table.set place row) rest

@[simp]
theorem gather_nil (table : List α) : gather table [] = some [] :=
  rfl

theorem gather_cons_eq_some_iff
    {table rows : List α} {place : Nat} {rest : List Nat} :
    gather table (place :: rest) = some rows ↔
      ∃ row others,
        table[place]? = some row ∧ gather table rest = some others ∧
          rows = row :: others := by
  rw [gather]
  cases table[place]? with
  | none =>
      simp
  | some row =>
      cases gather table rest with
      | none =>
          simp
      | some others =>
          simp [eq_comm]

theorem length_gather
    {table rows : List α} {places : List Nat}
    (gathered : gather table places = some rows) :
    rows.length = places.length := by
  induction places generalizing rows with
  | nil =>
      cases gathered
      rfl
  | cons place rest inductionHypothesis =>
      obtain ⟨row, others, _, restGathered, rfl⟩ :=
        gather_cons_eq_some_iff.mp gathered
      rw [List.length_cons, List.length_cons,
        inductionHypothesis restGathered]

/-- Everything that is gathered is in the table. -/
theorem mem_of_gather
    {table rows : List α} {places : List Nat}
    (gathered : gather table places = some rows) {row : α} (member : row ∈ rows) :
    row ∈ table := by
  induction places generalizing rows with
  | nil =>
      cases gathered
      cases member
  | cons place rest inductionHypothesis =>
      obtain ⟨first, others, found, restGathered, rfl⟩ :=
        gather_cons_eq_some_iff.mp gathered
      rcases List.mem_cons.mp member with rfl | later
      · exact List.mem_of_getElem? found
      · exact inductionHypothesis restGathered later

/-- Gathering looks at the given places only. -/
theorem gather_congr
    {table other : List α} {places : List Nat}
    (same : ∀ place ∈ places, table[place]? = other[place]?) :
    gather table places = gather other places := by
  induction places with
  | nil =>
      rfl
  | cons place rest inductionHypothesis =>
      obtain ⟨sameHere, sameRest⟩ := List.forall_mem_cons.mp same
      rw [gather, gather, sameHere, inductionHypothesis sameRest]

@[simp]
theorem length_scatter (table : List α) (rows : List (Nat × α)) :
    (scatter table rows).length = table.length := by
  induction rows generalizing table with
  | nil =>
      rfl
  | cons entry rest inductionHypothesis =>
      rw [scatter, inductionHypothesis, List.length_set]

/-- What is stored nowhere in the list stays. -/
theorem getElem?_scatter_of_not_mem
    {table : List α} {rows : List (Nat × α)} {place : Nat}
    (elsewhere : place ∉ rows.map Prod.fst) :
    (scatter table rows)[place]? = table[place]? := by
  induction rows generalizing table with
  | nil =>
      rfl
  | cons entry rest inductionHypothesis =>
      rw [List.map_cons, List.mem_cons, not_or] at elsewhere
      rw [scatter, inductionHypothesis elsewhere.2,
        List.getElem?_set_ne (Ne.symm elsewhere.1)]

/-- Every row of the table afterwards was there or has been stored. -/
theorem mem_of_mem_scatter
    {table : List α} {rows : List (Nat × α)} {row : α}
    (member : row ∈ scatter table rows) :
    row ∈ table ∨ row ∈ rows.map Prod.snd := by
  induction rows generalizing table with
  | nil =>
      exact Or.inl member
  | cons entry rest inductionHypothesis =>
      rw [List.map_cons, List.mem_cons]
      rcases inductionHypothesis member with inTable | stored
      · rcases List.mem_or_eq_of_mem_set inTable with before | rfl
        · exact Or.inl before
        · exact Or.inr (Or.inl rfl)
      · exact Or.inr (Or.inr stored)

/-- Rows stored at distinct places are found there again. -/
theorem gather_scatter
    {table rows : List α} {places : List Nat} (nodup : places.Nodup)
    (within : ∀ place ∈ places, place < table.length)
    (sameLength : rows.length = places.length) :
    gather (scatter table (places.zip rows)) places = some rows := by
  induction places generalizing table rows with
  | nil =>
      rw [List.length_nil, List.length_eq_zero_iff] at sameLength
      rw [sameLength, gather_nil]
  | cons place rest inductionHypothesis =>
      cases rows with
      | nil =>
          cases sameLength
      | cons row others =>
          obtain ⟨notLater, nodupRest⟩ := List.nodup_cons.mp nodup
          obtain ⟨inTable, restWithin⟩ := List.forall_mem_cons.mp within
          have restLength : others.length = rest.length :=
            Nat.succ.inj sameLength
          have keys : (rest.zip others).map Prod.fst = rest :=
            List.map_fst_zip (Nat.le_of_eq restLength.symm)
          rw [List.zip_cons_cons, scatter, gather_cons_eq_some_iff]
          refine ⟨row, others, ?_, ?_, rfl⟩
          · rw [getElem?_scatter_of_not_mem (by rw [keys]; exact notLater),
              List.getElem?_set_self inTable]
          · apply inductionHypothesis nodupRest ?_ restLength
            intro other member
            rw [List.length_set]
            exact restWithin other member

end RowTables
