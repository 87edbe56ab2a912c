import Mathlib.Data.List.Perm.Basic
import Mathlib.Data.List.Pairwise

/-!
# Memory that is written range by range

A memory gives the value at every address.  A write places values from its first
address on.  Writes that do not overlap are all found again, in whatever order
they are made, and all other values stay.
-/

namespace PlacedWrites

universe u

variable {α : Type u}

structure PlacedWrite (α : Type u) where
  start : Nat
  values : List α
  deriving DecidableEq

namespace PlacedWrite

def Covers (write : PlacedWrite α) (address : Nat) : Prop :=
  write.start ≤ address ∧ address < write.start + write.values.length

instance (write : PlacedWrite α) (address : Nat) :
    Decidable (write.Covers address) :=
  inferInstanceAs (Decidable (_ ∧ _))

/-- No address is written by both. -/
def Apart (write other : PlacedWrite α) : Prop :=
  ∀ address, write.Covers address → ¬ other.Covers address

end PlacedWrite

def overwrite (memory : Nat → α) (write : PlacedWrite α) : Nat → α :=
  fun address =>
    (write.values[address - write.start]?).elim (memory address) fun value =>
      if write.start ≤ address then value else memory address

def overwriteAll (memory : Nat → α) (writes : List (PlacedWrite α)) : Nat → α :=
  writes.foldl overwrite memory

def readRange (memory : Nat → α) (start length : Nat) : List α :=
  (List.range length).map fun index => memory (start + index)

/-! ## One range -/

@[simp]
theorem length_readRange (memory : Nat → α) (start length : Nat) :
    (readRange memory start length).length = length := by
  simp [readRange]

theorem readRange_add (memory : Nat → α) (start first second : Nat) :
    readRange memory start (first + second) =
      readRange memory start first ++
        readRange memory (start + first) second := by
  simp only [readRange, List.range_add, List.map_append, List.map_map,
    Function.comp_def, Nat.add_assoc]

theorem readRange_congr
    {memory other : Nat → α} {start length : Nat}
    (same :
      ∀ address, start ≤ address → address < start + length →
        memory address = other address) :
    readRange memory start length = readRange other start length := by
  apply List.map_congr_left
  intro index member
  have below : index < length := List.mem_range.mp member
  exact same (start + index) (Nat.le_add_right _ _) (by omega)

theorem overwrite_of_not_covers
    {memory : Nat → α} {write : PlacedWrite α} {address : Nat}
    (outside : ¬ write.Covers address) :
    overwrite memory write address = memory address := by
  unfold overwrite
  by_cases above : write.start ≤ address
  · have past : write.values.length ≤ address - write.start := by
      rw [PlacedWrite.Covers] at outside
      omega
    rw [List.getElem?_eq_none past]
    rfl
  · cases write.values[address - write.start]? with
    | none =>
        rfl
    | some value =>
        exact if_neg above

theorem readRange_overwrite (memory : Nat → α) (write : PlacedWrite α) :
    readRange (overwrite memory write) write.start write.values.length =
      write.values := by
  apply List.ext_getElem
  · rw [length_readRange]
  · intro index below inValues
    simp only [readRange, List.getElem_map, List.getElem_range, overwrite,
      Nat.add_sub_cancel_left, List.getElem?_eq_getElem inValues]
    exact if_pos (Nat.le_add_right _ _)

/-! ## Many writes -/

/-- What no write covers stays. -/
theorem overwriteAll_of_not_covers
    {memory : Nat → α} {writes : List (PlacedWrite α)} {address : Nat}
    (outside : ∀ write ∈ writes, ¬ write.Covers address) :
    overwriteAll memory writes address = memory address := by
  induction writes generalizing memory with
  | nil =>
      rfl
  | cons write rest inductionHypothesis =>
      obtain ⟨notHere, notLater⟩ := List.forall_mem_cons.mp outside
      calc
        overwriteAll (overwrite memory write) rest address =
            overwrite memory write address := inductionHypothesis notLater
        _ = memory address := overwrite_of_not_covers notHere

/-- Writes that do not overlap are all found again. -/
theorem readRange_overwriteAll
    {memory : Nat → α} {writes : List (PlacedWrite α)}
    (apart : writes.Pairwise PlacedWrite.Apart) {write : PlacedWrite α}
    (member : write ∈ writes) :
    readRange (overwriteAll memory writes) write.start write.values.length =
      write.values := by
  induction writes generalizing memory with
  | nil =>
      cases member
  | cons first rest inductionHypothesis =>
      obtain ⟨apartFirst, apartRest⟩ := List.pairwise_cons.mp apart
      rcases List.mem_cons.mp member with rfl | later
      · calc
          readRange (overwriteAll (overwrite memory write) rest) write.start
                write.values.length =
              readRange (overwrite memory write) write.start
                write.values.length := by
            apply readRange_congr
            intro address lower upper
            apply overwriteAll_of_not_covers
            intro other otherMember
            exact apartFirst other otherMember address ⟨lower, upper⟩
          _ = write.values := readRange_overwrite memory write
      · exact inductionHypothesis apartRest later

/-- In whatever order they are made. -/
theorem readRange_overwriteAll_of_perm
    {memory : Nat → α} {writes made : List (PlacedWrite α)}
    (apart : writes.Pairwise PlacedWrite.Apart) (order : made.Perm writes)
    {write : PlacedWrite α} (member : write ∈ writes) :
    readRange (overwriteAll memory made) write.start write.values.length =
      write.values := by
  have symmetric :
      ∀ {first second : PlacedWrite α},
        first.Apart second → second.Apart first :=
    fun apart address covers coversFirst => apart address coversFirst covers
  exact
    readRange_overwriteAll (order.symm.pairwise apart symmetric)
      (order.mem_iff.mpr member)

/-! ## Ranges of ranges -/

/-- Consecutive ranges of the same width. -/
def readRanges (memory : Nat → α) (start count width : Nat) : List (List α) :=
  (List.range count).map fun index =>
    readRange memory (start + index * width) width

@[simp]
theorem length_readRanges
    (memory : Nat → α) (start count width : Nat) :
    (readRanges memory start count width).length = count := by
  simp [readRanges]

theorem readRanges_succ
    (memory : Nat → α) (start count width : Nat) :
    readRanges memory start (count + 1) width =
      readRange memory start width ::
        readRanges memory (start + width) count width := by
  have shift (index : Nat) :
      start + (index + 1) * width = start + width + index * width := by
    rw [Nat.succ_mul]
    omega
  simp only [readRanges, List.range_succ_eq_map, List.map_cons, List.map_map,
    Function.comp_def, Nat.zero_mul, Nat.add_zero, Nat.succ_eq_add_one, shift]

/-- Rows of the same width that are stored one after the other. -/
theorem readRanges_of_readRange_flatten
    {memory : Nat → α} {start width : Nat} {rows : List (List α)}
    (widths : ∀ row ∈ rows, row.length = width)
    (stored :
      readRange memory start (rows.length * width) = rows.flatten) :
    readRanges memory start rows.length width = rows := by
  induction rows generalizing start with
  | nil =>
      rfl
  | cons row rest inductionHypothesis =>
      obtain ⟨firstWidth, restWidths⟩ := List.forall_mem_cons.mp widths
      have total : (row :: rest).length * width = width + rest.length * width := by
        rw [List.length_cons, Nat.succ_mul, Nat.add_comm]
      rw [total, readRange_add, List.flatten_cons] at stored
      have sameLength : (readRange memory start width).length = row.length := by
        rw [length_readRange, firstWidth]
      obtain ⟨isRow, isRest⟩ := List.append_inj stored sameLength
      rw [List.length_cons, readRanges_succ, isRow,
        inductionHypothesis restWidths isRest]

theorem length_flatten_of_widths
    {width : Nat} {rows : List (List α)}
    (widths : ∀ row ∈ rows, row.length = width) :
    rows.flatten.length = rows.length * width := by
  induction rows with
  | nil =>
      simp
  | cons row rest inductionHypothesis =>
      obtain ⟨firstWidth, restWidths⟩ := List.forall_mem_cons.mp widths
      rw [List.flatten_cons, List.length_append, firstWidth,
        inductionHypothesis restWidths, List.length_cons, Nat.succ_mul,
        Nat.add_comm]

end PlacedWrites
