import Mathlib.Order.CompletePartialOrder
import Mathlib.Order.Interval.Set.Disjoint
import Mathlib.Order.SuccPred.IntervalSucc
import Mathlib.Data.Nat.SuccPred

/-!
# Grids of blocks in a buffer

A buffer holds rows of blocks of one size, one row after the other.  Different
blocks do not overlap, and the blocks of the first `rows` rows lie within as many
bytes as they have together.
-/

namespace BlockGrids

variable {columns size : Nat}

/-- The number of a block, counted through all rows. -/
def blockNumber (columns row column : Nat) : Nat :=
  row * columns + column

/-- The bytes of a block. -/
def block (columns size row column : Nat) : Set Nat :=
  Set.Ico (row * (columns * size) + column * size)
    (row * (columns * size) + column * size + size)

theorem blockStart_eq (row column : Nat) :
    row * (columns * size) + column * size =
      blockNumber columns row column * size := by
  rw [blockNumber, Nat.add_mul, Nat.mul_assoc]

theorem block_eq (row column : Nat) :
    block columns size row column =
      Set.Ico (blockNumber columns row column * size)
        ((blockNumber columns row column + 1) * size) := by
  rw [block, blockStart_eq, Nat.add_mul _ 1, Nat.one_mul]

theorem blockNumber_lt
    {rows row column : Nat} (rowBound : row < rows)
    (columnBound : column < columns) :
    blockNumber columns row column + 1 ≤ rows * columns := by
  have wholeRow : (row + 1) * columns ≤ rows * columns :=
    Nat.mul_le_mul_right columns rowBound
  rw [Nat.add_mul, Nat.one_mul] at wholeRow
  rw [blockNumber]
  omega

theorem eq_of_blockNumber_eq
    {firstRow firstColumn secondRow secondColumn : Nat}
    (firstBound : firstColumn < columns) (secondBound : secondColumn < columns)
    (same :
      blockNumber columns firstRow firstColumn =
        blockNumber columns secondRow secondColumn) :
    firstRow = secondRow ∧ firstColumn = secondColumn := by
  have positive : 0 < columns := Nat.zero_lt_of_lt firstBound
  have rowOf (row column : Nat) (bound : column < columns) :
      blockNumber columns row column / columns = row := by
    rw [blockNumber, Nat.mul_comm, Nat.mul_add_div positive,
      Nat.div_eq_of_lt bound, Nat.add_zero]
  have sameRow : firstRow = secondRow := by
    rw [← rowOf firstRow firstColumn firstBound, same,
      rowOf secondRow secondColumn secondBound]
  rw [sameRow, blockNumber, blockNumber] at same
  exact ⟨sameRow, Nat.add_left_cancel same⟩

variable (size) in
theorem blockEnd_le
    {rows row column : Nat} (rowBound : row < rows)
    (columnBound : column < columns) :
    row * (columns * size) + column * size + size ≤ rows * columns * size := by
  have below :
      (blockNumber columns row column + 1) * size ≤ rows * columns * size :=
    Nat.mul_le_mul_right size (blockNumber_lt rowBound columnBound)
  rw [Nat.add_mul, Nat.one_mul, ← blockStart_eq] at below
  exact below

theorem block_disjoint
    {firstRow firstColumn secondRow secondColumn : Nat}
    (firstBound : firstColumn < columns) (secondBound : secondColumn < columns)
    (different : ¬ (firstRow = secondRow ∧ firstColumn = secondColumn)) :
    Disjoint (block columns size firstRow firstColumn)
      (block columns size secondRow secondColumn) := by
  have increasing : Monotone fun number => number * size := by
    intro lower upper below
    exact Nat.mul_le_mul_right size below
  have apart :
      blockNumber columns firstRow firstColumn ≠
        blockNumber columns secondRow secondColumn := by
    intro same
    exact different (eq_of_blockNumber_eq firstBound secondBound same)
  rw [block_eq, block_eq]
  exact increasing.pairwise_disjoint_on_Ico_succ apart

end BlockGrids
