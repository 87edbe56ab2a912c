import Mathlib.Algebra.Order.Ring.Abs
import Mathlib.Algebra.Order.Ring.Int
import Mathlib.Data.Int.GCD
import Mathlib.Data.Int.ModEq
import Mathlib.Data.Nat.Bitwise
import Mathlib.Data.Nat.Prime.Basic
import Mathlib.Tactic.Linarith
import Mathlib.Tactic.Ring

/-!
# Byte hashes

Hashes that take one byte after the other: each is XORed into the state, and the
state is multiplied by a fixed factor.  If the lowest bits of the factor are a
small number, the lowest bits of two states that differ a little move apart by it
with each byte, and cannot meet before they have gone through all of these bits.
So short strings over few bytes do not collide.
-/

namespace ByteHashes

/-- One byte is taken. -/
def absorb (factor hash : UInt64) (byte : UInt8) : UInt64 :=
  (hash ^^^ byte.toUInt64) * factor

def hashFrom (factor hash : UInt64) (bytes : List UInt8) : UInt64 :=
  bytes.foldl (absorb factor) hash

variable {factor hash other : UInt64}

theorem hashFrom_append (factor hash : UInt64) (first second : List UInt8) :
    hashFrom factor hash (first ++ second) =
      hashFrom factor (hashFrom factor hash first) second :=
  List.foldl_append

/-! ## Numbers that agree from some bit on -/

theorem abs_sub_lt_of_div_eq
    {number other block : Nat} (positive : 0 < block)
    (same : number / block = other / block) :
    |(number : Int) - other| < block := by
  have split := Nat.div_add_mod number block
  have otherSplit := Nat.div_add_mod other block
  have bound := Nat.mod_lt number positive
  have otherBound := Nat.mod_lt other positive
  rw [same] at split
  rw [abs_lt]
  omega

/-- Two bytes of one block change a state to numbers close to one another. -/
theorem abs_xor_sub_xor_lt
    (state : Nat) {byte otherByte bits : Nat}
    (same : byte / 2 ^ bits = otherByte / 2 ^ bits) :
    |((state ^^^ byte : Nat) : Int) - (state ^^^ otherByte : Nat)| <
      (2 ^ bits : Nat) := by
  apply abs_sub_lt_of_div_eq (Nat.two_pow_pos bits)
  rw [Nat.xor_div_two_pow, Nat.xor_div_two_pow, same]

/-- A small byte changes a state by little. -/
theorem abs_xor_sub_self_lt
    (state : Nat) {byte bits : Nat} (small : byte < 2 ^ bits) :
    |((state ^^^ byte : Nat) : Int) - state| < (2 ^ bits : Nat) := by
  have same : byte / 2 ^ bits = 0 / 2 ^ bits := by
    rw [Nat.div_eq_of_lt small, Nat.zero_div]
  simpa only [Nat.xor_zero] using abs_xor_sub_xor_lt state same

/-! ## The lowest bits of the states -/

/-- The lowest `bits` bits of the factor are an odd number, and one that is large
beside the bytes below `2 ^ block`. -/
structure Spreads (factor : UInt64) (bits block low : Nat) : Prop where
  bits_le : bits ≤ 64
  low_eq : (factor.toNat : Int) ≡ low [ZMOD 2 ^ bits]
  odd : low % 2 = 1
  wide : 2 * 2 ^ block ≤ low

variable {bits block low : Nat}

theorem Spreads.low_pos (spreads : Spreads factor bits block low) : 0 < low :=
  lt_of_lt_of_le (Nat.mul_pos Nat.two_pos (Nat.two_pow_pos block)) spreads.wide

theorem Spreads.absorb_sub
    (spreads : Spreads factor bits block low) (byte otherByte : UInt8) :
    ((absorb factor hash byte).toNat : Int) -
        (absorb factor other otherByte).toNat ≡
      ((hash.toNat ^^^ byte.toNat : Nat) -
        (other.toNat ^^^ otherByte.toNat : Nat)) * low [ZMOD 2 ^ bits] := by
  have absorbed (state : UInt64) (taken : UInt8) :
      ((absorb factor state taken).toNat : Int) ≡
        (state.toNat ^^^ taken.toNat : Nat) * low [ZMOD 2 ^ bits] := by
    rw [absorb, UInt64.toNat_mul, UInt64.toNat_xor, UInt8.toNat_toUInt64]
    have divides : (2 ^ bits : Int) ∣ 2 ^ 64 :=
      pow_dvd_pow 2 spreads.bits_le
    push_cast
    exact
      ((Int.mod_modEq _ _).of_dvd divides).trans
        (Int.ModEq.rfl.mul spreads.low_eq)
  rw [sub_mul]
  exact (absorbed hash byte).sub (absorbed other otherByte)

/-- What two small bytes change between two states is less than the factor. -/
theorem Spreads.abs_shift_lt
    (spreads : Spreads factor bits block low)
    {state otherState byte otherByte : Nat}
    (small : byte < 2 ^ block) (otherSmall : otherByte < 2 ^ block) :
    |(((state ^^^ byte : Nat) : Int) - state) -
        ((otherState ^^^ otherByte : Nat) - otherState)| < low := by
  have moved := abs_xor_sub_self_lt state small
  have otherMoved := abs_xor_sub_self_lt otherState otherSmall
  have wide : ((2 * 2 ^ block : Nat) : Int) ≤ low :=
    Int.ofNat_le.mpr spreads.wide
  rw [abs_lt] at moved otherMoved ⊢
  push_cast at moved otherMoved wide ⊢
  constructor <;> linarith

/-- No multiple of the factor by a number that is near and not zero is zero in the
lowest bits. -/
theorem Spreads.not_modEq_zero
    (spreads : Spreads factor bits block low) {distance : Int}
    (nonzero : distance ≠ 0) (near : |distance| + 1 ≤ 2 ^ bits) :
    ¬ distance * low ≡ 0 [ZMOD 2 ^ bits] := by
  intro zero
  have odd : Nat.Coprime 2 low :=
    Nat.coprime_two_left.mpr (Nat.odd_iff.mpr spreads.odd)
  have coprime : Int.gcd (2 ^ bits) low = 1 := by
    exact_mod_cast odd.pow_left bits
  have divides : (2 ^ bits : Int) ∣ distance :=
    Int.dvd_of_dvd_mul_left_of_gcd_one (Int.modEq_zero_iff_dvd.mp zero) coprime
  have large := Int.le_of_dvd (abs_pos.mpr nonzero) ((dvd_abs _ _).mpr divides)
  linarith

/-- States that are a little apart do not meet while few bytes are taken. -/
theorem Spreads.hashFrom_ne_of_apart
    (spreads : Spreads factor bits block low) {first second : List UInt8}
    (sameLength : first.length = second.length)
    (small : ∀ byte ∈ first, byte.toNat < 2 ^ block)
    (otherSmall : ∀ byte ∈ second, byte.toNat < 2 ^ block)
    {distance : Int}
    (apart :
      (hash.toNat : Int) - other.toNat ≡ distance * low [ZMOD 2 ^ bits])
    (nonzero : distance ≠ 0)
    (near : (|distance| + 1) * low ^ first.length ≤ 2 ^ bits) :
    hashFrom factor hash first ≠ hashFrom factor other second := by
  induction first generalizing second hash other distance with
  | nil =>
      obtain rfl := List.length_eq_zero_iff.mp sameLength.symm
      rw [List.length_nil, pow_zero, mul_one] at near
      intro met
      have same : hash = other := met
      rw [same, sub_self] at apart
      exact spreads.not_modEq_zero nonzero near apart.symm
  | cons byte rest inductionHypothesis =>
      cases second with
      | nil =>
          cases sameLength
      | cons otherByte otherRest =>
          obtain ⟨byteSmall, restSmall⟩ := List.forall_mem_cons.mp small
          obtain ⟨otherByteSmall, otherRestSmall⟩ :=
            List.forall_mem_cons.mp otherSmall
          let shift : Int :=
            ((hash.toNat ^^^ byte.toNat : Nat) - hash.toNat) -
              ((other.toNat ^^^ otherByte.toNat : Nat) - other.toNat)
          have shiftSmall : |shift| < low :=
            spreads.abs_shift_lt byteSmall otherByteSmall
          have positive : 1 ≤ |distance| := Int.one_le_abs nonzero
          have product : |distance * low| = |distance| * low := by
            rw [abs_mul, Nat.abs_cast]
          have nextApart :
              ((absorb factor hash byte).toNat : Int) -
                  (absorb factor other otherByte).toNat ≡
                (distance * low + shift) * low [ZMOD 2 ^ bits] := by
            have split :
                ((hash.toNat ^^^ byte.toNat : Nat) : Int) -
                    (other.toNat ^^^ otherByte.toNat : Nat) =
                  (hash.toNat - other.toNat) + shift := by
              ring
            refine (spreads.absorb_sub byte otherByte).trans ?_
            rw [split]
            exact (apart.add_right shift).mul_right _
          have nextNonzero : distance * low + shift ≠ 0 := by
            intro zero
            have large : (low : Int) ≤ |distance * low| := by
              rw [product]
              exact le_mul_of_one_le_left (Int.natCast_nonneg low) positive
            rw [eq_neg_of_add_eq_zero_left zero, abs_neg] at large
            linarith
          have moved : |distance * low + shift| + 1 ≤ (|distance| + 1) * low := by
            have bound := abs_add_le (distance * low) shift
            rw [product] at bound
            linarith
          have nextNear :
              (|distance * low + shift| + 1) * (low : Int) ^ rest.length ≤
                2 ^ bits := by
            calc
              _ ≤ (|distance| + 1) * low * (low : Int) ^ rest.length :=
                mul_le_mul_of_nonneg_right moved
                  (pow_nonneg (Int.natCast_nonneg low) _)
              _ = (|distance| + 1) * low ^ (byte :: rest).length := by
                rw [List.length_cons, pow_succ', mul_assoc]
              _ ≤ 2 ^ bits := near
          have lengths : rest.length = otherRest.length := by
            simpa using sameLength
          have next :=
            inductionHypothesis lengths restSmall otherRestSmall nextApart
              nextNonzero nextNear
          exact next

/-- Different strings of one length over the bytes of one block do not collide, as
long as they are short enough for the lowest bits. -/
theorem Spreads.hashFrom_ne
    (spreads : Spreads factor bits block low) {narrow high : Nat}
    {first second : List UInt8} (sameLength : first.length = second.length)
    (small : ∀ byte ∈ first, byte.toNat < 2 ^ block)
    (otherSmall : ∀ byte ∈ second, byte.toNat < 2 ^ block)
    (inBlock : ∀ byte ∈ first, byte.toNat / 2 ^ narrow = high)
    (otherInBlock : ∀ byte ∈ second, byte.toNat / 2 ^ narrow = high)
    (short : 2 ^ narrow * low ^ first.length ≤ 2 ^ bits * low)
    (differ : first ≠ second) :
    hashFrom factor hash first ≠ hashFrom factor hash second := by
  induction first generalizing second hash with
  | nil =>
      exact absurd (List.length_eq_zero_iff.mp sameLength.symm).symm differ
  | cons byte rest inductionHypothesis =>
      cases second with
      | nil =>
          cases sameLength
      | cons otherByte otherRest =>
          obtain ⟨byteSmall, restSmall⟩ := List.forall_mem_cons.mp small
          obtain ⟨otherByteSmall, otherRestSmall⟩ :=
            List.forall_mem_cons.mp otherSmall
          obtain ⟨byteIn, restIn⟩ := List.forall_mem_cons.mp inBlock
          obtain ⟨otherByteIn, otherRestIn⟩ :=
            List.forall_mem_cons.mp otherInBlock
          have lengths : rest.length = otherRest.length := by
            simpa using sameLength
          have lowPositive := spreads.low_pos
          rw [List.length_cons, pow_succ, ← mul_assoc] at short
          have restShort : 2 ^ narrow * low ^ rest.length ≤ 2 ^ bits :=
            Nat.le_of_mul_le_mul_right short lowPositive
          by_cases sameByte : byte = otherByte
          · subst sameByte
            apply inductionHypothesis lengths restSmall otherRestSmall restIn
              otherRestIn
            · exact restShort.trans (Nat.le_mul_of_pos_right _ lowPositive)
            · intro sameRest
              exact differ (congrArg (byte :: ·) sameRest)
          · have close :=
              abs_xor_sub_xor_lt hash.toNat (byteIn.trans otherByteIn.symm)
            have nonzero :
                ((hash.toNat ^^^ byte.toNat : Nat) : Int) -
                    (hash.toNat ^^^ otherByte.toNat : Nat) ≠ 0 := by
              intro zero
              have sameNat := Int.ofNat_inj.mp (sub_eq_zero.mp zero)
              exact
                sameByte
                  (UInt8.toNat_inj.mp (Nat.xor_right_injective sameNat))
            apply spreads.hashFrom_ne_of_apart lengths restSmall otherRestSmall
              (spreads.absorb_sub byte otherByte) nonzero
            calc
              _ ≤ ((2 ^ narrow : Nat) : Int) * low ^ rest.length :=
                mul_le_mul_of_nonneg_right close
                  (pow_nonneg (Int.natCast_nonneg low) _)
              _ ≤ 2 ^ bits := by
                exact_mod_cast restShort

end ByteHashes
