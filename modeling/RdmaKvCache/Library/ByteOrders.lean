import Mathlib.Algebra.Group.Nat.Defs
import Mathlib.Data.List.Induction
import Mathlib.Data.Nat.Basic

/-!
# Byte orders

A number stored in a fixed number of bytes, in either order.  Storing and
loading in one order are inverse to each other; loading in the other order reads
the bytes backwards, which gives the number back exactly when its bytes are a
palindrome.
-/

namespace ByteOrders

/-- The `width` low bytes of a number, the most significant first. -/
def bigEndian : Nat → Nat → List UInt8
  | 0, _ => []
  | width + 1, value => bigEndian width (value / 256) ++ [UInt8.ofNat value]

def ofBigEndian (bytes : List UInt8) : Nat :=
  bytes.foldl (fun value byte => value * 256 + byte.toNat) 0

theorem ofBigEndian_concat (bytes : List UInt8) (last : UInt8) :
    ofBigEndian (bytes ++ [last]) = ofBigEndian bytes * 256 + last.toNat := by
  simp [ofBigEndian]

@[simp]
theorem length_bigEndian (width value : Nat) :
    (bigEndian width value).length = width := by
  induction width generalizing value with
  | zero =>
      rfl
  | succ width inductionHypothesis =>
      simp [bigEndian, inductionHypothesis]

theorem ofBigEndian_bigEndian (width value : Nat) :
    ofBigEndian (bigEndian width value) = value % 256 ^ width := by
  induction width generalizing value with
  | zero =>
      simp [bigEndian, ofBigEndian, Nat.mod_one]
  | succ width inductionHypothesis =>
      rw [bigEndian, ofBigEndian_concat, inductionHypothesis, Nat.pow_succ,
        Nat.mul_comm (256 ^ width) 256, Nat.mod_mul, UInt8.toNat_ofNat']
      omega

theorem bigEndian_ofBigEndian (bytes : List UInt8) :
    bigEndian bytes.length (ofBigEndian bytes) = bytes := by
  induction bytes using List.reverseRecOn with
  | nil =>
      rfl
  | append_singleton initial last inductionHypothesis =>
      have below : last.toNat < 256 := last.toNat_lt
      have quotient :
          (ofBigEndian initial * 256 + last.toNat) / 256 =
            ofBigEndian initial := by
        omega
      have remainder :
          UInt8.ofNat (ofBigEndian initial * 256 + last.toNat) = last := by
        apply UInt8.toNat_inj.mp
        rw [UInt8.toNat_ofNat']
        omega
      rw [List.length_append, List.length_singleton, ofBigEndian_concat,
        bigEndian, quotient, inductionHypothesis, remainder]

theorem ofBigEndian_lt (bytes : List UInt8) :
    ofBigEndian bytes < 256 ^ bytes.length := by
  have stored := ofBigEndian_bigEndian bytes.length (ofBigEndian bytes)
  rw [bigEndian_ofBigEndian] at stored
  rw [stored]
  exact Nat.mod_lt _ (Nat.pow_pos (by decide))

/-- A long number is stored as its high part before its low part. -/
theorem bigEndian_add (high low value : Nat) :
    bigEndian (high + low) value =
      bigEndian high (value / 256 ^ low) ++ bigEndian low value := by
  induction low generalizing value with
  | zero =>
      rw [Nat.add_zero, Nat.pow_zero, Nat.div_one, bigEndian, List.append_nil]
  | succ low inductionHypothesis =>
      rw [← Nat.add_assoc, bigEndian, inductionHypothesis, bigEndian,
        List.append_assoc, Nat.div_div_eq_div_mul, Nat.pow_succ,
        Nat.mul_comm 256]

theorem ofBigEndian_append (initial suffix : List UInt8) :
    ofBigEndian (initial ++ suffix) =
      ofBigEndian initial * 256 ^ suffix.length + ofBigEndian suffix := by
  induction suffix using List.reverseRecOn with
  | nil =>
      simp [ofBigEndian]
  | append_singleton suffix last inductionHypothesis =>
      rw [← List.append_assoc, ofBigEndian_concat, inductionHypothesis,
        ofBigEndian_concat, List.length_append, List.length_singleton,
        Nat.pow_succ, Nat.add_mul, Nat.mul_assoc, Nat.add_assoc]

inductive ByteOrder where
  | littleEndian
  | bigEndian
  deriving DecidableEq

namespace ByteOrder

def store : ByteOrder → Nat → Nat → List UInt8
  | .bigEndian, width, value => ByteOrders.bigEndian width value
  | .littleEndian, width, value => (ByteOrders.bigEndian width value).reverse

def load : ByteOrder → List UInt8 → Nat
  | .bigEndian, bytes => ofBigEndian bytes
  | .littleEndian, bytes => ofBigEndian bytes.reverse

theorem store_load (order : ByteOrder) (bytes : List UInt8) :
    order.store bytes.length (order.load bytes) = bytes := by
  cases order with
  | bigEndian =>
      exact bigEndian_ofBigEndian bytes
  | littleEndian =>
      rw [load, store, ← List.length_reverse, bigEndian_ofBigEndian,
        List.reverse_reverse]

theorem load_lt (order : ByteOrder) (bytes : List UInt8) :
    order.load bytes < 256 ^ bytes.length := by
  cases order with
  | bigEndian =>
      exact ofBigEndian_lt bytes
  | littleEndian =>
      rw [load, ← List.length_reverse]
      exact ofBigEndian_lt bytes.reverse

end ByteOrder

end ByteOrders
