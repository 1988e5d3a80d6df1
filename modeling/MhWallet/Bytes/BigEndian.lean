import Mathlib.Algebra.Group.Int.Defs
import Mathlib.Algebra.GroupWithZero.Nat
import Mathlib.Data.List.Induction
import Mathlib.Tactic.Common

/-!
Contract: fixed-width big-endian encoding of natural numbers as bytes.

Owns: the encoder, the decoder, the round trip modulo the width and the
injectivity of the encoder on values that fit.
-/

namespace MhWallet.Bytes

/-- The `width` low-order base-256 digits of `value`, most significant first. -/
def bigEndian : (width value : Nat) → List UInt8
  | 0, _ => []
  | width + 1, value => bigEndian width (value / 256) ++ [UInt8.ofNat value]

/-- The number whose base-256 digits are `bytes`, most significant first. -/
def ofBigEndian (bytes : List UInt8) : Nat :=
  bytes.foldl (fun value byte => value * 256 + byte.toNat) 0

@[simp] theorem bigEndian_length (width value : Nat) :
    (bigEndian width value).length = width := by
  induction width generalizing value with
  | zero => rfl
  | succ width inductionHypothesis =>
      simp [bigEndian, inductionHypothesis]

theorem ofBigEndian_concat (bytes : List UInt8) (byte : UInt8) :
    ofBigEndian (bytes ++ [byte]) = ofBigEndian bytes * 256 + byte.toNat := by
  simp [ofBigEndian, List.foldl_append]

/-- Decoding recovers the value up to the digits that the width drops. -/
theorem ofBigEndian_bigEndian (width value : Nat) :
    ofBigEndian (bigEndian width value) = value % 256 ^ width := by
  induction width generalizing value with
  | zero => simp [bigEndian, ofBigEndian, Nat.mod_one]
  | succ width inductionHypothesis =>
      rw [bigEndian, ofBigEndian_concat, inductionHypothesis, Nat.pow_succ',
        Nat.mod_mul]
      simp only [UInt8.toNat_ofNat']
      omega

theorem ofBigEndian_bigEndian_of_lt {width value : Nat}
    (fits : value < 256 ^ width) :
    ofBigEndian (bigEndian width value) = value := by
  rw [ofBigEndian_bigEndian, Nat.mod_eq_of_lt fits]

theorem bigEndian_injective {width left right : Nat}
    (leftFits : left < 256 ^ width) (rightFits : right < 256 ^ width)
    (equal : bigEndian width left = bigEndian width right) : left = right := by
  rw [← ofBigEndian_bigEndian_of_lt leftFits, equal,
    ofBigEndian_bigEndian_of_lt rightFits]

/-- The encoder reads no more than the digits that it writes. -/
theorem bigEndian_mod (width value : Nat) :
    bigEndian width (value % 256 ^ width) = bigEndian width value := by
  induction width generalizing value with
  | zero => rfl
  | succ width inductionHypothesis =>
      have digit : UInt8.ofNat (value % 256 ^ (width + 1)) = UInt8.ofNat value := by
        apply UInt8.toNat_inj.mp
        rw [UInt8.toNat_ofNat', UInt8.toNat_ofNat', Nat.pow_succ',
          Nat.mod_mul_right_mod]
      have rest : value % 256 ^ (width + 1) / 256 = value / 256 % 256 ^ width := by
        rw [Nat.pow_succ', Nat.mod_mul_right_div_self]
      rw [bigEndian, bigEndian, digit, rest, inductionHypothesis]

theorem ofBigEndian_lt (bytes : List UInt8) : ofBigEndian bytes < 256 ^ bytes.length := by
  induction bytes using List.reverseRecOn with
  | nil => simp [ofBigEndian]
  | append_singleton bytes byte inductionHypothesis =>
      rw [ofBigEndian_concat, List.length_append, List.length_singleton, Nat.pow_succ]
      have := byte.toNat_lt
      omega

/-- Encoding recovers the bytes. -/
theorem bigEndian_ofBigEndian (bytes : List UInt8) :
    bigEndian bytes.length (ofBigEndian bytes) = bytes := by
  induction bytes using List.reverseRecOn with
  | nil => rfl
  | append_singleton bytes byte inductionHypothesis =>
      have digit : UInt8.ofNat (ofBigEndian bytes * 256 + byte.toNat) = byte := by
        apply UInt8.toNat_inj.mp
        rw [UInt8.toNat_ofNat']
        have := byte.toNat_lt
        omega
      have rest : (ofBigEndian bytes * 256 + byte.toNat) / 256 = ofBigEndian bytes := by
        have := byte.toNat_lt
        omega
      rw [ofBigEndian_concat, List.length_append, List.length_singleton, bigEndian, digit,
        rest, inductionHypothesis]

theorem ofBigEndian_pair (high low : UInt8) :
    ofBigEndian [high, low] = high.toNat * 256 + low.toNat := by
  simp [ofBigEndian]

end MhWallet.Bytes
