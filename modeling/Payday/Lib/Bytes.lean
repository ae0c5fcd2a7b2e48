/-
# Numbers as bytes

Unsigned numbers in a fixed number of bytes, most significant byte first.
-/
import Mathlib.Data.UInt
import Mathlib.Tactic.Common

namespace Payday

/-- The last `width` base-256 digits of a number. -/
def toBE : ℕ → ℕ → List UInt8
  | 0, _ => []
  | width + 1, n => toBE width (n / 256) ++ [UInt8.ofNat n]

/-- The number that the bytes spell. -/
def ofBE (bytes : List UInt8) : ℕ := bytes.foldl (fun n byte => n * 256 + byte.toNat) 0

@[simp] lemma length_toBE (width n : ℕ) : (toBE width n).length = width := by
  induction width generalizing n with
  | zero => rfl
  | succ width ih => simp [toBE, ih]

lemma ofBE_concat (bytes : List UInt8) (byte : UInt8) :
    ofBE (bytes ++ [byte]) = ofBE bytes * 256 + byte.toNat := by
  simp [ofBE]

/-- A number that fits is read back. -/
lemma ofBE_toBE {width n : ℕ} (h : n < 256 ^ width) : ofBE (toBE width n) = n := by
  induction width generalizing n with
  | zero =>
    have : n = 0 := by simpa using h
    rw [this]
    rfl
  | succ width ih =>
    have hdiv : n / 256 < 256 ^ width := by
      rw [Nat.div_lt_iff_lt_mul (by decide)]
      simpa [pow_succ] using h
    have hbyte : (UInt8.ofNat n).toNat = n % 256 := UInt8.toNat_ofNat'
    rw [toBE, ofBE_concat, ih hdiv, hbyte]
    omega

/-- Bytes are written back. -/
lemma toBE_ofBE (bytes : List UInt8) : toBE bytes.length (ofBE bytes) = bytes := by
  induction bytes using List.reverseRecOn with
  | nil => rfl
  | append_singleton bytes byte ih =>
    have hlt : byte.toNat < 256 := byte.toNat_lt
    have hdiv : (ofBE bytes * 256 + byte.toNat) / 256 = ofBE bytes := by omega
    have hbyte : UInt8.ofNat (ofBE bytes * 256 + byte.toNat) = byte := by
      refine UInt8.toNat_inj.1 ?_
      rw [UInt8.toNat_ofNat']
      omega
    rw [List.length_append, List.length_singleton, toBE, ofBE_concat, hdiv, ih, hbyte]

lemma ofBE_lt (bytes : List UInt8) : ofBE bytes < 256 ^ bytes.length := by
  induction bytes using List.reverseRecOn with
  | nil => exact Nat.one_pos
  | append_singleton bytes byte ih =>
    have hlt : byte.toNat < 256 := byte.toNat_lt
    rw [ofBE_concat, List.length_append, List.length_singleton, pow_succ]
    omega

end Payday
