import Mathlib.Algebra.CharP.Two
import Mathlib.Algebra.Field.ZMod
import Mathlib.FieldTheory.Separable
import Mathlib.RingTheory.AdjoinRoot
import Mathlib.RingTheory.Ideal.Quotient.Nilpotent
import Mathlib.Tactic.ComputeDegree
import DeviceAuth.Crypto.Gcm

/-!
# Elements as residues of polynomials

The bits of an element are the coefficients of a polynomial over two elements, and its residue is
taken modulo x¹²⁸ + x⁷ + x² + x + 1. Residues add as elements do (`residue_xor`) and multiply as
`mul` does (`residue_mul`). The modulus is separable, so the ring of residues is reduced: no power
of an element other than zero vanishes, times whatever power of x
(`root_pow_mul_residue_pow_ne_zero`). That the modulus is irreducible is not used.
-/

namespace DeviceAuth.Crypto.Gcm

open Polynomial

/-! ## Bits as coefficients -/

def bit (b : Bool) : ZMod 2 := if b then 1 else 0

@[simp] theorem bit_false : bit false = 0 := rfl

@[simp] theorem bit_true : bit true = 1 := rfl

theorem bit_xor : ∀ a b : Bool, bit (a ^^ b) = bit a + bit b := by decide

theorem bit_eq_zero_iff : ∀ {b : Bool}, bit b = 0 ↔ b = false := by decide

/-- The polynomial of the lowest `count` bits of a number, its constant term the highest of them. -/
noncomputable def bits (n : Nat) : Nat → (ZMod 2)[X]
  | 0 => 0
  | count + 1 => C (bit (n.testBit count)) + X * bits n count

theorem bits_xor (m n : Nat) : ∀ count, bits (m ^^^ n) count = bits m count + bits n count
  | 0 => (add_zero 0).symm
  | count + 1 => by
    rw [bits, bits, bits, bits_xor m n count, Nat.testBit_xor, bit_xor, C_add]
    ring

theorem bits_congr {m n : Nat} : ∀ {count}, (∀ i < count, m.testBit i = n.testBit i) →
    bits m count = bits n count
  | 0, _ => rfl
  | count + 1, h => by
    rw [bits, bits, h count (by omega), bits_congr fun i hi => h i (by omega)]

theorem bits_zero : ∀ count, bits 0 count = 0
  | 0 => rfl
  | count + 1 => by
    rw [bits, bits_zero count, Nat.zero_testBit, bit_false, C_0, mul_zero, add_zero]

theorem coeff_bits_of_le (n : Nat) : ∀ {count m}, count ≤ m → (bits n count).coeff m = 0
  | 0, m, _ => coeff_zero m
  | count + 1, m + 1, h => by
    rw [bits, coeff_add, coeff_C_succ, coeff_X_mul, coeff_bits_of_le n (by omega), add_zero]

theorem degree_bits_lt (n count : Nat) : (bits n count).degree < count :=
  (degree_lt_iff_coeff_zero _ _).2 fun _ h => coeff_bits_of_le n h

theorem testBit_of_bits_eq_zero {n : Nat} : ∀ {count}, bits n count = 0 →
    ∀ i < count, n.testBit i = false
  | 0, _ => by omega
  | count + 1, h => by
    rw [bits] at h
    have hhigh : n.testBit count = false := by
      have := congrArg (coeff · 0) h
      simpa [bit_eq_zero_iff] using this
    rw [hhigh, bit_false, C_0, zero_add, mul_eq_zero_iff_left X_ne_zero] at h
    intro i hi
    rcases Nat.lt_succ_iff_lt_or_eq.1 hi with hi | rfl
    · exact testBit_of_bits_eq_zero h i hi
    · exact hhigh

theorem bits_succ_eq_shiftRight (n : Nat) : ∀ count,
    bits n (count + 1) = bits (n >>> 1) count + C (bit (n.testBit 0)) * X ^ count
  | 0 => by
    simp [bits]
  | count + 1 => by
    rw [bits, bits_succ_eq_shiftRight n count, bits, Nat.testBit_shiftRight, Nat.add_comm 1]
    ring

theorem bits_append (m : Nat) {r k : Nat} (h : r < 2 ^ k) : ∀ count,
    bits (2 ^ k * m + r) (count + k) = bits m count + X ^ count * bits r k
  | 0 => by
    rw [bits, pow_zero, one_mul, zero_add, zero_add]
    refine bits_congr fun i hi => ?_
    rw [Nat.testBit_two_pow_mul_add m h, if_pos hi]
  | count + 1 => by
    have hbit : (2 ^ k * m + r).testBit (count + k) = m.testBit count := by
      rw [Nat.testBit_two_pow_mul_add m h, if_neg (by omega), Nat.add_sub_cancel]
    rw [Nat.add_right_comm, bits, bits_append m h count, hbit, bits]
    ring

/-! ## The modulus -/

/-- The polynomial of the field, x¹²⁸ + x⁷ + x² + x + 1. It stays folded, so that the power is never
multiplied out. -/
@[irreducible] noncomputable def modulus : (ZMod 2)[X] := X ^ 128 + (X ^ 7 + X ^ 2 + X + 1)

theorem degree_modulus : modulus.degree = 128 := by
  unfold modulus
  compute_degree!

theorem derivative_sq (q : (ZMod 2)[X]) : derivative (q ^ 2) = 0 := by
  rw [sq, derivative_mul, mul_comm q, CharTwo.add_self_eq_zero]

theorem derivative_modulus : derivative modulus = X ^ 6 + 1 := by
  have h : modulus = (X ^ 64) ^ 2 + X * (X ^ 3) ^ 2 + X ^ 2 + X + 1 := by
    unfold modulus
    ring
  rw [h]
  simp only [derivative_add, derivative_mul, derivative_sq, derivative_X, derivative_one]
  ring

theorem geom_sum_mul_add {R : Type*} [CommRing R] [CharP R 2] (x : R) (n : Nat) :
    (∑ i ∈ Finset.range n, x ^ i) * (x + 1) = x ^ n + 1 := by
  have h := geom_sum_mul x n
  rwa [CharTwo.sub_eq_add, CharTwo.sub_eq_add] at h

/-- Modulo its derivative the modulus is 1. -/
theorem modulus_eq : modulus =
    1 + (X + X ^ 2 * ∑ i ∈ Finset.range 21, (X ^ 6) ^ i) * derivative modulus := by
  have hsum := geom_sum_mul_add ((X : (ZMod 2)[X]) ^ 6) 21
  rw [derivative_modulus]
  unfold modulus
  linear_combination -X ^ 2 * hsum

theorem separable_modulus : modulus.Separable := by
  refine ⟨1, -(X + X ^ 2 * ∑ i ∈ Finset.range 21, (X ^ 6) ^ i), ?_⟩
  linear_combination modulus_eq

/-! ## Residues -/

abbrev Residue := AdjoinRoot modulus

instance : IsReduced Residue :=
  (Ideal.isRadical_iff_quotient_reduced _).1
    (isRadical_iff_span_singleton.1 separable_modulus.squarefree.isRadical)

noncomputable def residue (x : Element) : Residue := AdjoinRoot.mk modulus (bits x.toNat 128)

theorem residue_xor (x y : Element) : residue (x ^^^ y) = residue x + residue y := by
  rw [residue, BitVec.toNat_xor, bits_xor, map_add]
  rfl

theorem residue_zero : residue 0#128 = 0 := by
  rw [residue, BitVec.toNat_ofNat, Nat.zero_mod, bits_zero, map_zero]

theorem residue_eq_zero_iff {x : Element} : residue x = 0 ↔ x = 0#128 := by
  refine ⟨fun h => ?_, fun h => h ▸ residue_zero⟩
  have hdeg : (bits x.toNat 128).degree < modulus.degree := by
    rw [degree_modulus]
    exact degree_bits_lt x.toNat 128
  rw [residue, AdjoinRoot.mk_eq_zero] at h
  have hbits : bits x.toNat 128 = 0 := eq_zero_of_dvd_of_degree_lt h hdeg
  refine BitVec.eq_of_getLsbD_eq fun i hi => ?_
  rw [BitVec.getLsbD_zero]
  exact testBit_of_bits_eq_zero hbits i hi

theorem bits_reduction : bits reduction.toNat 128 = X ^ 7 + X ^ 2 + X + 1 := by
  have hvalue : reduction.toNat = 2 ^ 120 * 0xe1 + 0 := rfl
  have hbyte : bits 0xe1 8 = X ^ 7 + X ^ 2 + X + 1 := by
    simp [bits, Nat.testBit]
    ring
  rw [hvalue, bits_append 0xe1 (Nat.two_pow_pos 120) 8, bits_zero, mul_zero, add_zero, hbyte]

theorem residue_reduction : residue reduction = AdjoinRoot.mk modulus (X ^ 128) := by
  have h2 : (2 : (ZMod 2)[X]) = 0 := CharTwo.two_eq_zero
  rw [residue, AdjoinRoot.mk_eq_mk, bits_reduction]
  refine ⟨1, ?_⟩
  unfold modulus
  linear_combination -X ^ 128 * h2

theorem X_mul_bits (x : Element) :
    X * bits x.toNat 128 =
      bits (x >>> 1).toNat 128 + C (bit (x.getLsbD 0)) * X ^ 128 := by
  have hlost : (x.toNat >>> 1).testBit 127 = false := by
    rw [Nat.testBit_shiftRight]
    exact BitVec.getLsbD_of_ge x 128 (by omega)
  have hshift : bits (x >>> 1).toNat 128 = X * bits (x.toNat >>> 1) 127 := by
    rw [BitVec.toNat_ushiftRight, bits, hlost, bit_false, C_0, zero_add]
  rw [hshift, bits_succ_eq_shiftRight, BitVec.getLsbD]
  ring

theorem residue_timesX (x : Element) :
    residue (timesX x) = AdjoinRoot.root modulus * residue x := by
  have hroot : AdjoinRoot.root modulus * residue x =
      residue (x >>> 1) + AdjoinRoot.mk modulus (C (bit (x.getLsbD 0)) * X ^ 128) := by
    rw [residue, ← AdjoinRoot.mk_X, ← map_mul, X_mul_bits, map_add]
    rfl
  rw [hroot, timesX]
  cases x.getLsbD 0
  · simp
  · simp [residue_xor, residue_reduction]

/-- What `mulFrom` adds to `z` is `v` times the lowest `count` bits of `x`. -/
theorem residue_mulFrom (x : Element) : ∀ (count : Nat) (v z : Element),
    residue (mulFrom x count v z) =
      residue z + residue v * AdjoinRoot.mk modulus (bits x.toNat count)
  | 0, v, z => by
    rw [mulFrom, bits, map_zero, mul_zero, add_zero]
  | count + 1, v, z => by
    rw [mulFrom, residue_mulFrom x count, residue_timesX, bits, map_add, map_mul,
      AdjoinRoot.mk_X, BitVec.getLsbD]
    cases x.toNat.testBit count
    · simp
      ring
    · simp [residue_xor]
      ring

theorem residue_mul (x y : Element) : residue (mul x y) = residue x * residue y := by
  rw [mul, residue_mulFrom, residue_zero, zero_add, mul_comm]
  rfl

theorem isUnit_root : IsUnit (AdjoinRoot.root modulus) := by
  have h : AdjoinRoot.mk modulus (X * (X ^ 127 + X ^ 6 + X + 1)) = 1 := by
    have h2 : (2 : (ZMod 2)[X]) = 0 := CharTwo.two_eq_zero
    rw [← map_one (AdjoinRoot.mk modulus), AdjoinRoot.mk_eq_mk]
    refine ⟨1, ?_⟩
    unfold modulus
    linear_combination -h2
  rw [map_mul, AdjoinRoot.mk_X] at h
  exact .of_mul_eq_one _ h

/-- No power of an element other than zero, shifted, is zero. -/
theorem root_pow_mul_residue_pow_ne_zero {x : Element} (h : x ≠ 0#128) (j k : Nat) :
    AdjoinRoot.root modulus ^ j * residue x ^ k ≠ 0 := by
  rw [Ne, (isUnit_root.pow j).mul_right_eq_zero]
  exact fun h0 => h (residue_eq_zero_iff.1 (eq_zero_of_pow_eq_zero h0))

end DeviceAuth.Crypto.Gcm
