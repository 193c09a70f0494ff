import KeyDirectory.Proofs.Codec.Bits
import Mathlib.Algebra.Field.ZMod
import Mathlib.Algebra.Polynomial.Degree.Lemmas

/-!
# Bits as polynomials

Over the field of two elements, a list of bits is the polynomial with these coefficients, the leading
one first. Putting lists one after the other shifts the first one up (`polynomial_append`), and the
bits of a number are the coefficients in the order of their weights (`coeff_polynomial_ofNat`). Among
lists of one length the polynomial tells which list it is (`eq_of_polynomial_eq`), and its value at
one tells whether the number of set bits is odd (`eval_one_polynomial`).
-/

namespace KeyDirectory.Codec.Bits

open Polynomial

def coefficient (b : Bool) : ZMod 2 :=
  if b then 1 else 0

@[simp] theorem coefficient_false : coefficient false = 0 := rfl

@[simp] theorem coefficient_true : coefficient true = 1 := rfl

/-- Two bits that differ are added to one. -/
theorem coefficient_xor (a b : Bool) : coefficient (a ^^ b) = coefficient a + coefficient b := by
  cases a <;> cases b <;> decide

theorem coefficient_inj {a b : Bool} : coefficient a = coefficient b ↔ a = b := by
  cases a <;> cases b <;> decide

/-- The polynomial whose coefficients are the bits of a list, the leading one first. -/
noncomputable def polynomial : List Bool → (ZMod 2)[X]
  | [] => 0
  | b :: bits => C (coefficient b) * X ^ bits.length + polynomial bits

@[simp] theorem polynomial_nil : polynomial [] = 0 := rfl

/-- Bits that follow others leave these with higher powers. -/
theorem polynomial_append (bits bits' : List Bool) :
    polynomial (bits ++ bits') = polynomial bits * X ^ bits'.length + polynomial bits' := by
  induction bits with
  | nil => simp
  | cons b bits ih =>
    rw [List.cons_append, polynomial, polynomial, ih, List.length_append, pow_add]
    ring

/-- The bits of a number are the coefficients below the width. -/
theorem coeff_polynomial_ofNat (width n i : Nat) :
    (polynomial (ofNat width n)).coeff i =
      if i < width then coefficient (n.testBit i) else 0 := by
  induction width with
  | zero => simp [ofNat]
  | succ width ih =>
    rw [ofNat, polynomial, length_ofNat, coeff_add, coeff_C_mul, coeff_X_pow, ih]
    rcases Nat.lt_trichotomy i width with below | rfl | above
    · simp [below, Nat.ne_of_lt below, Nat.lt_succ_of_lt below]
    · simp
    · have outside : ¬ i < width + 1 := by omega
      simp [outside, Nat.not_lt_of_gt above, Nat.ne_of_gt above]

/-- The bits of a list have the weights below its length. -/
theorem coeff_polynomial_of_le {bits : List Bool} {i : Nat} (above : bits.length ≤ i) :
    (polynomial bits).coeff i = 0 := by
  induction bits with
  | nil => simp
  | cons b bits ih =>
    rw [List.length_cons] at above
    have distinct : i ≠ bits.length := by omega
    rw [polynomial, coeff_add, coeff_C_mul, coeff_X_pow, if_neg distinct, mul_zero, zero_add]
    exact ih (by omega)

/-- A list of bits has a degree below its length. -/
theorem degree_polynomial_lt (bits : List Bool) : (polynomial bits).degree < bits.length := by
  rw [degree_lt_iff_coeff_zero]
  intro i above
  exact coeff_polynomial_of_le above

/-- A list of a known length is known by its polynomial. -/
theorem eq_of_polynomial_eq {bits bits' : List Bool} (length : bits.length = bits'.length)
    (same : polynomial bits = polynomial bits') : bits = bits' := by
  induction bits generalizing bits' with
  | nil => exact (List.eq_nil_of_length_eq_zero length.symm).symm
  | cons b bits ih =>
    cases bits' with
    | nil => cases length
    | cons b' bits' =>
      rw [List.length_cons, List.length_cons, Nat.succ_inj] at length
      -- the leading bit is the coefficient that no later bit reaches
      have leading : coefficient b = coefficient b' := by
        have coeffs := congrArg (coeff · bits.length) same
        simpa [polynomial, coeff_X_pow, coeff_polynomial_of_le, length] using coeffs
      have first : b = b' := coefficient_inj.mp leading
      rw [polynomial, polynomial, leading, length, add_right_inj] at same
      rw [first, ih length same]

/-- The value at one is the number of set bits, as far as it is odd or even. -/
theorem eval_one_polynomial (bits : List Bool) :
    (polynomial bits).eval 1 = (bits.count true : ZMod 2) := by
  induction bits with
  | nil => simp
  | cons b bits ih =>
    rw [polynomial, eval_add, eval_mul, eval_C, eval_pow, eval_X, one_pow, mul_one, ih]
    cases b with
    | false => simp
    | true => simp [add_comm]

end KeyDirectory.Codec.Bits
