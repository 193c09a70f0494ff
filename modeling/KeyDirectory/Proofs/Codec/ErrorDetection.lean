import KeyDirectory.Proofs.Codec.Crc24
import Mathlib.RingTheory.Coprime.Lemmas

/-!
# Errors that CRC-24 detects

Two messages of one length that have the same checksum differ by a multiple of the generator
(`dvd_of_checksum_eq`). Two properties of the generator limit what such a difference can be:

* `X` is no factor of it (`isCoprime_generator_X`). Bits that differ in a window of 24 only are a
  multiple of the generator times a power of `X`, and without that power their degree is too small
  (`checksum_ne_of_differWithin`).
* `X + 1` is a factor of it: it vanishes at one (`eval_one_generator`), and so do its multiples, which
  have an even number of terms (`checksum_ne_of_odd`).

Together: a burst of up to 24 bits and an odd number of flipped bits never go unnoticed
(`checksum_ne_of_error`).
-/

namespace KeyDirectory.Codec

/-! ## Lists of bits that differ -/

namespace Bits

open Polynomial

/-- Two lists of bits are the same before some window, and the same after it. -/
def DifferWithin (width : Nat) (bits bits' : List Bool) : Prop :=
  ∃ first, bits.take first = bits'.take first ∧
    bits.drop (first + width) = bits'.drop (first + width)

/-- The number of places at which two lists of bits differ. -/
def distance (bits bits' : List Bool) : Nat :=
  (List.zipWith xor bits bits').count true

/-- The two windows, with what the lists share before and after them. -/
theorem DifferWithin.windows {width : Nat} {bits bits' : List Bool}
    (length : bits.length = bits'.length) (within : DifferWithin width bits bits') :
    ∃ before window window' after,
      bits = before ++ (window ++ after) ∧ bits' = before ++ (window' ++ after) ∧
      window.length = window'.length ∧ window.length ≤ width := by
  obtain ⟨first, before, after⟩ := within
  refine ⟨bits.take first, (bits.drop first).take width, (bits'.drop first).take width,
    bits.drop (first + width), ?_, ?_, ?_, ?_⟩
  · rw [← List.drop_drop, List.take_append_drop, List.take_append_drop]
  · rw [before, after, ← List.drop_drop, List.take_append_drop, List.take_append_drop]
  · simp [length]
  · exact List.length_take_le width _

/-- What lists share does not count in the difference of their polynomials, except that it shifts the
rest. -/
theorem polynomial_sub_polynomial (before after : List Bool) {window window' : List Bool}
    (length : window.length = window'.length) :
    polynomial (before ++ (window ++ after)) - polynomial (before ++ (window' ++ after)) =
      (polynomial window - polynomial window') * X ^ after.length := by
  rw [polynomial_append, polynomial_append, polynomial_append, polynomial_append,
    List.length_append, List.length_append, length]
  ring

/-- The difference of two messages of one length has no more bits than they. -/
theorem degree_sub_lt {bits bits' : List Bool} (length : bits.length = bits'.length) :
    (polynomial bits - polynomial bits').degree < bits.length := by
  apply lt_of_le_of_lt (degree_sub_le _ _)
  apply max_lt (degree_polynomial_lt bits)
  rw [length]
  exact degree_polynomial_lt bits'

/-- The places at which lists differ are the terms of the difference of their polynomials. -/
theorem polynomial_zipWith_xor {bits bits' : List Bool} (length : bits.length = bits'.length) :
    polynomial (List.zipWith xor bits bits') = polynomial bits - polynomial bits' := by
  induction bits generalizing bits' with
  | nil =>
    cases bits' with
    | nil => simp
    | cons b' bits' => cases length
  | cons b bits ih =>
    cases bits' with
    | nil => cases length
    | cons b' bits' =>
      rw [List.length_cons, List.length_cons, Nat.succ_inj] at length
      have leading : coefficient (b ^^ b') = coefficient b - coefficient b' := by
        cases b <;> cases b' <;> decide
      rw [List.zipWith_cons_cons, polynomial, polynomial, polynomial, ih length, leading,
        List.length_zipWith, ← length, Nat.min_self, C_sub]
      ring

/-- Where the difference vanishes at one, an even number of places differ. -/
theorem even_distance {bits bits' : List Bool} (length : bits.length = bits'.length)
    (vanishes : (polynomial bits - polynomial bits').eval 1 = 0) : Even (distance bits bits') := by
  rw [← polynomial_zipWith_xor length, eval_one_polynomial] at vanishes
  exact ZMod.natCast_eq_zero_iff_even.mp vanishes

end Bits

namespace Crc24

open Polynomial

/-! ## The generator -/

/-- The generator ends in a one, so that no shift of an error hides it. -/
theorem coeff_zero_generator : (polynomial generator).coeff 0 = 1 := by
  rw [coeff_polynomial]
  decide

/-- The generator has a constant term, so that `X` does not divide it. -/
theorem isCoprime_generator_X : IsCoprime (polynomial generator) X := by
  have parts := divX_mul_X_add (polynomial generator)
  rw [coeff_zero_generator, C_1] at parts
  refine ⟨1, -divX (polynomial generator), ?_⟩
  rw [one_mul, neg_mul, ← sub_eq_add_neg, sub_eq_iff_eq_add', parts]

/-- Multiplication by a power of `X` makes no multiples of the generator. -/
theorem dvd_of_dvd_mul_X_pow {p : (ZMod 2)[X]} {n : Nat}
    (multiple : polynomial generator ∣ p * X ^ n) : polynomial generator ∣ p :=
  (isCoprime_generator_X.pow_right (n := n)).dvd_of_dvd_mul_right multiple

/-- The generator has an even number of terms. -/
theorem eval_one_generator : (polynomial generator).eval 1 = 0 := by
  rw [polynomial, Bits.eval_one_polynomial]
  decide

/-- A multiple of the generator has an even number of terms. -/
theorem eval_one_eq_zero {p : (ZMod 2)[X]} (multiple : polynomial generator ∣ p) :
    p.eval 1 = 0 := by
  have factor := eval_dvd multiple (x := 1)
  rw [eval_one_generator] at factor
  exact zero_dvd_iff.mp factor

/-! ## Messages with one checksum -/

variable {bytes bytes' : List UInt8}

theorem length_ofBytes_eq (length : bytes.length = bytes'.length) :
    (Bits.ofBytes bytes).length = (Bits.ofBytes bytes').length := by
  rw [Bits.length_ofBytes, Bits.length_ofBytes, length]

/-- The generator divides the difference of messages that share their checksum. -/
theorem dvd_of_checksum_eq (length : bytes.length = bytes'.length)
    (same : checksum bytes = checksum bytes') :
    polynomial generator ∣
      Bits.polynomial (Bits.ofBytes bytes) - Bits.polynomial (Bits.ofBytes bytes') := by
  rw [checksum_eq_foldl, checksum_eq_foldl] at same
  have division := dvd_foldl toNat_start_lt bytes
  have division' := dvd_foldl toNat_start_lt bytes'
  -- the start value and the remainder are the same on both sides
  rw [same, length] at division
  have difference := dvd_sub division division'
  rw [sub_sub_sub_cancel_right, add_sub_add_left_eq_sub, ← sub_mul] at difference
  exact dvd_of_dvd_mul_X_pow difference

/-- A burst of errors is detected if it is not longer than the checksum. -/
theorem checksum_ne_of_differWithin (length : bytes.length = bytes'.length) (ne : bytes ≠ bytes')
    (within : Bits.DifferWithin 24 (Bits.ofBytes bytes) (Bits.ofBytes bytes')) :
    checksum bytes ≠ checksum bytes' := by
  intro same
  have multiple := dvd_of_checksum_eq length same
  obtain ⟨before, window, window', after, bits_eq, bits_eq', lengths, narrow⟩ :=
    within.windows (length_ofBytes_eq length)
  rw [bits_eq, bits_eq', Bits.polynomial_sub_polynomial before after lengths] at multiple
  have small : (Bits.polynomial window - Bits.polynomial window').degree < 24 :=
    lt_of_lt_of_le (Bits.degree_sub_lt lengths) (by exact_mod_cast narrow)
  have vanishes := eq_zero_of_generator_dvd (dvd_of_dvd_mul_X_pow multiple) small
  have windows_eq := Bits.eq_of_polynomial_eq lengths (sub_eq_zero.mp vanishes)
  apply ne
  apply Bits.eq_of_ofBytes_eq
  rw [bits_eq, bits_eq', windows_eq]

/-- An odd number of errors is detected. -/
theorem checksum_ne_of_odd (length : bytes.length = bytes'.length)
    (odd : Odd (Bits.distance (Bits.ofBytes bytes) (Bits.ofBytes bytes'))) :
    checksum bytes ≠ checksum bytes' := by
  intro same
  have vanishes := eval_one_eq_zero (dvd_of_checksum_eq length same)
  have even := Bits.even_distance (length_ofBytes_eq length) vanishes
  exact Nat.not_even_iff_odd.mpr odd even

/-- Two messages of one length have different checksums if they differ, and only in a window of 24
bits, wherever it begins; and if they differ in an odd number of bits, wherever these are. -/
theorem checksum_ne_of_error (length : bytes.length = bytes'.length)
    (error : bytes ≠ bytes' ∧ Bits.DifferWithin 24 (Bits.ofBytes bytes) (Bits.ofBytes bytes') ∨
      Odd (Bits.distance (Bits.ofBytes bytes) (Bits.ofBytes bytes'))) :
    checksum bytes ≠ checksum bytes' := by
  rcases error with ⟨ne, within⟩ | odd
  · exact checksum_ne_of_differWithin length ne within
  · exact checksum_ne_of_odd length odd

/-- A burst over four bytes that begins and ends inside a byte, and three flipped bits that no window
of 24 holds. -/
theorem checksum_ne_of_burst_or_flips :
    Bits.DifferWithin 24 (Bits.ofBytes [0x12, 0x34, 0x56, 0x78, 0x9A])
        (Bits.ofBytes [0x12, 0x3C, 0xA9, 0x79, 0x8A]) ∧
      checksum [0x12, 0x34, 0x56, 0x78, 0x9A] ≠ checksum [0x12, 0x3C, 0xA9, 0x79, 0x8A] ∧
      Odd (Bits.distance (Bits.ofBytes [0x12, 0x34, 0x56, 0x78, 0x9A])
        (Bits.ofBytes [0x92, 0x34, 0x46, 0x78, 0x9B])) ∧
      checksum [0x12, 0x34, 0x56, 0x78, 0x9A] ≠ checksum [0x92, 0x34, 0x46, 0x78, 0x9B] := by
  have within : Bits.DifferWithin 24 (Bits.ofBytes [0x12, 0x34, 0x56, 0x78, 0x9A])
      (Bits.ofBytes [0x12, 0x3C, 0xA9, 0x79, 0x8A]) := ⟨12, by decide, by decide⟩
  have odd : Odd (Bits.distance (Bits.ofBytes [0x12, 0x34, 0x56, 0x78, 0x9A])
      (Bits.ofBytes [0x92, 0x34, 0x46, 0x78, 0x9B])) := by decide
  exact ⟨within, checksum_ne_of_error rfl (.inl ⟨by decide, within⟩), odd,
    checksum_ne_of_error rfl (.inr odd)⟩

end Crc24

end KeyDirectory.Codec
