import KeyDirectory.Codec.Crc24
import KeyDirectory.Proofs.Codec.Polynomials
import Mathlib.Algebra.Polynomial.Div

/-!
# CRC-24 as a division

The register never holds more than 24 bits (`toNat_foldl_lt`), so its shifts lose nothing. Read as a
polynomial over the field of two elements, it is multiplied by `X` at every shift, up to a multiple of
the generator (`dvd_shift`); a byte takes eight shifts (`dvd_absorb`), and by induction over the bytes
the register differs from the message by a multiple of the generator (`dvd_foldl`). Having fewer bits
than the generator, it is the remainder (`checksum_eq_remainder`).
-/

namespace KeyDirectory.Codec.Crc24

open Polynomial

/-! ## The register -/

/-- A register holds a number below a power of two iff the bits from there on are clear. -/
theorem toNat_lt_iff {r : Register} {n : Nat} :
    r.toNat < 2 ^ n ↔ ∀ i, n ≤ i → r.getLsbD i = false := by
  constructor
  · intro less i above
    rw [← BitVec.testBit_toNat]
    exact Nat.testBit_lt_two_pow (Nat.lt_of_lt_of_le less (Nat.pow_le_pow_right (by decide) above))
  · intro clear
    apply Nat.lt_pow_two_of_testBit
    intro i above
    rw [BitVec.testBit_toNat]
    exact clear i above

/-- A shift that drops no bit multiplies. -/
theorem toNat_shiftLeft {r : Register} {width n : Nat} (small : r.toNat < 2 ^ width)
    (room : width + n ≤ 32) : (r <<< n).toNat = r.toNat * 2 ^ n := by
  have fits : r.toNat * 2 ^ n < 2 ^ 32 :=
    calc r.toNat * 2 ^ n
      _ < 2 ^ width * 2 ^ n := Nat.mul_lt_mul_of_pos_right small (Nat.two_pow_pos n)
      _ = 2 ^ (width + n) := (Nat.pow_add 2 width n).symm
      _ ≤ 2 ^ 32 := Nat.pow_le_pow_right (by decide) room
  rw [BitVec.toNat_shiftLeft, Nat.shiftLeft_eq, Nat.mod_eq_of_lt fits]

/-- What a shift subtracts is seen from the top bit. -/
theorem shift_eq (r : Register) :
    shift r = (r <<< 1) ^^^ (if r.getLsbD 23 then generator else 0) := by
  have mask : (0x1000000 : Register) = BitVec.twoPow 32 24 := by decide
  have top : (r <<< 1).getLsbD 24 = r.getLsbD 23 := by simp
  rw [shift, mask, BitVec.and_twoPow, top]
  cases r.getLsbD 23 with
  | false => simp
  | true =>
    have nonzero : BitVec.twoPow 32 24 ≠ 0#32 := by decide
    simp [nonzero]

theorem getLsbD_generator_of_lt {i : Nat} (above : 24 < i) : generator.getLsbD i = false := by
  have bound : generator.toNat < 2 ^ 25 := by decide
  exact toNat_lt_iff.mp bound i above

/-- A shift of the register keeps within 24 bits. -/
theorem toNat_shift_lt {r : Register} (small : r.toNat < 2 ^ 24) : (shift r).toNat < 2 ^ 24 := by
  have clear := toNat_lt_iff.mp small
  rw [toNat_lt_iff]
  intro i above
  rw [shift_eq, BitVec.getLsbD_xor, BitVec.getLsbD_shiftLeft]
  rcases Nat.eq_or_lt_of_le above with rfl | beyond
  · -- the bit that leaves is the leading one of the generator
    have leading : generator.getLsbD 24 = true := by decide
    cases r.getLsbD 23 <;> simp [leading]
  · have before : r.getLsbD (i - 1) = false := clear (i - 1) (by omega)
    cases r.getLsbD 23 <;> simp [before, getLsbD_generator_of_lt beyond]

/-- The register after `n` of the shifts with which it takes in a byte. -/
def partway (r : Register) (b : UInt8) (n : Nat) : Register :=
  Nat.repeat shift n (r ^^^ (BitVec.ofNat 32 b.toNat <<< 16))

theorem partway_zero (r : Register) (b : UInt8) :
    partway r b 0 = r ^^^ (BitVec.ofNat 32 b.toNat <<< 16) := rfl

theorem partway_succ (r : Register) (b : UInt8) (n : Nat) :
    partway r b (n + 1) = shift (partway r b n) := rfl

theorem absorb_eq_partway (r : Register) (b : UInt8) : absorb r b = partway r b 8 := rfl

theorem toNat_byte_lt (b : UInt8) : (BitVec.ofNat 32 b.toNat).toNat < 2 ^ 8 := by
  have bound := b.toNat_lt
  rw [BitVec.toNat_ofNat]
  omega

theorem toNat_byte_shiftLeft (b : UInt8) :
    (BitVec.ofNat 32 b.toNat <<< 16).toNat = b.toNat * 2 ^ 16 := by
  have bound := b.toNat_lt
  rw [toNat_shiftLeft (toNat_byte_lt b) (by decide), BitVec.toNat_ofNat, Nat.mod_eq_of_lt (by omega)]

theorem toNat_partway_lt {r : Register} (small : r.toNat < 2 ^ 24) (b : UInt8) (n : Nat) :
    (partway r b n).toNat < 2 ^ 24 := by
  induction n with
  | zero =>
    have bound := b.toNat_lt
    rw [partway_zero, BitVec.toNat_xor]
    apply Nat.xor_lt_two_pow small
    rw [toNat_byte_shiftLeft]
    omega
  | succ n ih =>
    rw [partway_succ]
    exact toNat_shift_lt ih

theorem toNat_absorb_lt {r : Register} (small : r.toNat < 2 ^ 24) (b : UInt8) :
    (absorb r b).toNat < 2 ^ 24 := by
  rw [absorb_eq_partway]
  exact toNat_partway_lt small b 8

/-- The register keeps within 24 bits, however long the message. -/
theorem toNat_foldl_lt {r : Register} (small : r.toNat < 2 ^ 24) (bytes : List UInt8) :
    (bytes.foldl absorb r).toNat < 2 ^ 24 := by
  induction bytes generalizing r with
  | nil => exact small
  | cons b bytes ih => exact ih (toNat_absorb_lt small b)

theorem toNat_start_lt : start.toNat < 2 ^ 24 := by decide

/-- No bit is left that the mask could take away. -/
theorem checksum_eq_foldl (bytes : List UInt8) : checksum bytes = bytes.foldl absorb start := by
  have small := toNat_foldl_lt toNat_start_lt bytes
  apply BitVec.eq_of_toNat_eq
  rw [checksum, BitVec.toNat_and]
  have mask : (0xFFFFFF : Register).toNat = 2 ^ 24 - 1 := by decide
  rw [mask, Nat.and_two_pow_sub_one_eq_mod, Nat.mod_eq_of_lt small]

/-! ## Division -/

/-- The polynomial whose coefficients are the bits of a register. -/
noncomputable def polynomial (r : Register) : (ZMod 2)[X] :=
  Bits.polynomial (Bits.ofNat 32 r.toNat)

/-- The coefficients of a register are its bits. -/
theorem coeff_polynomial (r : Register) (i : Nat) :
    (polynomial r).coeff i = Bits.coefficient (r.getLsbD i) := by
  rw [polynomial, Bits.coeff_polynomial_ofNat, BitVec.testBit_toNat]
  by_cases inside : i < 32
  · rw [if_pos inside]
  · rw [if_neg inside, BitVec.getLsbD_of_ge r i (Nat.le_of_not_lt inside), Bits.coefficient_false]

theorem polynomial_zero : polynomial 0 = 0 := by
  ext i
  simp [coeff_polynomial]

/-- Where registers are combined bit by bit, their polynomials are added. -/
theorem polynomial_xor (r s : Register) :
    polynomial (r ^^^ s) = polynomial r + polynomial s := by
  ext i
  rw [coeff_add, coeff_polynomial, coeff_polynomial, coeff_polynomial, BitVec.getLsbD_xor,
    Bits.coefficient_xor]

/-- A shift to the left multiplies by a power of the indeterminate. -/
theorem polynomial_shiftLeft {r : Register} {width n : Nat} (small : r.toNat < 2 ^ width)
    (room : width + n ≤ 32) : polynomial (r <<< n) = polynomial r * X ^ n := by
  ext i
  rw [coeff_polynomial, coeff_mul_X_pow', coeff_polynomial, BitVec.getLsbD_shiftLeft]
  by_cases low : i < n
  · simp [low, Nat.not_le_of_gt low]
  · by_cases inside : i < 32
    · simp [low, inside, Nat.le_of_not_lt low]
    · have clear := toNat_lt_iff.mp small (i - n) (by omega)
      simp [clear]

/-- The degree is below the number of bits. -/
theorem degree_polynomial_lt {r : Register} {n : Nat} (small : r.toNat < 2 ^ n) :
    (polynomial r).degree < n := by
  rw [degree_lt_iff_coeff_zero]
  intro i above
  rw [coeff_polynomial, toNat_lt_iff.mp small i above, Bits.coefficient_false]

/-- A byte in a register is the polynomial of its bits. -/
theorem polynomial_byte (b : UInt8) :
    polynomial (BitVec.ofNat 32 b.toNat) = Bits.polynomial (Bits.ofNat 8 b.toNat) := by
  have bound := b.toNat_lt
  ext i
  rw [coeff_polynomial, Bits.coeff_polynomial_ofNat, BitVec.getLsbD_ofNat]
  by_cases inside : i < 8
  · simp [inside, Nat.lt_trans inside (by decide : 8 < 32)]
  · have clear : b.toNat.testBit i = false := by
      apply Nat.testBit_lt_two_pow
      exact Nat.lt_of_lt_of_le bound (Nat.pow_le_pow_right (by decide) (Nat.le_of_not_lt inside))
    simp [inside, clear]

theorem natDegree_generator : (polynomial generator).natDegree = 24 := by
  apply natDegree_eq_of_le_of_coeff_ne_zero
  · rw [natDegree_le_iff_coeff_eq_zero]
    intro i above
    rw [coeff_polynomial, getLsbD_generator_of_lt above, Bits.coefficient_false]
  · rw [coeff_polynomial]
    decide

/-- The generator is monic, so that there is division by it. -/
theorem monic_generator : (polynomial generator).Monic := by
  rw [Monic, leadingCoeff, natDegree_generator, coeff_polynomial]
  decide

theorem degree_generator : (polynomial generator).degree = 24 := by
  rw [degree_eq_natDegree monic_generator.ne_zero, natDegree_generator]
  rfl

/-- Nothing of fewer than 24 bits is a multiple of the generator, except zero. -/
theorem eq_zero_of_generator_dvd {p : (ZMod 2)[X]} (multiple : polynomial generator ∣ p)
    (narrow : p.degree < 24) : p = 0 := by
  rw [← degree_generator] at narrow
  exact eq_zero_of_dvd_of_degree_lt multiple narrow

/-- A shift multiplies by `X`, up to a multiple of the generator. -/
theorem dvd_shift {r : Register} (small : r.toNat < 2 ^ 24) :
    polynomial generator ∣ polynomial r * X - polynomial (shift r) := by
  have doubled : polynomial (r <<< 1) = polynomial r * X := by
    rw [polynomial_shiftLeft small (by decide), pow_one]
  rw [shift_eq, polynomial_xor, doubled, sub_add_cancel_left, dvd_neg]
  cases r.getLsbD 23 with
  | false =>
    rw [if_neg Bool.false_ne_true, polynomial_zero]
    exact dvd_zero _
  | true =>
    rw [if_pos rfl]

/-- Before the first shift a byte stands at the top of the register, and each shift multiplies both. -/
theorem dvd_partway {r : Register} (small : r.toNat < 2 ^ 24) (b : UInt8) (n : Nat) :
    polynomial generator ∣
      (polynomial r + Bits.polynomial (Bits.ofNat 8 b.toNat) * X ^ 16) * X ^ n -
        polynomial (partway r b n) := by
  induction n with
  | zero =>
    rw [partway_zero, polynomial_xor, polynomial_shiftLeft (toNat_byte_lt b) (by decide),
      polynomial_byte, pow_zero, mul_one, sub_self]
    exact dvd_zero _
  | succ n ih =>
    have last := dvd_shift (toNat_partway_lt small b n)
    rw [← partway_succ] at last
    -- the difference after a shift is `X` times the one before it, and what that shift adds
    have split : (polynomial r + Bits.polynomial (Bits.ofNat 8 b.toNat) * X ^ 16) * X ^ (n + 1) -
          polynomial (partway r b (n + 1)) =
        ((polynomial r + Bits.polynomial (Bits.ofNat 8 b.toNat) * X ^ 16) * X ^ n -
          polynomial (partway r b n)) * X +
        (polynomial (partway r b n) * X - polynomial (partway r b (n + 1))) := by
      rw [pow_succ]
      ring
    rw [split]
    exact dvd_add (ih.mul_right X) last

/-- A byte multiplies what came before it by `X ^ 8`, and is itself multiplied by `X ^ 24`. -/
theorem dvd_absorb {r : Register} (small : r.toNat < 2 ^ 24) (b : UInt8) :
    polynomial generator ∣
      polynomial r * X ^ 8 + Bits.polynomial (Bits.ofNat 8 b.toNat) * X ^ 24 -
        polynomial (absorb r b) := by
  have shifted : (polynomial r + Bits.polynomial (Bits.ofNat 8 b.toNat) * X ^ 16) * X ^ 8 =
      polynomial r * X ^ 8 + Bits.polynomial (Bits.ofNat 8 b.toNat) * X ^ 24 := by
    ring
  rw [← shifted, absorb_eq_partway]
  exact dvd_partway small b 8

/-- What the register holds after a message is what a division by the generator leaves. -/
theorem dvd_foldl {r : Register} (small : r.toNat < 2 ^ 24) (bytes : List UInt8) :
    polynomial generator ∣
      polynomial r * X ^ (8 * bytes.length) + Bits.polynomial (Bits.ofBytes bytes) * X ^ 24 -
        polynomial (bytes.foldl absorb r) := by
  induction bytes generalizing r with
  | nil => simp
  | cons b bytes ih =>
    have first := dvd_absorb small b
    have rest := ih (toNat_absorb_lt small b)
    -- the bits of the first byte stand above those of the others
    have split : polynomial r * X ^ (8 * (b :: bytes).length) +
          Bits.polynomial (Bits.ofBytes (b :: bytes)) * X ^ 24 -
          polynomial ((b :: bytes).foldl absorb r) =
        (polynomial r * X ^ 8 + Bits.polynomial (Bits.ofNat 8 b.toNat) * X ^ 24 -
          polynomial (absorb r b)) * X ^ (8 * bytes.length) +
        (polynomial (absorb r b) * X ^ (8 * bytes.length) +
          Bits.polynomial (Bits.ofBytes bytes) * X ^ 24 -
          polynomial (bytes.foldl absorb (absorb r b))) := by
      rw [Bits.ofBytes_cons, Bits.polynomial_append, Bits.length_ofBytes, List.length_cons,
        List.foldl_cons, Nat.mul_succ, pow_add]
      ring
    rw [split]
    exact dvd_add (first.mul_right _) rest

/-- What has fewer bits than the generator, and differs from a polynomial by a multiple of the
generator, is its remainder. -/
theorem modByMonic_generator {r : Register} (small : r.toNat < 2 ^ 24) {p : (ZMod 2)[X]}
    (multiple : polynomial generator ∣ p - polynomial r) :
    p %ₘ polynomial generator = polynomial r := by
  obtain ⟨q, difference⟩ := multiple
  have degree_lt : (polynomial r).degree < (polynomial generator).degree := by
    rw [degree_generator]
    exact degree_polynomial_lt small
  refine (div_modByMonic_unique q (polynomial r) monic_generator ⟨?_, degree_lt⟩).2
  rw [← difference, add_sub_cancel]

/-- The checksum is the remainder of a division. The bits of the message, multiplied by `X ^ 24`,
follow those of the start value, and the divisor is the generator, a polynomial of degree 24. All the
while the register holds 24 bits: no shift pushes a bit out of it, and there is nothing to mask at the
end. -/
theorem checksum_eq_remainder :
    (polynomial generator).Monic ∧ (polynomial generator).natDegree = 24 ∧
    ∀ bytes : List UInt8,
      polynomial (checksum bytes) =
        (polynomial start * X ^ (8 * bytes.length) +
          Bits.polynomial (Bits.ofBytes bytes) * X ^ 24) %ₘ polynomial generator ∧
      (bytes.foldl absorb start).toNat < 2 ^ 24 ∧
      checksum bytes = bytes.foldl absorb start ∧
      ∀ b : UInt8,
        (BitVec.ofNat 32 b.toNat <<< 16).toNat = b.toNat * 2 ^ 16 ∧
        ∀ n,
          (partway (bytes.foldl absorb start) b n).toNat < 2 ^ 24 ∧
          (partway (bytes.foldl absorb start) b n <<< 1).toNat =
            (partway (bytes.foldl absorb start) b n).toNat * 2 := by
  refine ⟨monic_generator, natDegree_generator, fun bytes => ?_⟩
  have small := toNat_foldl_lt toNat_start_lt bytes
  refine ⟨?_, small, checksum_eq_foldl bytes, fun b => ⟨toNat_byte_shiftLeft b, fun n => ?_⟩⟩
  · rw [checksum_eq_foldl, modByMonic_generator small (dvd_foldl toNat_start_lt bytes)]
  · have reached := toNat_partway_lt small b n
    refine ⟨reached, ?_⟩
    rw [toNat_shiftLeft reached (by decide), Nat.pow_one]

example : checksum "123456789".toUTF8.toList = 0x21CF02 := by decide +kernel

end KeyDirectory.Codec.Crc24
