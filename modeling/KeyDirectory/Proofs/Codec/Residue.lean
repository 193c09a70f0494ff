import KeyDirectory.Proofs.Codec.Armor
import KeyDirectory.Proofs.Codec.ErrorDetection

/-!
# Messages followed by their checksum

Three bytes fill the register from its top bit to its lowest, so taking them in multiplies what it held
and the bytes themselves by the same power of `X` (`dvd_foldl_three`). What is multiplied is the sum of
two polynomials of degree less than 24. It is a multiple of the generator only if it vanishes, and that
is to say that the bytes are those of the register (`foldl_eq_zero_iff`).

So a message with its checksum behind it has the checksum zero, and with no other three bytes
(`checksum_append_octets`).
-/

namespace KeyDirectory.Codec.Crc24

open Polynomial

variable {r : Register} {tail : List UInt8}

/-! ## The bytes of a register -/

theorem length_octets (r : Register) : (octets r).length = 3 := rfl

/-- The three bytes of a register are its 24 bits. -/
theorem ofBytes_octets (r : Register) : Bits.ofBytes (octets r) = Bits.ofNat 24 r.toNat := by
  have byte (n : Nat) : Bits.ofNat 8 (UInt8.ofNat n).toNat = Bits.ofNat 8 n := by
    rw [UInt8.toNat_ofNat', Bits.ofNat_mod]
  have cut : Bits.ofNat 24 r.toNat =
      Bits.ofNat 8 (r.toNat / 65536) ++ Bits.ofNat 8 (r.toNat / 256) ++ Bits.ofNat 8 r.toNat := by
    rw [Bits.ofNat_add 16 8, Bits.ofNat_add 8 8, Nat.div_div_eq_div_mul]
    rfl
  rw [cut, octets, Bits.ofBytes_cons, Bits.ofBytes_cons, Bits.ofBytes_cons, byte, byte, byte,
    Bits.ofBytes_nil, List.append_nil, List.append_assoc]

/-- A register of 24 bits has no others. -/
theorem polynomial_octets (small : r.toNat < 2 ^ 24) :
    Bits.polynomial (Bits.ofBytes (octets r)) = polynomial r := by
  ext i
  rw [ofBytes_octets, Bits.coeff_polynomial_ofNat, coeff_polynomial, BitVec.testBit_toNat]
  by_cases inside : i < 24
  · rw [if_pos inside]
  · rw [if_neg inside, toNat_lt_iff.mp small i (Nat.le_of_not_lt inside), Bits.coefficient_false]

/-- Only the empty register is the zero polynomial. -/
theorem eq_zero_of_polynomial_eq_zero (vanishes : polynomial r = 0) : r = 0 := by
  apply BitVec.eq_of_getLsbD_eq
  intro i _
  have coeffs := congrArg (coeff · i) vanishes
  simp only [coeff_polynomial, coeff_zero, ← Bits.coefficient_false] at coeffs
  rw [Bits.coefficient_inj.mp coeffs]
  simp

/-! ## Three bytes more -/

/-- Three bytes are multiplied by as much as the register that takes them in. -/
theorem dvd_foldl_three (small : r.toNat < 2 ^ 24) (three : tail.length = 3) :
    polynomial generator ∣
      (polynomial r + Bits.polynomial (Bits.ofBytes tail)) * X ^ 24 -
        polynomial (tail.foldl absorb r) := by
  have division := dvd_foldl small tail
  rwa [three, ← add_mul] at division

/-- The register is empty after three bytes if and only if they are its own. -/
theorem foldl_eq_zero_iff (small : r.toNat < 2 ^ 24) (three : tail.length = 3) :
    tail.foldl absorb r = 0 ↔ tail = octets r := by
  have division := dvd_foldl_three small three
  constructor
  · intro empty
    rw [empty, polynomial_zero, sub_zero] at division
    -- the sum has fewer than 24 bits, too few for a multiple of the generator
    have narrow : (polynomial r + Bits.polynomial (Bits.ofBytes tail)).degree < 24 := by
      have bits : (Bits.ofBytes tail).length = 24 := by rw [Bits.length_ofBytes, three]
      have tail_lt := Bits.degree_polynomial_lt (Bits.ofBytes tail)
      rw [bits] at tail_lt
      exact lt_of_le_of_lt (degree_add_le _ _) (max_lt (degree_polynomial_lt small) tail_lt)
    have vanishes := eq_zero_of_generator_dvd (dvd_of_dvd_mul_X_pow division) narrow
    have same : Bits.polynomial (Bits.ofBytes tail) =
        Bits.polynomial (Bits.ofBytes (octets r)) := by
      rw [polynomial_octets small]
      exact (CharTwo.add_eq_zero.mp vanishes).symm
    apply Bits.eq_of_ofBytes_eq
    apply Bits.eq_of_polynomial_eq _ same
    rw [Bits.length_ofBytes, Bits.length_ofBytes, three, length_octets]
  · rintro rfl
    rw [polynomial_octets small, CharTwo.add_self_eq_zero, zero_mul, zero_sub, dvd_neg] at division
    have narrow : (polynomial ((octets r).foldl absorb r)).degree < 24 :=
      degree_polynomial_lt (toNat_foldl_lt small _)
    exact eq_zero_of_polynomial_eq_zero (eq_zero_of_generator_dvd division narrow)

/-! ## Messages -/

/-- Three bytes at the end make the checksum zero iff they are the checksum of what is before them.
-/
theorem checksum_append_eq_zero_iff (bytes : List UInt8) (three : tail.length = 3) :
    checksum (bytes ++ tail) = 0 ↔ tail = octets (checksum bytes) := by
  rw [checksum_eq_foldl, checksum_eq_foldl, List.foldl_append]
  exact foldl_eq_zero_iff (toNat_foldl_lt toNat_start_lt bytes) three

/-- A message that is followed by three bytes has the checksum zero if and only if these are the bytes
of its own checksum: the digits of that number to the base 256, the most significant one first, as they
are written on the checksum line. -/
theorem checksum_append_octets (bytes : List UInt8) (high middle low : UInt8) :
    (checksum (bytes ++ [high, middle, low]) = 0 ↔
      [high, middle, low] = octets (checksum bytes)) ∧
    ([high, middle, low] = octets (checksum bytes) ↔
      high.toNat * 65536 + middle.toNat * 256 + low.toNat = (checksum bytes).toNat) ∧
    ([high, middle, low] = octets (checksum bytes) ↔
      line bytes = '=' :: Base64.encode [high, middle, low]) := by
  refine ⟨checksum_append_eq_zero_iff bytes rfl, ?_, ?_⟩
  · obtain ⟨high', middle', low', own, number⟩ := Armor.exists_octets bytes
    rw [own, ← number]
    constructor
    · rintro ⟨⟩
      rfl
    · intro same
      have sizes := And.intro high.toNat_lt (And.intro middle.toNat_lt low.toNat_lt)
      have sizes' := And.intro high'.toNat_lt (And.intro middle'.toNat_lt low'.toNat_lt)
      -- a number below 2 ^ 24 has only one such way to be written
      have first : high = high' := UInt8.toNat_inj.mp (by omega)
      have second : middle = middle' := UInt8.toNat_inj.mp (by omega)
      have third : low = low' := UInt8.toNat_inj.mp (by omega)
      rw [first, second, third]
  · rw [line, List.cons.injEq]
    constructor
    · intro own
      exact ⟨rfl, by rw [own]⟩
    · rintro ⟨-, written⟩
      have read := congrArg Base64.decode? written
      rw [Base64.decode?_encode, Base64.decode?_encode] at read
      exact (Option.some.inj read).symm

example : checksum ("123456789".toUTF8.toList ++ [0x21, 0xCF, 0x02]) = 0 := by decide +kernel

end KeyDirectory.Codec.Crc24
