import Mathlib.Algebra.Group.Nat.Defs

/-!
# Numbers and bytes as bits

The lowest bits of a number and all bits of a byte sequence, most significant first. Cutting the bits
of a number in two is dividing the number by a power of two (`ofNat_add`); that is how codes that
write bytes a few bits at a time can be followed. Bits are put together to bytes again by `toBytes`,
which undoes `ofBytes` (`toBytes_ofBytes_append`) and is undone by it as far as there are whole bytes
(`ofBytes_toBytes`).
-/

namespace KeyDirectory.Codec.Bits

/-- The lowest `width` bits of a number, most significant first. -/
def ofNat : Nat → Nat → List Bool
  | 0, _ => []
  | width + 1, n => n.testBit width :: ofNat width n

def ofBytes (bytes : List UInt8) : List Bool :=
  bytes.flatMap fun b => ofNat 8 b.toNat

/-! ## Numbers -/

@[simp] theorem length_ofNat (width n : Nat) : (ofNat width n).length = width := by
  induction width with
  | zero => rfl
  | succ width ih => simp [ofNat, ih]

/-- The upper bits of a number are the bits of its quotient. -/
theorem ofNat_add (high low n : Nat) :
    ofNat (high + low) n = ofNat high (n / 2 ^ low) ++ ofNat low n := by
  induction high with
  | zero => simp [ofNat]
  | succ high ih =>
    rw [Nat.succ_add, ofNat, ofNat, ih, Nat.testBit_div_two_pow, List.cons_append]

/-- The bits of a number are those that it is tested for. -/
theorem ofNat_congr {width n n' : Nat} (h : ∀ i < width, n.testBit i = n'.testBit i) :
    ofNat width n = ofNat width n' := by
  induction width with
  | zero => rfl
  | succ width ih =>
    have rest := ih fun i less => h i (Nat.lt_succ_of_lt less)
    rw [ofNat, ofNat, h width (Nat.lt_succ_self width), rest]

/-- Higher bits do not count. -/
theorem ofNat_mod_of_le {width bound : Nat} (le : width ≤ bound) (n : Nat) :
    ofNat width (n % 2 ^ bound) = ofNat width n := by
  apply ofNat_congr
  intro i less
  simp [Nat.testBit_mod_two_pow, Nat.lt_of_lt_of_le less le]

@[simp] theorem ofNat_mod (width n : Nat) : ofNat width (n % 2 ^ width) = ofNat width n :=
  ofNat_mod_of_le (Nat.le_refl width) n

@[simp] theorem ofNat_zero (width : Nat) : ofNat width 0 = List.replicate width false := by
  induction width with
  | zero => rfl
  | succ width ih => simp [ofNat, ih, List.replicate_succ]

/-- Shifting a number to the left pads its bits with zeros. -/
theorem ofNat_mul_two_pow (width shift n : Nat) :
    ofNat (width + shift) (n * 2 ^ shift) = ofNat width n ++ List.replicate shift false := by
  have low : ofNat shift (n * 2 ^ shift) = List.replicate shift false := by
    rw [← ofNat_mod, Nat.mul_mod_left, ofNat_zero]
  rw [ofNat_add, Nat.mul_div_cancel n (Nat.two_pow_pos shift), low]

/-- A number that fits is known by its bits. -/
theorem eq_of_ofNat_eq {width n n' : Nat} (fits : n < 2 ^ width) (fits' : n' < 2 ^ width)
    (same : ofNat width n = ofNat width n') : n = n' := by
  induction width generalizing n n' with
  | zero => omega
  | succ width ih =>
    -- the lowest bit is the remainder, and the others are those of the half
    rw [ofNat_add width 1, ofNat_add width 1] at same
    obtain ⟨upper, lowest⟩ := List.append_inj same (by simp)
    rw [Nat.pow_succ] at fits fits'
    have half : n / 2 = n' / 2 := by
      apply ih
      · omega
      · omega
      · simpa using upper
    have odd : n % 2 = 1 ↔ n' % 2 = 1 := by
      simpa [ofNat, Nat.testBit_zero] using lowest
    omega

/-! ## Bytes -/

@[simp] theorem ofBytes_nil : ofBytes [] = [] := rfl

@[simp] theorem ofBytes_cons (b : UInt8) (bytes : List UInt8) :
    ofBytes (b :: bytes) = ofNat 8 b.toNat ++ ofBytes bytes :=
  List.flatMap_cons

@[simp] theorem length_ofBytes (bytes : List UInt8) :
    (ofBytes bytes).length = 8 * bytes.length := by
  induction bytes with
  | nil => rfl
  | cons b bytes ih =>
    simp [ih]
    omega

/-- A byte after a number: its bits come after those of the number. -/
theorem ofNat_mul_add_byte (width n : Nat) (b : UInt8) :
    ofNat (width + 8) (n * 256 + b.toNat) = ofNat width n ++ ofNat 8 b.toNat := by
  have bound := b.toNat_lt
  have upper : (n * 256 + b.toNat) / 2 ^ 8 = n := by omega
  have lower : (n * 256 + b.toNat) % 2 ^ 8 = b.toNat := by omega
  rw [ofNat_add, upper, ← ofNat_mod 8 (n * 256 + b.toNat), lower]

/-- A list is known by the bits of its elements put after one another, if each element is known by its
bits and has as many as the others. -/
theorem eq_of_flatMap_eq {α : Type} {block : α → List Bool} {width : Nat} (pos : 0 < width)
    (wide : ∀ a, (block a).length = width) {list list' : List α}
    (known : ∀ a ∈ list, ∀ a' ∈ list', block a = block a' → a = a')
    (same : list.flatMap block = list'.flatMap block) : list = list' := by
  have filled (a : α) : block a ≠ [] := List.ne_nil_of_length_pos (wide a ▸ pos)
  induction list generalizing list' with
  | nil =>
    cases list' with
    | nil => rfl
    | cons a' list' => exact absurd (List.append_eq_nil_iff.mp same.symm).1 (filled a')
  | cons a list ih =>
    cases list' with
    | nil => exact absurd (List.append_eq_nil_iff.mp same).1 (filled a)
    | cons a' list' =>
      rw [List.flatMap_cons, List.flatMap_cons] at same
      rcases List.append_inj same (by rw [wide, wide]) with ⟨first, rest⟩
      have first_eq := known a List.mem_cons_self a' List.mem_cons_self first
      have rest_eq := ih (fun b mem b' mem' =>
        known b (List.mem_cons_of_mem a mem) b' (List.mem_cons_of_mem a' mem')) rest
      rw [first_eq, rest_eq]

/-- A byte sequence is known by its bits. -/
theorem eq_of_ofBytes_eq {bytes bytes' : List UInt8} (same : ofBytes bytes = ofBytes bytes') :
    bytes = bytes' := by
  refine eq_of_flatMap_eq (by decide) (fun b : UInt8 => length_ofNat 8 b.toNat) ?_ same
  intro b _ b' _ first
  exact UInt8.toNat_inj.mp (eq_of_ofNat_eq b.toNat_lt b'.toNat_lt first)

/-! ## Bits as bytes -/

/-- The number whose bits are those of `n` and the given ones after them. -/
def extend (n : Nat) : List Bool → Nat
  | [] => n
  | b :: bits => extend (2 * n + b.toNat) bits

/-- The bytes that the first `8 * count` bits fill. -/
def toBytes : Nat → List Bool → List UInt8
  | 0, _ => []
  | count + 1, bits => UInt8.ofNat (extend 0 (bits.take 8)) :: toBytes count (bits.drop 8)

/-- Doubling a number appends a bit. -/
theorem ofNat_two_mul_add (width n : Nat) (b : Bool) :
    ofNat (width + 1) (2 * n + b.toNat) = ofNat width n ++ [b] := by
  have half : (2 * n + b.toNat) / 2 ^ 1 = n := by
    cases b with
    | false => simp
    | true =>
      simp only [Bool.toNat_true, Nat.pow_one]
      omega
  have lowest : ofNat 1 (2 * n + b.toNat) = [b] := by
    cases b <;> simp [ofNat, Nat.testBit_zero]
  rw [ofNat_add, half, lowest]

/-- A number that is extended by bits has them at its end. -/
theorem ofNat_extend (width n : Nat) (bits : List Bool) :
    ofNat (width + bits.length) (extend n bits) = ofNat width n ++ bits := by
  induction bits generalizing width n with
  | nil => simp [extend]
  | cons b bits ih =>
    have later := ih (width + 1) (2 * n + b.toNat)
    rw [ofNat_two_mul_add] at later
    rw [extend, List.length_cons, Nat.add_comm bits.length 1, ← Nat.add_assoc, later,
      List.append_assoc, List.singleton_append]

/-- Eight bits are the bits of the byte that they fill. -/
theorem ofNat_byte {bits : List Bool} (eight : bits.length = 8) :
    ofNat 8 (UInt8.ofNat (extend 0 bits)).toNat = bits := by
  have read := ofNat_extend 0 0 bits
  rw [Nat.zero_add, eight] at read
  rw [UInt8.toNat_ofNat', ofNat_mod, read]
  rfl

/-- The bits of bytes that are cut out of bits are these bits. -/
theorem ofBytes_toBytes {count : Nat} {bits : List Bool} (enough : 8 * count ≤ bits.length) :
    ofBytes (toBytes count bits) = bits.take (8 * count) := by
  induction count generalizing bits with
  | zero => rfl
  | succ count ih =>
    have eight : (bits.take 8).length = 8 := by
      rw [List.length_take]
      omega
    have enough_left : 8 * count ≤ (bits.drop 8).length := by
      rw [List.length_drop]
      omega
    have cut : 8 * (count + 1) = 8 + 8 * count := by omega
    rw [toBytes, ofBytes_cons, ofNat_byte eight, ih enough_left, cut, List.take_add]

/-- The bits of bytes fill the same bytes, whatever follows them. -/
theorem toBytes_ofBytes_append (bytes : List UInt8) (rest : List Bool) :
    toBytes bytes.length (ofBytes bytes ++ rest) = bytes := by
  apply eq_of_ofBytes_eq
  rw [ofBytes_toBytes (by simp), ← length_ofBytes, List.take_left]

end KeyDirectory.Codec.Bits
