import KeyDirectory.Codec.ZBase32
import KeyDirectory.Proofs.Codec.Bits

/-!
# Texts in z-base-32

Nothing but the 32 characters of the alphabet is ever written (`mem_encode`). What is written says
exactly which bytes were read: the numbers of its characters, five bits each, are the bits of the
bytes, up to fewer than five zeros at the end (`encode_bits_exact`).

The encoder never clears the bits of its buffer that it has written. `bits_encodeFrom` carries the
induction over the bytes: what is still to be written depends on the low bits alone.
-/

namespace KeyDirectory.Codec.ZBase32

/-! ## Characters -/

/-- Every number has a symbol of the alphabet. -/
theorem symbol_mem (n : Nat) : symbol n ∈ alphabet := by
  have bound : n % 32 < alphabet.length := Nat.mod_lt n (by decide)
  rw [symbol, List.getD_eq_getElem?_getD, List.getElem?_eq_getElem bound, Option.getD_some]
  exact List.getElem_mem bound

/-- Full digits are written in symbols. -/
theorem mem_writeFull {buffer : BitVec 32} {width : Nat} {c : Char}
    (mem : c ∈ writeFull buffer width) : c ∈ alphabet := by
  fun_induction writeFull buffer width with
  | case1 width ih =>
    rcases List.mem_cons.mp mem with rfl | later
    · exact symbol_mem _
    · exact ih later
  | case2 => contradiction

/-- What is written from any state of the buffer are symbols. -/
theorem mem_encodeFrom {buffer : BitVec 32} {width : Nat} {bytes : List UInt8} {c : Char}
    (mem : c ∈ encodeFrom buffer width bytes) : c ∈ alphabet := by
  induction bytes generalizing buffer width with
  | nil =>
    rw [encodeFrom] at mem
    split at mem
    · contradiction
    · rw [List.mem_singleton.mp mem]
      exact symbol_mem _
  | cons b rest ih =>
    rcases List.mem_append.mp mem with first | later
    · exact mem_writeFull first
    · exact ih later

/-- The coding of bytes is made of symbols. -/
theorem mem_encode {bytes : List UInt8} {c : Char} (mem : c ∈ (encode bytes).toList) :
    c ∈ alphabet := by
  rw [encode, String.toList_ofList] at mem
  exact mem_encodeFrom mem

/-! ## Bits -/

/-- The number that a character stands for: its place in the alphabet. -/
def digit (c : Char) : Nat :=
  alphabet.idxOf c

/-- The bits of a text, five for each character. -/
def bits (text : List Char) : List Bool :=
  text.flatMap fun c => Bits.ofNat 5 (digit c)

@[simp] theorem bits_nil : bits [] = [] := rfl

@[simp] theorem bits_cons (c : Char) (text : List Char) :
    bits (c :: text) = Bits.ofNat 5 (digit c) ++ bits text :=
  List.flatMap_cons

@[simp] theorem length_bits (text : List Char) : (bits text).length = 5 * text.length := by
  induction text with
  | nil => rfl
  | cons c text ih =>
    simp [ih]
    omega

/-- The digit of a symbol is the number that it was chosen for. -/
theorem digit_symbol (n : Nat) : digit (symbol n) = n % 32 := by
  have each : ∀ k < 32, digit (symbol k) = k := by decide
  have same : symbol n = symbol (n % 32) := by simp [symbol]
  rw [same, each (n % 32) (Nat.mod_lt n (by decide))]

/-- A symbol holds the low five bits of a number. -/
@[simp] theorem ofNat_digit_symbol (n : Nat) :
    Bits.ofNat 5 (digit (symbol n)) = Bits.ofNat 5 n := by
  rw [digit_symbol]
  exact Bits.ofNat_mod 5 n

@[simp] theorem bits_append (text text' : List Char) :
    bits (text ++ text') = bits text ++ bits text' :=
  List.flatMap_append

/-- What is written, and what is kept back, are the bits that there were. -/
theorem bits_writeFull (buffer : BitVec 32) (width : Nat) :
    bits (writeFull buffer width) ++ Bits.ofNat (width % 5) buffer.toNat =
      Bits.ofNat width buffer.toNat := by
  fun_induction writeFull buffer width with
  | case1 width ih =>
    show bits (symbol (buffer >>> width).toNat :: writeFull buffer width) ++
      Bits.ofNat ((width + 5) % 5) buffer.toNat = Bits.ofNat (width + 5) buffer.toNat
    rw [bits_cons, ofNat_digit_symbol, BitVec.toNat_ushiftRight, Nat.shiftRight_eq_div_pow,
      Nat.add_mod_right, List.append_assoc, ih, Nat.add_comm, Bits.ofNat_add]
  | case2 width tooFew =>
    have few : width < 5 := by
      apply Nat.lt_of_not_le
      intro many
      exact tooFew (width - 5) (Nat.sub_add_cancel many).symm
    rw [Nat.mod_eq_of_lt few, bits_nil, List.nil_append]

/-- A byte is shifted into the buffer from below. -/
theorem toNat_filled (buffer : BitVec 32) (b : UInt8) :
    (buffer <<< 8 ||| BitVec.ofNat 32 b.toNat).toNat =
      (buffer.toNat * 256 + b.toNat) % 2 ^ 32 := by
  have bound : b.toNat < 2 ^ 8 := b.toNat_lt
  rw [BitVec.toNat_or, BitVec.toNat_shiftLeft, BitVec.toNat_ofNat, ← Nat.or_mod_two_pow,
    ← Nat.shiftLeft_add_eq_or_of_lt bound, Nat.shiftLeft_eq]

/-- What is written after the low `width` bits of a buffer: those bits, the bits of the bytes, and the
padding. The bits above them are without effect, whether they are still in the buffer or not. -/
theorem bits_encodeFrom {width : Nat} (few : width < 5) (buffer : BitVec 32) (bytes : List UInt8) :
    ∃ padding < 5, bits (encodeFrom buffer width bytes) =
      Bits.ofNat width buffer.toNat ++ (Bits.ofBytes bytes ++ List.replicate padding false) := by
  induction bytes generalizing buffer width with
  | nil =>
    by_cases none : width = 0
    · refine ⟨0, by omega, ?_⟩
      simp [encodeFrom, none, Bits.ofNat]
    · have full : width + (5 - width) = 5 := by omega
      have padded : Bits.ofNat 5 (buffer <<< (5 - width)).toNat =
          Bits.ofNat width buffer.toNat ++ List.replicate (5 - width) false := by
        rw [BitVec.toNat_shiftLeft, Nat.shiftLeft_eq, Bits.ofNat_mod_of_le (by decide),
          ← Bits.ofNat_mul_two_pow, full]
      refine ⟨5 - width, by omega, ?_⟩
      rw [encodeFrom, if_neg none, bits_cons, ofNat_digit_symbol, padded]
      simp
  | cons b rest ih =>
    let filled := buffer <<< 8 ||| BitVec.ofNat 32 b.toNat
    have fewer : (width + 8) % 5 < 5 := Nat.mod_lt _ (by decide)
    have pushed : Bits.ofNat (width + 8) filled.toNat =
        Bits.ofNat width buffer.toNat ++ Bits.ofNat 8 b.toNat := by
      rw [toNat_filled, Bits.ofNat_mod_of_le (by omega), Bits.ofNat_mul_add_byte]
    -- the bits kept back after this byte are those with which the induction goes on
    obtain ⟨padding, less, later⟩ := ih fewer filled
    refine ⟨padding, less, ?_⟩
    calc bits (writeFull filled (width + 8) ++ encodeFrom filled ((width + 8) % 5) rest)
      _ = bits (writeFull filled (width + 8)) ++ (Bits.ofNat ((width + 8) % 5) filled.toNat ++
            (Bits.ofBytes rest ++ List.replicate padding false)) := by rw [bits_append, later]
      _ = Bits.ofNat (width + 8) filled.toNat ++
            (Bits.ofBytes rest ++ List.replicate padding false) := by
        rw [← List.append_assoc, bits_writeFull]
      _ = Bits.ofNat width buffer.toNat ++
            (Bits.ofBytes (b :: rest) ++ List.replicate padding false) := by
        rw [pushed, Bits.ofBytes_cons, List.append_assoc, List.append_assoc]

/-- The symbols hold the bits of the bytes in order, and fewer than five zeros after them. -/
theorem bits_encode (bytes : List UInt8) :
    ∃ padding < 5, bits (encode bytes).toList =
      Bits.ofBytes bytes ++ List.replicate padding false := by
  rw [encode, String.toList_ofList]
  exact bits_encodeFrom (by decide) 0 bytes

/-- Bytes whose bits fill the last character need no padding. -/
theorem bits_encode_of_dvd {bytes : List UInt8} (whole : 5 ∣ bytes.length) :
    bits (encode bytes).toList = Bits.ofBytes bytes := by
  obtain ⟨padding, few, written⟩ := bits_encode bytes
  have length := congrArg List.length written
  simp only [length_bits, List.length_append, Bits.length_ofBytes, List.length_replicate] at length
  have none : padding = 0 := by omega
  rw [written, none, List.replicate_zero, List.append_nil]

/-- Fewer than five bits cannot make up for a byte. -/
theorem eq_of_bits_eq {bytes bytes' : List UInt8} {padding padding' : Nat} (few : padding < 5)
    (few' : padding' < 5)
    (same : Bits.ofBytes bytes ++ List.replicate padding false =
      Bits.ofBytes bytes' ++ List.replicate padding' false) : bytes = bytes' := by
  have length := congrArg List.length same
  simp only [List.length_append, Bits.length_ofBytes, List.length_replicate] at length
  have whole : (Bits.ofBytes bytes).length = (Bits.ofBytes bytes').length := by
    simp only [Bits.length_ofBytes]
    omega
  exact Bits.eq_of_ofBytes_eq (List.append_inj same whole).1

/-- Encoding loses no bit and adds none but the padding. The text has a character for every five bits
begun, each from the alphabet. Its characters, taken as numbers of five bits, hold the bits of the
bytes, and after them fewer than five zeros. So different bytes have different texts. -/
theorem encode_bits_exact :
    (∀ bytes : List UInt8,
      (encode bytes).toList.length = (8 * bytes.length + 4) / 5 ∧
      (∀ c ∈ (encode bytes).toList, c ∈ alphabet) ∧
      ∃ padding < 5, bits (encode bytes).toList =
        Bits.ofBytes bytes ++ List.replicate padding false) ∧
    Function.Injective encode := by
  constructor
  · intro bytes
    obtain ⟨padding, few, written⟩ := bits_encode bytes
    refine ⟨?_, fun c mem => mem_encode mem, padding, few, written⟩
    have length := congrArg List.length written
    simp only [length_bits, List.length_append, Bits.length_ofBytes, List.length_replicate] at length
    omega
  · intro bytes bytes' same
    obtain ⟨padding, few, written⟩ := bits_encode bytes
    obtain ⟨padding', few', written'⟩ := bits_encode bytes'
    rw [same] at written
    exact eq_of_bits_eq few few' (written.symm.trans written')

/-- Three bytes fill five characters but for one bit. -/
example : encode [0xF0, 0xBF, 0xC7] = "6n9hq" := by decide

end KeyDirectory.Codec.ZBase32
