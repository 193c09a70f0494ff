import KeyDirectory.Proofs.Codec.ZBase32
import Mathlib.Data.List.Basic

/-!
# Canonical texts in z-base-32

Which texts are z-base-32 forms of bytes. Their characters are of the alphabet, their length is one
that whole bytes can have, and the bits that are left over when the others are put together to bytes
are zeros (`Canonical`). These texts are written, and no others; and each of them is written for the
bytes that it holds, and for no others (`encode_eq_iff`).

Both directions count the bits that are left over. There are fewer than five of them exactly at the
lengths that are allowed, and this number is all that the length and the bytes have to agree on.
-/

namespace KeyDirectory.Codec.ZBase32

/-! ## Canonical texts -/

/-- The number of bits of a text that are left over after its whole bytes. -/
def spare (text : List Char) : Nat :=
  5 * text.length % 8

/-- A text that is the z-base-32 form of some bytes, said without the encoder. -/
structure Canonical (text : List Char) : Prop where
  /-- Every character stands for a number. -/
  known : ∀ c ∈ text, c ∈ alphabet
  /-- Any other length has a character that no byte needs. -/
  length : text.length % 8 ∈ [0, 2, 4, 5, 7]
  /-- The bits left over are zeros. -/
  padding : List.replicate (spare text) false <:+ bits text

/-- Whether a text is canonical can be told from the text. -/
theorem canonical_iff {text : List Char} :
    Canonical text ↔ text.all (· ∈ alphabet) = true ∧ text.length % 8 ∈ [0, 2, 4, 5, 7] ∧
      List.replicate (spare text) false <:+ bits text := by
  constructor
  · intro canonical
    exact ⟨by simpa using canonical.known, canonical.length, canonical.padding⟩
  · rintro ⟨known, length, padding⟩
    exact ⟨by simpa using known, length, padding⟩

instance : DecidablePred Canonical :=
  fun _ => decidable_of_iff _ canonical_iff.symm

/-- The whole bytes that the bits of a text fill. -/
def decode (text : List Char) : List UInt8 :=
  Bits.toBytes (5 * text.length / 8) (bits text)

/-- Fewer than five bits are left over at the lengths of canonical texts, and at no others. -/
theorem spare_lt_iff {text : List Char} :
    spare text < 5 ↔ text.length % 8 ∈ [0, 2, 4, 5, 7] := by
  simp only [spare, List.mem_cons, List.not_mem_nil, or_false]
  omega

/-- The bits of a text are those of its whole bytes and the ones left over. -/
theorem bits_eq_append (text : List Char) :
    ∃ left, left.length = spare text ∧ bits text = Bits.ofBytes (decode text) ++ left := by
  have enough : 8 * (5 * text.length / 8) ≤ (bits text).length := by
    rw [length_bits]
    omega
  refine ⟨(bits text).drop (8 * (5 * text.length / 8)), ?_, ?_⟩
  · rw [List.length_drop, length_bits, spare]
    omega
  · rw [decode, Bits.ofBytes_toBytes enough, List.take_append_drop]

/-- The bits of a canonical text are those of its bytes, and spare zeros. -/
theorem Canonical.bits_eq {text : List Char} (canonical : Canonical text) :
    bits text = Bits.ofBytes (decode text) ++ List.replicate (spare text) false := by
  obtain ⟨left, length, whole⟩ := bits_eq_append text
  obtain ⟨front, padded⟩ := canonical.padding
  -- what is left over and the padding are ends of one list, and equally long
  have zeros : List.replicate (spare text) false = left :=
    (List.append_inj' (padded.trans whole) (by simp [length])).2
  rw [zeros, whole]

/-! ## Texts and their bits -/

/-- The digit of a symbol has five bits. -/
theorem digit_lt {c : Char} (known : c ∈ alphabet) : digit c < 2 ^ 5 :=
  List.idxOf_lt_length_of_mem known

/-- A text over the alphabet is known by its bits. -/
theorem eq_of_bits_eq_bits {text text' : List Char} (known : ∀ c ∈ text, c ∈ alphabet)
    (known' : ∀ c ∈ text', c ∈ alphabet) (same : bits text = bits text') : text = text' := by
  refine Bits.eq_of_flatMap_eq (by decide) (fun c => Bits.length_ofNat 5 (digit c)) ?_ same
  intro c mem c' mem' first
  have digits := Bits.eq_of_ofNat_eq (digit_lt (known c mem)) (digit_lt (known' c' mem')) first
  exact (List.idxOf_inj (known c mem)).mp digits

/-! ## What is written -/

/-- The coding of bytes is canonical, and is decoded to them. -/
theorem canonical_encode (bytes : List UInt8) :
    Canonical (encode bytes).toList ∧ decode (encode bytes).toList = bytes := by
  obtain ⟨padding, few, written⟩ := bits_encode bytes
  have length := congrArg List.length written
  simp only [length_bits, List.length_append, Bits.length_ofBytes, List.length_replicate] at length
  have spare_eq : spare (encode bytes).toList = padding := by
    unfold spare
    omega
  have count : 5 * (encode bytes).toList.length / 8 = bytes.length := by omega
  refine ⟨⟨fun c mem => mem_encode mem, spare_lt_iff.mp (spare_eq ▸ few), ?_⟩, ?_⟩
  · rw [spare_eq, written]
    exact List.suffix_append _ _
  · rw [decode, count, written, Bits.toBytes_ofBytes_append]

/-- A canonical text is the coding of the bytes that it is decoded to. -/
theorem encode_decode {s : String} (canonical : Canonical s.toList) :
    encode (decode s.toList) = s := by
  obtain ⟨padding, few, written⟩ := bits_encode (decode s.toList)
  have held := canonical.bits_eq
  have spare_few := spare_lt_iff.mpr canonical.length
  have lengths := And.intro (congrArg List.length written) (congrArg List.length held)
  simp only [length_bits, List.length_append, Bits.length_ofBytes, List.length_replicate] at lengths
  have same : padding = spare s.toList := by omega
  rw [same, ← held] at written
  exact String.toList_inj.mp
    (eq_of_bits_eq_bits (fun c mem => mem_encode mem) canonical.known written)

/-- A text is the coding of at most one list of bytes. -/
theorem encode_eq_iff {s : String} {bytes : List UInt8} :
    encode bytes = s ↔ Canonical s.toList ∧ bytes = decode s.toList := by
  constructor
  · rintro rfl
    obtain ⟨canonical, read⟩ := canonical_encode bytes
    exact ⟨canonical, read.symm⟩
  · rintro ⟨canonical, rfl⟩
    exact encode_decode canonical

/-- The z-base-32 forms of bytes are the canonical texts. A text is written for the bytes that its bits
fill, and for no others, so that the bytes of every canonical text have it as their form. -/
theorem encode_onto_canonical (s : String) :
    ((∃ bytes, encode bytes = s) ↔ Canonical s.toList) ∧
    (∀ bytes, encode bytes = s → bytes = decode s.toList) ∧
    (Canonical s.toList → encode (decode s.toList) = s) := by
  refine ⟨?_, fun bytes written => (encode_eq_iff.mp written).2, encode_decode⟩
  constructor
  · rintro ⟨bytes, written⟩
    exact (encode_eq_iff.mp written).1
  · intro canonical
    exact ⟨decode s.toList, encode_decode canonical⟩

/-- One character has too few bits for a byte, and the third of three is not needed. Of two characters
the last two bits are left over: they are zeros in `9h`, not in `96`. -/
example : ¬ Canonical ['y'] ∧ ¬ Canonical ['y', 'y', 'y'] ∧ Canonical ['9', 'h'] ∧
    ¬ Canonical ['9', '6'] := by decide

end KeyDirectory.Codec.ZBase32
