import KeyDirectory.Proofs.Text.Utf8
import KeyDirectory.Proofs.Unicode.Ascii
import KeyDirectory.Url.Percent

/-!
# Percent-encoded texts

Encoding leaves the characters that stay as they are (`encode_eq_self`), and writes nothing else but
percent signs, letters and digits (`mem_encode`). Without a percent sign there is nothing to decode
but UTF-8 (`decode_eq_encode`). If the percent sign itself is encoded, decoding gives back the bytes
of the text (`decode_encode`).
-/

namespace KeyDirectory.Url.Percent

open KeyDirectory.Text KeyDirectory.Unicode

variable {keep : Char → Bool} {text : List Char}

/-- A text whose characters are all kept is not changed. -/
theorem encode_eq_self (stay : ∀ c ∈ text, keep c = true) : encode keep text = text := by
  induction text with
  | nil => rfl
  | cons c text ih =>
    have rest := ih fun d mem => stay d (List.mem_cons_of_mem c mem)
    rw [encode] at rest ⊢
    simp [stay c, rest]

theorem inPath_of_isAlphanum {c : Char} (h : c.isAlphanum = true) : inPath c = true :=
  forall_ascii (P := fun c => c.isAlphanum = true → inPath c = true) (by decide)
    (toNat_lt_of_isAlphanum h) h

theorem isAlphanum_hexDigit {n : Nat} (h : n < 16) : (hexDigit n).isAlphanum = true := by
  revert n
  decide

theorem mem_triple {b : UInt8} {c : Char} (mem : c ∈ triple b) :
    c = '%' ∨ c.isAlphanum = true := by
  have size : b.toNat < 256 := b.toNat_lt
  simp only [triple, List.mem_cons, List.not_mem_nil, or_false] at mem
  rcases mem with same | high | low
  · exact .inl same
  · exact .inr (high ▸ isAlphanum_hexDigit (by omega))
  · exact .inr (low ▸ isAlphanum_hexDigit (by omega))

/-- An escaped text holds what is kept, percent signs, and letters and digits. -/
theorem mem_encode {c : Char} (mem : c ∈ encode keep text) :
    keep c = true ∨ c = '%' ∨ c.isAlphanum = true := by
  obtain ⟨d, -, written⟩ := List.mem_flatMap.mp mem
  split at written
  · next stays =>
    rw [List.mem_singleton.mp written]
    exact .inl stays
  · obtain ⟨b, -, inTriple⟩ := List.mem_flatMap.mp written
    exact .inr (mem_triple inTriple)

theorem mem_encode_isUnreserved {c : Char} (mem : c ∈ encode isUnreserved text) :
    isUnreserved c = true ∨ c = '%' := by
  rcases mem_encode mem with stays | sign | alphanum
  · exact .inl stays
  · exact .inr sign
  · exact .inl (by simp [isUnreserved, alphanum])

theorem toNat_lt_of_isUnreserved {c : Char} (h : isUnreserved c = true) : c.toNat < 128 := by
  simp only [isUnreserved, Bool.or_eq_true, beq_iff_eq] at h
  rcases h with (((alphanum | rfl) | rfl) | rfl) | rfl
  · exact toNat_lt_of_isAlphanum alphanum
  all_goals decide

/-- What was encoded down to the unreserved characters is a query as it stands. -/
theorem inQuery_of_mem_encode {c : Char} (mem : c ∈ encode isUnreserved text) (isSpecial : Bool) :
    inQuery isSpecial c = true := by
  rcases mem_encode_isUnreserved mem with stays | rfl
  · exact forall_ascii (P := fun c => isUnreserved c = true → inQuery isSpecial c = true)
      (by cases isSpecial <;> decide) (toNat_lt_of_isUnreserved stays) stays
  · cases isSpecial <;> decide

/-! ## Escaped texts -/

/-- A text of unreserved characters and of triples, a percent sign before two hexadecimal digits. -/
inductive Escaped : List Char → Prop where
  | nil : Escaped []
  | unreserved {c : Char} {rest : List Char} (stays : isUnreserved c = true)
    (later : Escaped rest) : Escaped (c :: rest)
  | triple {high low : Char} {rest : List Char} (isHigh : (hexValue? high).isSome)
    (isLow : (hexValue? low).isSome) (later : Escaped rest) : Escaped ('%' :: high :: low :: rest)

theorem hexValue?_hexDigit {n : Nat} (h : n < 16) : hexValue? (hexDigit n) = some n := by
  revert n
  decide

theorem hexValue?_triple (b : UInt8) :
    hexValue? (hexDigit (b.toNat / 16)) = some (b.toNat / 16) ∧
      hexValue? (hexDigit (b.toNat % 16)) = some (b.toNat % 16) := by
  have size : b.toNat < 256 := b.toNat_lt
  exact ⟨hexValue?_hexDigit (by omega), hexValue?_hexDigit (by omega)⟩

theorem Escaped.triples_append {rest : List Char} (later : Escaped rest) (bytes : List UInt8) :
    Escaped (bytes.flatMap Percent.triple ++ rest) := by
  induction bytes with
  | nil => exact later
  | cons b bytes ih =>
    obtain ⟨high, low⟩ := hexValue?_triple b
    rw [List.flatMap_cons, List.append_assoc]
    exact .triple (by rw [high]; rfl) (by rw [low]; rfl) ih

/-- The escaped form is made of unreserved characters and triples. -/
theorem escaped_encode (text : List Char) : Escaped (encode isUnreserved text) := by
  induction text with
  | nil => exact .nil
  | cons c text ih =>
    rw [encode, List.flatMap_cons]
    split
    · next stays => exact .unreserved stays ih
    · exact ih.triples_append _

/-! ## Decoding -/

theorem decode_cons {c : Char} (other : c ≠ '%') (rest : List Char) :
    decode (c :: rest) = Utf8.encode [c] ++ decode rest := by
  rw [decode]
  intro a b rest isPercent
  exact absurd isPercent other

/-- Without a percent sign, a text is decoded to its own bytes. -/
theorem decode_eq_encode (plain : '%' ∉ text) : decode text = Utf8.encode text := by
  induction text with
  | nil => rfl
  | cons c text ih =>
    have other : c ≠ '%' := (List.ne_of_not_mem_cons plain).symm
    rw [decode_cons other, ih (List.not_mem_of_not_mem_cons plain)]
    simp [Utf8.encode]

theorem decode_triple_append (b : UInt8) (rest : List Char) :
    decode (triple b ++ rest) = b :: decode rest := by
  obtain ⟨high, low⟩ := hexValue?_triple b
  have whole : UInt8.ofNat (b.toNat / 16 * 16 + b.toNat % 16) = b := by
    rw [Nat.div_add_mod', UInt8.ofNat_toNat]
  rw [triple, List.cons_append, List.cons_append, List.cons_append, List.nil_append, decode, high,
    low]
  simp only [whole]

/-- Triples are decoded to the bytes that they were made of. -/
theorem decode_triples_append (bytes : List UInt8) (rest : List Char) :
    decode (bytes.flatMap triple ++ rest) = bytes ++ decode rest := by
  induction bytes with
  | nil => rfl
  | cons b bytes ih =>
    rw [List.flatMap_cons, List.append_assoc, decode_triple_append, ih, List.cons_append]

/-- A percent sign that does not stay cannot be taken for the start of a triple. -/
theorem decode_encode (signGoes : keep '%' = false) (text : List Char) :
    decode (encode keep text) = Utf8.encode text := by
  induction text with
  | nil => rfl
  | cons c text ih =>
    rw [encode, List.flatMap_cons, ← encode, Utf8.encode, List.flatMap_cons, ← Utf8.encode]
    split
    · next stays =>
      have other : c ≠ '%' := by
        rintro rfl
        rw [signGoes] at stays
        contradiction
      rw [List.singleton_append, decode_cons other, ih]
      simp [Utf8.encode]
    · rw [decode_triples_append, ih]
      simp [Utf8.encode]

/-- Where percent signs are escaped too, different texts have different escaped forms. -/
theorem encode_injective (signGoes : keep '%' = false) : Function.Injective (encode keep) := by
  intro text text' same
  have bytes := congrArg decode same
  rw [decode_encode signGoes, decode_encode signGoes] at bytes
  rw [← Utf8.decodeLossy_encode text, bytes, Utf8.decodeLossy_encode]

end KeyDirectory.Url.Percent
