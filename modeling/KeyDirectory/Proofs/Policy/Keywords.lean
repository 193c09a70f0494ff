import KeyDirectory.Proofs.Policy.Lines
import KeyDirectory.Proofs.Unicode.Casing

/-!
# Spellings of keywords

A keyword is recognized by its lower-case form, which is that of all of Unicode. Nevertheless it can
be spelled in ASCII only, with letters of either case (`Keyword.ofText?_eq_some_iff_eqUpToCase`). A
lower-case form in ASCII comes from ASCII unless it holds a `k`, and no keyword does.

So a character past ASCII, whatever its lower-case form, makes an unknown keyword of any text
(`Keyword.recognized_in_ascii`).
-/

namespace KeyDirectory.Policy

open KeyDirectory.Text KeyDirectory.Unicode

variable {k : Keyword} {text line : List Char}

/-! ## Keywords -/

/-- Keywords are ASCII. -/
theorem Keyword.isAscii_name (k : Keyword) : isAscii k.name.toList = true := by
  cases k <;> decide

/-- The Kelvin sign could stand for no letter of a keyword. -/
theorem Keyword.k_not_mem_name (k : Keyword) : 'k' ∉ k.name.toList := by
  cases k <;> decide

/-- What spells a keyword is ASCII. -/
theorem Keyword.isAscii_of_ofText? (found : Keyword.ofText? text = some k) :
    isAscii text = true := by
  rw [Keyword.ofText?_eq_some_iff] at found
  apply isAscii_of_lower
  · rw [found]
    exact k.isAscii_name
  · rw [found]
    exact k.k_not_mem_name

/-- A keyword is recognized in either case of its letters, and in no other spelling. -/
theorem Keyword.ofText?_eq_some_iff_eqUpToCase {s : String} :
    Keyword.ofText? s.toList = some k ↔ EqUpToCase s k.name := by
  unfold EqUpToCase
  constructor
  · intro found
    have ascii := Keyword.isAscii_of_ofText? found
    rw [Keyword.ofText?_eq_some_iff] at found
    rw [← lower_eq_map ascii, found, ← lower_eq_map k.isAscii_name, k.lower_name]
  · intro same
    rw [Keyword.ofText?_eq_some_iff, lower_congr same, k.lower_name]

/-- A text with a character past ASCII spells no keyword. -/
theorem Keyword.ofText?_eq_none (past : ∃ c ∈ text, 128 ≤ c.toNat) :
    Keyword.ofText? text = none := by
  obtain ⟨c, mem, high⟩ := past
  cases found : Keyword.ofText? text with
  | none => rfl
  | some k =>
    have low := isAscii_iff.mp (Keyword.isAscii_of_ofText? found) c mem
    exact absurd low (Nat.not_lt_of_le high)

/-! ## Lines -/

/-- A line whose keyword holds a character past ASCII is a comment, or its keyword is unknown. -/
theorem unknownKeyword_of_past_ascii (past : ∃ c ∈ keywordText line, 128 ≤ c.toNat) :
    Silent line ∨ Faulty line (.unknownKeyword (String.ofList (keywordText line))) := by
  by_cases silent : Silent line
  · exact .inl silent
  · right
    refine .unknownKeyword silent ?_
    intro k carries
    have found := ofText?_keywordText.mpr carries
    rw [Keyword.ofText?_eq_none past] at found
    contradiction

/-- Which texts are taken for which keyword: those that spell it in ASCII, with letters of either case.
A text that holds a character past ASCII is taken for none, and a line with such a keyword says nothing
or is reported. -/
theorem Keyword.recognized_in_ascii (s : String) :
    (∀ k, Keyword.ofText? s.toList = some k ↔ EqUpToCase s k.name) ∧
    ((Keyword.ofText? s.toList).isSome ↔ ∃ k ∈ Keyword.all, EqUpToCase s k.name) ∧
    ((∃ c ∈ s.toList, 128 ≤ c.toNat) → Keyword.ofText? s.toList = none) ∧
    ∀ line, (∃ c ∈ keywordText line, 128 ≤ c.toNat) →
      Line.read line = .void ∨
        Line.read line = .defective (String.ofList (trim line))
          (.unknownKeyword (String.ofList (keywordText line))) := by
  refine ⟨fun k => Keyword.ofText?_eq_some_iff_eqUpToCase, ?_, Keyword.ofText?_eq_none, ?_⟩
  · rw [Option.isSome_iff_exists]
    constructor
    · rintro ⟨k, found⟩
      refine ⟨k, ?_, Keyword.ofText?_eq_some_iff_eqUpToCase.mp found⟩
      cases k <;> decide
    · rintro ⟨k, -, same⟩
      exact ⟨k, Keyword.ofText?_eq_some_iff_eqUpToCase.mpr same⟩
  · intro line past
    rcases unknownKeyword_of_past_ascii past with silent | faulty
    · exact .inl (Line.read_eq_void_iff.mpr silent)
    · exact .inr (Line.read_eq_defective_iff.mpr ⟨faulty, rfl⟩)

/-- A capital `I` with a dot has an `i` in its lower-case form, and still makes no keyword. -/
theorem Keyword.recognized_in_ascii_dotted :
    (∃ c ∈ "MAİLBOX-ONLY".toList, 128 ≤ c.toNat) ∧
      Keyword.ofText? "MAİLBOX-ONLY".toList = none ∧
      Keyword.ofText? "MAILBOX-Only".toList = some .mailboxOnly := by
  have past : ∃ c ∈ "MAİLBOX-ONLY".toList, 128 ≤ c.toNat := ⟨'İ', by decide, by decide⟩
  obtain ⟨-, -, unknown, -⟩ := Keyword.recognized_in_ascii "MAİLBOX-ONLY"
  obtain ⟨known, -⟩ := Keyword.recognized_in_ascii "MAILBOX-Only"
  exact ⟨past, unknown past, (known _).mpr (by unfold EqUpToCase; decide)⟩

end KeyDirectory.Policy
