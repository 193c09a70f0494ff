import KeyDirectory.Proofs.Unicode.Ascii

/-!
# The case of ASCII letters

Texts that differ at most in the case of ASCII letters have one lower-case form (`lower_congr`). That
is more than a statement on single characters: whether a capital sigma is final depends on the
characters around it, but not on the case of the ASCII letters among them.

The other way round, a lower-case form in ASCII comes from a text in ASCII, unless it holds a `k`
(`isAscii_of_lower`): the Kelvin sign is the only character past ASCII whose whole form is in ASCII.
-/

namespace KeyDirectory.Unicode

/-! ## Characters -/

/-- Past ASCII there is nothing to change. -/
theorem toLower_of_past_ascii {c : Char} (past : ¬ c.toNat < 128) : c.toLower = c := by
  have noCapital : ¬ (c.val ≥ 'A'.val ∧ c.val ≤ 'Z'.val) := by
    rintro ⟨-, atMost⟩
    exact past (toNat_lt_of_le (d := 'Z') atMost (by decide))
  exact dif_neg noCapital

/-- What takes no notice of the case of ASCII characters takes none of the case of ASCII letters. -/
theorem apply_toLower {α : Type} {f : Char → α} (ascii : ∀ c, c.toNat < 128 → f c.toLower = f c)
    (c : Char) : f c.toLower = f c := by
  by_cases h : c.toNat < 128
  · exact ascii c h
  · rw [toLower_of_past_ascii h]

/-- Lower-casing does not tell an ASCII letter from its capital. -/
theorem lowerChar_toLower (c : Char) : lowerChar c.toLower = lowerChar c := by
  apply apply_toLower
  intro c ascii
  rw [lowerChar, lowerChar, if_pos ascii, if_pos (toNat_toLower_lt ascii), toLower_toLower ascii]

/-- Whether a character has case does not depend on its own case. -/
theorem isCased_toLower (c : Char) : isCased c.toLower = isCased c := by
  apply apply_toLower
  intro c ascii
  rw [isCased, isCased, if_pos ascii, if_pos (toNat_toLower_lt ascii)]
  exact forall_ascii (P := fun c => c.toLower.isAlpha = c.isAlpha) (by decide) ascii

/-- Whether a character is passed over does not depend on its case. -/
theorem isCaseIgnorable_toLower (c : Char) : isCaseIgnorable c.toLower = isCaseIgnorable c := by
  apply apply_toLower
  intro c ascii
  rw [isCaseIgnorable, isCaseIgnorable, if_pos ascii, if_pos (toNat_toLower_lt ascii)]
  exact forall_ascii
    (P := fun c => [0x27, 0x2E, 0x3A, 0x5E, 0x60].contains c.toLower.toNat =
      [0x27, 0x2E, 0x3A, 0x5E, 0x60].contains c.toNat) (by decide) ascii

/-- A capital sigma is neither changed nor made of another letter. -/
theorem toLower_eq_sigma (c : Char) : (c.toLower = 'Σ') = (c = 'Σ') := by
  apply apply_toLower (f := (· = 'Σ'))
  intro c ascii
  exact forall_ascii (P := fun c => (c.toLower = 'Σ') = (c = 'Σ')) (by decide) ascii

/-! ## Texts -/

/-- The search for letters around a sigma is blind to case. -/
theorem meetsCased_map_toLower (text : List Char) :
    meetsCased (text.map Char.toLower) = meetsCased text := by
  induction text with
  | nil => rfl
  | cons c text ih =>
    unfold meetsCased at ih ⊢
    rw [List.map_cons, List.dropWhile_cons, List.dropWhile_cons, isCaseIgnorable_toLower]
    cases passed : isCaseIgnorable c with
    | true => exact ih
    | false => exact isCased_toLower c

/-- Lower-casing a text does not tell its ASCII letters from their capitals. -/
theorem lowerFrom_map_toLower (before text : List Char) :
    lowerFrom (before.map Char.toLower) (text.map Char.toLower) = lowerFrom before text := by
  induction text generalizing before with
  | nil => rfl
  | cons c text ih =>
    -- a sigma asks for the characters on both sides, so the text before it changes its case as well
    have rest := ih (c :: before)
    rw [List.map_cons] at rest
    rw [List.map_cons, lowerFrom, lowerFrom, rest, lowerChar_toLower, lowerSigma, lowerSigma,
      meetsCased_map_toLower, meetsCased_map_toLower]
    simp only [toLower_eq_sigma]

/-- A text whose ASCII letters are made small has the same lower-cased form. -/
theorem lower_map_toLower (text : List Char) : lower (text.map Char.toLower) = lower text :=
  lowerFrom_map_toLower [] text

/-- Texts that differ in the case of ASCII letters have one lower-cased form. -/
theorem lower_congr {text text' : List Char}
    (same : text.map Char.toLower = text'.map Char.toLower) : lower text = lower text' := by
  rw [← lower_map_toLower text, same, lower_map_toLower]

/-! ## Forms in ASCII -/

/-- The run of the table that leads from the Kelvin sign to the letter `k`. -/
def kelvinRun : CaseRun := ⟨0x212A, 0x212A, 1, 0x6B⟩

/-- All other runs of the table lead to characters past ASCII. -/
theorem target_past_ascii {run : CaseRun} (mem : run ∈ lowerRuns) (other : run ≠ kelvinRun) :
    128 ≤ run.target ∧ (run.target + (run.last - run.first) < 0xD800 ∨
      0xDFFF < run.target ∧ run.target + (run.last - run.first) < 0x110000) := by
  have all : lowerRuns.all (fun run => decide (run ≠ kelvinRun →
      128 ≤ run.target ∧ (run.target + (run.last - run.first) < 0xD800 ∨
        0xDFFF < run.target ∧ run.target + (run.last - run.first) < 0x110000))) = true := by
    decide +kernel
  exact of_decide_eq_true (List.all_eq_true.mp all run mem) other

/-- But for the Kelvin sign, no run of the case table leads from beyond ASCII into it. -/
theorem past_ascii_of_image? {run : CaseRun} {c : Char} {n : Nat} (mem : run ∈ lowerRuns)
    (other : run ≠ kelvinRun) (image : run.image? c.toNat = some n) :
    128 ≤ (Char.ofNat n).toNat := by
  obtain ⟨past, range⟩ := target_past_ascii mem other
  unfold CaseRun.image? at image
  split at image
  · obtain rfl := Option.some.inj image
    have valid : (run.target + (c.toNat - run.first)).isValidChar := by
      unfold Nat.isValidChar
      omega
    rw [toNat_ofNat valid]
    omega
  · contradiction

/-- Past ASCII a form holds a character past ASCII, or the letter `k`. -/
theorem lowerChar_past_ascii {c : Char} (past : 128 ≤ c.toNat) :
    'k' ∈ lowerChar c ∨ ∃ d ∈ lowerChar c, 128 ≤ d.toNat := by
  unfold lowerChar
  rw [if_neg (Nat.not_lt_of_le past)]
  split
  · right
    exact ⟨'\u0307', by simp, by decide⟩
  split
  · next n found =>
    obtain ⟨run, mem, image⟩ := List.exists_of_findSome?_eq_some found
    by_cases kelvin : run = kelvinRun
    · left
      have only : c.toNat = 0x212A := by
        unfold CaseRun.image? at image
        split at image
        · next inside =>
          rw [kelvin] at inside
          exact Nat.le_antisymm inside.2.1 inside.1
        · contradiction
      obtain rfl : 0x6B = n := by
        rw [kelvin, only] at image
        exact Option.some.inj image
      exact List.mem_singleton_self 'k'
    · right
      exact ⟨Char.ofNat n, List.mem_singleton_self _, past_ascii_of_image? mem kelvin image⟩
  · right
    exact ⟨c, List.mem_singleton_self c, past⟩

/-- Neither small sigma is ASCII. -/
theorem lowerSigma_past_ascii (before after : List Char) :
    128 ≤ (lowerSigma before after).toNat := by
  unfold lowerSigma
  split <;> decide

/-- What is lower-cased to ASCII without a k is ASCII itself. -/
theorem isAscii_of_lowerFrom {before text : List Char}
    (ascii : isAscii (lowerFrom before text) = true) (absent : 'k' ∉ lowerFrom before text) :
    isAscii text = true := by
  rw [isAscii_iff] at ascii ⊢
  induction text generalizing before with
  | nil => exact List.forall_mem_nil _
  | cons c text ih =>
    rw [lowerFrom, List.forall_mem_append] at ascii
    rw [lowerFrom, List.mem_append, not_or] at absent
    rw [List.forall_mem_cons]
    refine ⟨?_, ih ascii.2 absent.2⟩
    have form := ascii.1
    have noK := absent.1
    -- a character past ASCII would have left something in its form that is not there
    apply Nat.lt_of_not_le
    intro past
    split at form
    · have low := form _ (List.mem_singleton_self _)
      exact Nat.not_lt_of_le (lowerSigma_past_ascii before text) low
    · next noSigma =>
      rw [if_neg noSigma] at noK
      rcases lowerChar_past_ascii past with k | ⟨d, mem, high⟩
      · exact noK k
      · exact Nat.not_lt_of_le high (form d mem)

/-- Only the Kelvin sign is lower-cased into ASCII from beyond. -/
theorem isAscii_of_lower {text : List Char} (ascii : isAscii (lower text) = true)
    (absent : 'k' ∉ lower text) : isAscii text = true :=
  isAscii_of_lowerFrom ascii absent

/-! ## Strings -/

/-- Two strings that differ at most in the case of ASCII letters. -/
def EqUpToCase (s t : String) : Prop :=
  s.toList.map Char.toLower = t.toList.map Char.toLower

/-- A sigma after a letter is final in either case of the letter. -/
example : lower "AΣ".toList = "aς".toList ∧ lower "aΣ".toList = "aς".toList := by decide

end KeyDirectory.Unicode
