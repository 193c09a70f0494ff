import KeyDirectory.Unicode.Lowercase
import KeyDirectory.Unicode.Normalization

/-!
# ASCII text

What holds of the 128 ASCII characters can be decided (`forall_ascii`). On ASCII text lower-casing
is a map over the characters (`lower_eq_map`), which no context changes.
-/

namespace KeyDirectory.Unicode

theorem toNat_ofNat {n : Nat} (h : n.isValidChar) : (Char.ofNat n).toNat = n := by
  rw [Char.ofNat, dif_pos h]
  rfl

/-- What holds of the first 128 characters holds of all of ASCII. -/
theorem forall_ascii {P : Char → Prop} (h : ∀ n < 128, P (Char.ofNat n)) {c : Char}
    (ascii : c.toNat < 128) : P c := by
  have holds := h c.toNat ascii
  rwa [Char.ofNat_toNat] at holds

/-- What holds of each character of a given text can be decided one by one. -/
theorem forall_mem_of_all {P : Char → Prop} [DecidablePred P] {text : List Char}
    (h : text.all (fun c => decide (P c)) = true) : ∀ c ∈ text, P c := by
  simpa using h

/-- A text is ASCII iff all its characters are. -/
theorem isAscii_iff {text : List Char} : isAscii text = true ↔ ∀ c ∈ text, c.toNat < 128 := by
  simp [isAscii]

theorem toNat_lt_of_le {c d : Char} (le : c ≤ d) (ascii : d.toNat < 128) : c.toNat < 128 :=
  Nat.lt_of_le_of_lt (UInt32.le_iff_toNat_le.mp le) ascii

/-- Letters and digits, in the narrow sense, are ASCII. -/
theorem toNat_lt_of_isAlphanum {c : Char} (h : c.isAlphanum = true) : c.toNat < 128 := by
  rcases Bool.or_eq_true_iff.mp h with alpha | digit
  · rcases Bool.or_eq_true_iff.mp alpha with capital | small
    · have bounds : 'A'.val ≤ c.val ∧ c.val ≤ 'Z'.val := of_decide_eq_true capital
      exact toNat_lt_of_le bounds.2 (by decide)
    · exact toNat_lt_of_le (of_decide_eq_true (Bool.and_eq_true_iff.mp small).2) (by decide)
  · exact toNat_lt_of_le (of_decide_eq_true (Bool.and_eq_true_iff.mp digit).2) (by decide)

theorem toNat_toLower_lt {c : Char} (ascii : c.toNat < 128) : c.toLower.toNat < 128 :=
  forall_ascii (P := fun c => c.toLower.toNat < 128) (by decide) ascii

theorem toLower_toLower {c : Char} (ascii : c.toNat < 128) : c.toLower.toLower = c.toLower :=
  forall_ascii (P := fun c => c.toLower.toLower = c.toLower) (by decide) ascii

theorem isAscii_map_toLower {text : List Char} (ascii : isAscii text = true) :
    isAscii (text.map Char.toLower) = true := by
  rw [isAscii_iff] at ascii ⊢
  intro c mem
  obtain ⟨d, inText, rfl⟩ := List.mem_map.mp mem
  exact toNat_toLower_lt (ascii d inText)

/-- Within ASCII, lower-casing does not depend on what stands before. -/
theorem lowerFrom_eq_map {text : List Char} (before : List Char) (ascii : isAscii text = true) :
    lowerFrom before text = text.map Char.toLower := by
  rw [isAscii_iff] at ascii
  induction text generalizing before with
  | nil => rfl
  | cons c text ih =>
    have hc := ascii c List.mem_cons_self
    have noSigma : c ≠ 'Σ' := by
      rintro rfl
      contradiction
    rw [lowerFrom, if_neg noSigma, lowerChar, if_pos hc,
      ih (c :: before) fun d mem => ascii d (List.mem_cons_of_mem c mem)]
    rfl

/-- Within ASCII, lower-casing makes the letters small one by one. -/
theorem lower_eq_map {text : List Char} (ascii : isAscii text = true) :
    lower text = text.map Char.toLower :=
  lowerFrom_eq_map [] ascii

def lowered (s : String) : String :=
  String.ofList (lower s.toList)

section Lowered

variable {s : String}

/-- The lower-cased form of an ASCII text has its letters made small. -/
theorem toList_lowered (ascii : isAscii s.toList = true) :
    (lowered s).toList = s.toList.map Char.toLower := by
  rw [lowered, String.toList_ofList, lower_eq_map ascii]

/-- The lower-cased form of an ASCII text is ASCII. -/
theorem isAscii_lowered (ascii : isAscii s.toList = true) :
    isAscii (lowered s).toList = true := by
  rw [toList_lowered ascii]
  exact isAscii_map_toLower ascii

theorem toLower_of_mem_lowered (ascii : isAscii s.toList = true) :
    ∀ c ∈ (lowered s).toList, c.toLower = c := by
  rw [toList_lowered ascii]
  intro c mem
  obtain ⟨d, inText, rfl⟩ := List.mem_map.mp mem
  exact toLower_toLower (isAscii_iff.mp ascii d inText)

end Lowered

end KeyDirectory.Unicode
