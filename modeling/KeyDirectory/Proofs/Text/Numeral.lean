import KeyDirectory.Proofs.Unicode.Ascii
import KeyDirectory.Text.Blank
import KeyDirectory.Text.Numeral

/-!
# Reading numbers that were written

A number is written in decimal digits, after a minus sign if it is negative. Reading gives it back
(`readInt32?_toString`), and nothing in it is blank (`solid_toString`).
-/

namespace KeyDirectory.Text

/-- The digits of a number are a numeral. -/
theorem isNumeral_toDigits (n : Nat) : isNumeral (Nat.toDigits 10 n) = true := by
  have someDigit : Nat.toDigits 10 n ≠ [] := Nat.toDigits_ne_nil
  have digits : (Nat.toDigits 10 n).all Char.isDigit = true :=
    List.all_eq_true.mpr fun c mem =>
      Nat.isDigit_of_mem_toDigits (by decide) (by decide) mem
  simp [isNumeral, someDigit, digits]

/-- The digits of a number have its value. -/
theorem digitsValue_toDigits (n : Nat) : digitsValue (Nat.toDigits 10 n) = n := by
  have same : digitsValue (Nat.toDigits 10 n) = Nat.ofDigitChars 10 (Nat.toDigits 10 n) 0 := by
    unfold digitsValue Nat.ofDigitChars
    congr 1
    funext m c
    rw [Nat.mul_comm]
  rw [same, Nat.ofDigitChars_ten_toDigits]

/-- Digits are read as they stand, since a sign is none. -/
theorem readInt?_of_isNumeral {digits : List Char} (numeral : isNumeral digits = true) :
    readInt? digits = some (digitsValue digits : Int) := by
  unfold readInt?
  split
  · simp [isNumeral] at numeral
  · simp [isNumeral] at numeral
  · rw [if_pos numeral]

/-- A negative number is shown as a minus sign and digits. -/
theorem toList_toString_negSucc (n : Nat) :
    (toString (Int.negSucc n)).toList = '-' :: Nat.toDigits 10 (n + 1) := by
  have written : toString (Int.negSucc n) = "-" ++ (n + 1).repr := rfl
  rw [written, String.toList_append, Nat.toList_repr]
  rfl

theorem toList_toString_ofNat (n : Nat) :
    (toString (Int.ofNat n)).toList = Nat.toDigits 10 n :=
  Nat.toList_repr

/-- An integer is read as it is shown. -/
theorem readInt?_toString (n : Int) : readInt? (toString n).toList = some n := by
  cases n with
  | ofNat n =>
    rw [toList_toString_ofNat, readInt?_of_isNumeral (isNumeral_toDigits n), digitsValue_toDigits]
    rfl
  | negSucc n =>
    rw [toList_toString_negSucc, readInt?, if_pos (isNumeral_toDigits _), digitsValue_toDigits]
    rfl

/-- An integer of 32 bits is read as it is shown. -/
theorem readInt32?_toString {n : Int} (fits : fitsInt32 n = true) :
    readInt32? (toString n).toList = some n := by
  rw [readInt32?, readInt?_toString, Option.filter_some, if_pos fits]

/-- What is read fits into 32 bits. -/
theorem fitsInt32_of_readInt32? {text : List Char} {n : Int} (h : readInt32? text = some n) :
    fitsInt32 n = true :=
  (Option.filter_eq_some_iff.mp h).2

theorem isBlank_of_isDigit {c : Char} (digit : c.isDigit = true) : isBlank c = false := by
  have ascii : c.toNat < 128 :=
    Unicode.toNat_lt_of_isAlphanum (Bool.or_eq_true_iff.mpr (.inr digit))
  exact Unicode.forall_ascii (P := fun c => c.isDigit = true → isBlank c = false) (by decide)
    ascii digit

theorem solid_toDigits (n : Nat) : ∀ c ∈ Nat.toDigits 10 n, isBlank c = false := by
  intro c mem
  exact isBlank_of_isDigit (Nat.isDigit_of_mem_toDigits (by decide) (by decide) mem)

/-- Nothing is blank in an integer as it is shown. -/
theorem solid_toString (n : Int) : ∀ c ∈ (toString n).toList, isBlank c = false := by
  cases n with
  | ofNat n =>
    rw [toList_toString_ofNat]
    exact solid_toDigits n
  | negSucc n =>
    rw [toList_toString_negSucc]
    intro c mem
    rcases List.mem_cons.mp mem with rfl | digit
    · decide
    · exact solid_toDigits (n + 1) c digit

theorem toString_ne_nil (n : Int) : (toString n).toList ≠ [] := by
  cases n with
  | ofNat n =>
    rw [toList_toString_ofNat]
    exact Nat.toDigits_ne_nil
  | negSucc n =>
    rw [toList_toString_negSucc]
    exact List.cons_ne_nil _ _

end KeyDirectory.Text
