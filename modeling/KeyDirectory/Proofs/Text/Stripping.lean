import KeyDirectory.Mail
import Mathlib.Data.List.TakeWhile

/-!
# Cutting off both ends

Trimming and unquoting cut a class of characters off both ends of a text. What is left is known
without the way in which it is found (`Stripped`): nothing but characters of the class was cut off, and
the rest neither starts nor ends with one. Only one text is left so (`stripped_iff`).
-/

namespace KeyDirectory.Text

/-- `core` is `text` without the characters of a class that stand at its ends. -/
structure Stripped (isCut : Char → Bool) (text core : List Char) : Prop where
  /-- Whatever stands around the core is of the class. -/
  around : ∃ front back, text = front ++ core ++ back ∧
    (∀ c ∈ front, isCut c = true) ∧ ∀ c ∈ back, isCut c = true
  first : ∀ c ∈ core.head?, isCut c = false
  last : ∀ c ∈ core.getLast?, isCut c = false

variable {isCut : Char → Bool} {text core : List Char}

/-- Nothing is cut off a text whose first character stays. -/
theorem dropWhile_eq_self (first : ∀ c ∈ text.head?, isCut c = false) :
    text.dropWhile isCut = text := by
  cases text with
  | nil => rfl
  | cons c rest => rw [List.dropWhile_cons, if_neg (by simp [first c rfl])]

/-- What is kept shields what stands after it. -/
theorem dropWhile_append_cons {c : Char} (kept : isCut c = false) (before after : List Char) :
    (before ++ c :: after).dropWhile isCut = before.dropWhile isCut ++ c :: after := by
  have start : (c :: after).dropWhile isCut = c :: after :=
    List.dropWhile_cons_of_neg (by simp [kept])
  rw [List.dropWhile_append, start]
  split
  · next nothing => rw [List.isEmpty_iff.mp nothing, List.nil_append]
  · rfl

/-- Where the cutting stops, a character stays. -/
theorem first_of_dropWhile (text : List Char) :
    ∀ c ∈ (text.dropWhile isCut).head?, isCut c = false := by
  intro c first
  have kept := List.head?_dropWhile_not isCut text
  rw [Option.mem_def.mp first] at kept
  exact kept

/-- Cutting from both ends strips a text. -/
theorem Stripped.strip (text : List Char) :
    Stripped isCut text ((text.dropWhile isCut).reverse.dropWhile isCut).reverse where
  around := by
    refine ⟨text.takeWhile isCut, ((text.dropWhile isCut).reverse.takeWhile isCut).reverse, ?_,
      ?_, ?_⟩
    · rw [List.append_assoc, ← List.reverse_append, List.takeWhile_append_dropWhile,
        List.reverse_reverse, List.takeWhile_append_dropWhile]
    · exact List.all_eq_true.mp List.all_takeWhile
    · intro c mem
      exact List.all_eq_true.mp List.all_takeWhile c (List.mem_reverse.mp mem)
  first := by
    intro c first
    -- the core is the beginning of what is left once the front is cut off
    have start : ((text.dropWhile isCut).reverse.dropWhile isCut).reverse <+:
        text.dropWhile isCut := by
      rw [← List.reverse_suffix, List.reverse_reverse]
      exact List.dropWhile_suffix isCut
    obtain ⟨back, whole⟩ := start
    apply first_of_dropWhile text
    rw [← whole, List.head?_append, Option.mem_def.mp first]
    rfl
  last := by
    rw [List.getLast?_reverse]
    exact first_of_dropWhile _

/-- There is one way to strip a text. -/
theorem Stripped.eq_strip (stripped : Stripped isCut text core) :
    core = ((text.dropWhile isCut).reverse.dropWhile isCut).reverse := by
  obtain ⟨⟨front, back, whole, inFront, inBack⟩, first, last⟩ := stripped
  have cutBack : ∀ c ∈ back.reverse, isCut c = true := by
    simpa using inBack
  have lastKept : core.reverse.dropWhile isCut = core.reverse := by
    apply dropWhile_eq_self
    rwa [List.head?_reverse]
  rw [whole, List.append_assoc, List.dropWhile_append_of_pos inFront]
  cases core with
  | nil =>
    -- with no core between them, front and back are cut off together
    rw [List.nil_append, List.dropWhile_eq_nil_iff.mpr inBack]
    rfl
  | cons c core =>
    have firstKept : (c :: core ++ back).dropWhile isCut = c :: core ++ back :=
      dropWhile_eq_self fun d isFirst => first d (by simpa using isFirst)
    rw [firstKept, List.reverse_append, List.dropWhile_append_of_pos cutBack, lastKept,
      List.reverse_reverse]

/-- To strip a text is to cut from both ends. -/
theorem stripped_iff :
    Stripped isCut text core ↔
      core = ((text.dropWhile isCut).reverse.dropWhile isCut).reverse := by
  constructor
  · exact Stripped.eq_strip
  · rintro rfl
    exact Stripped.strip text

/-! ## Trimming and unquoting -/

/-- Trimming strips a text of white space. -/
theorem stripped_isBlank_iff : Stripped isBlank text core ↔ core = trim text :=
  stripped_iff

/-- Taking off quotes strips a text of them. -/
theorem stripped_quote_iff :
    Stripped (· == '"') text core ↔ core = MailAddress.unquote text :=
  stripped_iff

/-- A trimmed text is what is left of the text without white space around it. -/
theorem trim_stripped (text : List Char) : Stripped isBlank text (trim text) :=
  stripped_isBlank_iff.mpr rfl

/-- A character that is not blank stays where it is, and each side of it is trimmed on its own. -/
theorem trim_append_cons {c : Char} (solid : isBlank c = false) (before after : List Char) :
    trim (before ++ c :: after) = trimStart before ++ c :: trimEnd after := by
  unfold trim trimStart trimEnd
  rw [dropWhile_append_cons solid, List.reverse_append, List.reverse_cons, List.append_assoc,
    List.singleton_append, dropWhile_append_cons solid]
  simp

/-- A text that neither starts nor ends with a blank is trimmed already. -/
theorem trim_eq_self_of_ends (first : ∀ c ∈ text.head?, isBlank c = false)
    (last : ∀ c ∈ text.getLast?, isBlank c = false) : trim text = text :=
  (stripped_isBlank_iff.mp ⟨⟨[], [], by simp, by simp, by simp⟩, first, last⟩).symm

/-- Trimming a trimmed text changes nothing. -/
theorem trim_trim (text : List Char) : trim (trim text) = trim text :=
  trim_eq_self_of_ends (trim_stripped text).first (trim_stripped text).last

/-- A trimmed text does not show the white space that was around it. -/
theorem trim_append_append {before after : List Char}
    (blankBefore : ∀ c ∈ before, isBlank c = true) (blankAfter : ∀ c ∈ after, isBlank c = true)
    (text : List Char) : trim (before ++ text ++ after) = trim text := by
  obtain ⟨⟨front, back, whole, inFront, inBack⟩, first, last⟩ := trim_stripped text
  refine (stripped_isBlank_iff.mp ⟨⟨before ++ front, back ++ after, ?_, ?_, ?_⟩, first, last⟩).symm
  · calc before ++ text ++ after
      _ = before ++ (front ++ trim text ++ back) ++ after := by rw [← whole]
      _ = before ++ front ++ trim text ++ (back ++ after) := by simp only [List.append_assoc]
  · intro c mem
    exact (List.mem_append.mp mem).elim (blankBefore c) (inFront c)
  · intro c mem
    exact (List.mem_append.mp mem).elim (inBack c) (blankAfter c)

theorem trim_trimStart (text : List Char) : trim (trimStart text) = trim text :=
  congrArg trimEnd (dropWhile_eq_self (first_of_dropWhile text))

theorem trim_trimEnd (text : List Char) : trim (trimEnd text) = trim text := by
  have cut : text = [] ++ trimEnd text ++ (text.reverse.takeWhile isBlank).reverse := by
    rw [List.nil_append, trimEnd, ← List.reverse_append, List.takeWhile_append_dropWhile,
      List.reverse_reverse]
  have blank : ∀ c ∈ (text.reverse.takeWhile isBlank).reverse, isBlank c = true := by
    intro c mem
    exact List.all_eq_true.mp List.all_takeWhile c (List.mem_reverse.mp mem)
  calc trim (trimEnd text)
    _ = trim ([] ++ trimEnd text ++ (text.reverse.takeWhile isBlank).reverse) :=
      (trim_append_append (by simp) blank (trimEnd text)).symm
    _ = trim text := by rw [← cut]

end KeyDirectory.Text
