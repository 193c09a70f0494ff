import KeyDirectory.Proofs.Text.Fields
import KeyDirectory.Proofs.Url.Percent
import KeyDirectory.Url.Path

/-!
# Paths without dot segments

Segments that are no dot segments are appended as they are (`append_of_plain`). In lower case and
without percent signs the only dot segments are `.` and `..` themselves.
-/

namespace KeyDirectory.Url.Path

open KeyDirectory.Text

theorem isSeparator_eq_false_of_isAlphanum {isSpecial : Bool} {c : Char} (h : c.isAlphanum = true) :
    isSeparator isSpecial c = false := by
  have other : ∀ {d : Char}, d.isAlphanum = false → c ≠ d := by
    rintro d isOther rfl
    rw [h] at isOther
    contradiction
  have slash : c ≠ '/' := other (by decide)
  have backslash : c ≠ '\\' := other (by decide)
  simp [isSeparator, slash, backslash]

/-- A slash ends the segments before it. -/
theorem segments_append_slash (isSpecial : Bool) (front rest : List Char) :
    segments isSpecial (front ++ '/' :: rest) =
      segments isSpecial front ++ segments isSpecial rest := by
  rw [segments, fields_append_cons rfl, List.map_append]
  rfl

/-- A text without separators, of characters that stay, is one segment. -/
theorem segments_eq_singleton {isSpecial : Bool} {text : List Char}
    (inside : ∀ c ∈ text, isSeparator isSpecial c = false)
    (stay : ∀ c ∈ text, Percent.inPath c = true) : segments isSpecial text = [text] := by
  rw [segments, fields_eq_singleton inside, List.map_singleton, Percent.encode_eq_self stay]

/-- A segment that reading a path keeps. -/
structure IsPlain (segment : List Char) : Prop where
  not_single : isSingleDot segment = false
  not_double : isDoubleDot segment = false

theorem append_cons {segment : List Char} (plain : IsPlain segment) (path rest : List (List Char)) :
    append path (segment :: rest) = append (segment :: path) rest := by
  rw [append, plain.not_single, plain.not_double]
  rfl

/-- Plain segments are appended as they are. -/
theorem append_of_plain {segments : List (List Char)} (plain : ∀ s ∈ segments, IsPlain s)
    (path : List (List Char)) : append path segments = segments.reverse ++ path := by
  induction segments generalizing path with
  | nil => rfl
  | cons segment rest ih =>
    rw [append_cons (plain segment List.mem_cons_self),
      ih fun s mem => plain s (List.mem_cons_of_mem segment mem)]
    simp

/-- A text without dot segments names a place below the directory. -/
theorem read_of_plain {isSpecial : Bool} {text : List Char}
    (plain : ∀ s ∈ segments isSpecial text, IsPlain s) (base : List (List Char)) :
    read isSpecial base text = base ++ segments isSpecial text := by
  rw [read, append_of_plain plain]
  simp

section Lower

variable {segment : List Char}

theorem map_toLower_eq_self (small : ∀ c ∈ segment, c.toLower = c) :
    segment.map Char.toLower = segment :=
  (List.map_congr_left small).trans (List.map_id segment)

/-- In small letters, a segment for the present directory is a dot. -/
theorem isSingleDot_iff (small : ∀ c ∈ segment, c.toLower = c) (whole : '%' ∉ segment) :
    isSingleDot segment = true ↔ segment = ['.'] := by
  have other : segment ≠ ['%', '2', 'e'] := by
    rintro rfl
    exact whole (by decide)
  simp [isSingleDot, map_toLower_eq_self small, other]

/-- In small letters, a segment for the directory above is two dots. -/
theorem isDoubleDot_iff (small : ∀ c ∈ segment, c.toLower = c) (whole : '%' ∉ segment) :
    isDoubleDot segment = true ↔ segment = ['.', '.'] := by
  have others : segment ≠ ['.', '%', '2', 'e'] ∧ segment ≠ ['%', '2', 'e', '.'] ∧
      segment ≠ ['%', '2', 'e', '%', '2', 'e'] := by
    refine ⟨?_, ?_, ?_⟩
    all_goals
      rintro rfl
      exact whole (by decide)
  simp [isDoubleDot, map_toLower_eq_self small, others]

/-- Apart from the two kinds of dots, a segment is plain. -/
theorem isPlain_of_ne (small : ∀ c ∈ segment, c.toLower = c) (whole : '%' ∉ segment)
    (here : segment ≠ ['.']) (above : segment ≠ ['.', '.']) : IsPlain segment where
  not_single := by
    rw [Bool.eq_false_iff]
    exact fun dot => here ((isSingleDot_iff small whole).mp dot)
  not_double := by
    rw [Bool.eq_false_iff]
    exact fun dots => above ((isDoubleDot_iff small whole).mp dots)

end Lower

end KeyDirectory.Url.Path
