/-!
# Cutting texts apart

Cutting at the first or the last occurrence of a character, into fields, and into lines. The pieces
and the separators together are always the whole input.
-/

namespace KeyDirectory.Text

/-- What stands before and after the first `sep`, or nothing when `sep` does not occur. -/
def splitFirst (sep : Char) : List Char → Option (List Char × List Char)
  | [] => none
  | c :: rest =>
    if c = sep then some ([], rest)
    else (splitFirst sep rest).map fun (before, after) => (c :: before, after)

/-- What stands before and after the last `sep`, or nothing when `sep` does not occur. -/
def splitLast (sep : Char) (text : List Char) : Option (List Char × List Char) :=
  (splitFirst sep text.reverse).map fun (after, before) => (before.reverse, after.reverse)

/-- The pieces between separators. There is one piece more than there are separators. -/
def fields (isSep : Char → Bool) : List Char → List (List Char)
  | [] => [[]]
  | c :: rest =>
    if isSep c then [] :: fields isSep rest
    else
      match fields isSep rest with
      | [] => [[c]]
      | piece :: pieces => (c :: piece) :: pieces

/-- The lines of a sequence: each `newline` ends one, and what follows the last `newline` is a line
of its own unless it is empty. -/
def lines {α : Type} [DecidableEq α] (newline : α) : List α → List (List α)
  | [] => []
  | a :: rest =>
    if a = newline then [] :: lines newline rest
    else
      match lines newline rest with
      | [] => [[a]]
      | line :: more => (a :: line) :: more

/-- The lines of a text. A line feed ends a line, together with a carriage return right before it; a
carriage return anywhere else is part of its line. -/
def textLines : List Char → List (List Char)
  | [] => []
  | '\n' :: rest => [] :: textLines rest
  | '\r' :: '\n' :: rest => [] :: textLines rest
  | c :: rest =>
    match textLines rest with
    | [] => [[c]]
    | line :: more => (c :: line) :: more

/-- Drops one `last` from the end, if it is there. -/
def dropFinal {α : Type} [DecidableEq α] (last : α) (xs : List α) : List α :=
  if xs.getLast? = some last then xs.dropLast else xs

/-- Puts `sep` between the pieces. -/
def joinWith {α : Type} (sep : List α) : List (List α) → List α
  | [] => []
  | [piece] => piece
  | piece :: more => piece ++ sep ++ joinWith sep more

/-- A first separator cuts the text in two, and does not stand in the first part. -/
theorem splitFirst_eq_some {sep : Char} {text before after : List Char}
    (h : splitFirst sep text = some (before, after)) :
    text = before ++ sep :: after ∧ sep ∉ before := by
  induction text generalizing before with
  | nil => simp [splitFirst] at h
  | cons c rest ih =>
    rw [splitFirst] at h
    split at h
    · next hc =>
      simp only [Option.some.injEq, Prod.mk.injEq] at h
      obtain ⟨rfl, rfl⟩ := h
      simp [hc]
    · next hc =>
      obtain ⟨⟨b, a⟩, hsplit, heq⟩ := Option.map_eq_some_iff.1 h
      simp only [Prod.mk.injEq] at heq
      obtain ⟨rfl, rfl⟩ := heq
      obtain ⟨hrest, hb⟩ := ih hsplit
      refine ⟨by simp [hrest], ?_⟩
      simp only [List.mem_cons, not_or]
      exact ⟨fun hsep => hc hsep.symm, hb⟩

/-- A text is cut at its first separator. -/
theorem splitFirst_append_cons {sep : Char} {before : List Char} (h : sep ∉ before)
    (after : List Char) : splitFirst sep (before ++ sep :: after) = some (before, after) := by
  induction before with
  | nil => simp [splitFirst]
  | cons c before ih =>
    have other : c ≠ sep := (List.ne_of_not_mem_cons h).symm
    rw [List.cons_append, splitFirst, if_neg other, ih (List.not_mem_of_not_mem_cons h)]
    rfl

/-- Only a text without the separator is not cut. -/
theorem splitFirst_eq_none_iff {sep : Char} {text : List Char} :
    splitFirst sep text = none ↔ sep ∉ text := by
  induction text with
  | nil => simp [splitFirst]
  | cons c rest ih =>
    rw [splitFirst]
    split
    · next hc => simp [hc]
    · next hc =>
      have hne : sep ≠ c := fun h => hc h.symm
      simp [ih, hne]

/-- A last separator cuts the text in two, and does not stand in the second part. -/
theorem splitLast_eq_some {sep : Char} {text before after : List Char}
    (h : splitLast sep text = some (before, after)) :
    text = before ++ sep :: after ∧ sep ∉ after := by
  obtain ⟨⟨a, b⟩, hsplit, heq⟩ := Option.map_eq_some_iff.1 h
  simp only [Prod.mk.injEq] at heq
  obtain ⟨rfl, rfl⟩ := heq
  obtain ⟨hreverse, ha⟩ := splitFirst_eq_some hsplit
  refine ⟨?_, by simpa using ha⟩
  rw [← List.reverse_reverse text, hreverse]
  simp

/-- Only a text without the separator is not cut from behind. -/
theorem splitLast_eq_none_iff {sep : Char} {text : List Char} :
    splitLast sep text = none ↔ sep ∉ text := by
  rw [splitLast, Option.map_eq_none_iff, splitFirst_eq_none_iff, List.mem_reverse]

/-- A text is cut at its last separator. -/
theorem splitLast_append_cons {sep : Char} {after : List Char} (before : List Char)
    (h : sep ∉ after) : splitLast sep (before ++ sep :: after) = some (before, after) := by
  have absent : sep ∉ after.reverse := by simpa using h
  have split := splitFirst_append_cons absent before.reverse
  simp [splitLast, split]

end KeyDirectory.Text
