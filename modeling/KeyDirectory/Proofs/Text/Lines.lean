import KeyDirectory.Text.Blank
import KeyDirectory.Text.Split

/-!
# Lines and white space

Whoever cuts at every line feed and whoever takes the carriage return before it along get lines that
differ at most in a carriage return at their end, which trimming removes:

* `lines_append_cons`, `textLines_append_cons` — what the first line feed of a sequence cuts off;
* `lines_induction` — whatever holds of a single line, and of a line before what it holds of, holds
  of every sequence;
* `trim_dropFinal` — a trimmed text does not show whether a blank was dropped from its end.

With their endings the lines are the whole text (`flatten_wholeLines`), and so are those that are left
when others are taken out (`wholeLines_flatten`).
-/

namespace KeyDirectory.Text

/-! ## White space -/

/-- Trimming takes nothing away that is not blank. -/
theorem count_trim {c : Char} (solid : isBlank c = false) (text : List Char) :
    (trim text).count c = text.count c := by
  have drop : ∀ xs : List Char, (xs.dropWhile isBlank).count c = xs.count c := by
    intro xs
    have none_dropped : (xs.takeWhile isBlank).count c = 0 := by
      apply List.count_eq_zero.mpr
      intro mem
      have blank := List.all_takeWhile (p := isBlank) (l := xs)
      rw [List.all_eq_true] at blank
      rw [blank c mem] at solid
      contradiction
    have whole := congrArg (List.count c) (List.takeWhile_append_dropWhile (p := isBlank) (l := xs))
    rwa [List.count_append, none_dropped, Nat.zero_add] at whole
  rw [trim, trimEnd, List.count_reverse, drop, List.count_reverse, trimStart, drop]

theorem trimEnd_append_blank {c : Char} (blank : isBlank c = true) (text : List Char) :
    trimEnd (text ++ [c]) = trimEnd text := by
  simp [trimEnd, blank]

/-- White space at the end does not show in the trimmed text. -/
theorem trim_append_blank {c : Char} (blank : isBlank c = true) (text : List Char) :
    trim (text ++ [c]) = trim text := by
  unfold trim trimStart
  rw [List.dropWhile_append]
  split
  · next allBlank =>
    -- the last blank goes the same way as all those before it
    rw [List.isEmpty_iff] at allBlank
    simp [allBlank, blank]
  · exact trimEnd_append_blank blank _

variable {α : Type} [DecidableEq α]

theorem dropFinal_append (last : α) (xs : List α) : dropFinal last (xs ++ [last]) = xs := by
  simp [dropFinal]

theorem dropFinal_cons {last x : α} {xs : List α} (h : ¬(x = last ∧ xs = [])) :
    dropFinal last (x :: xs) = x :: dropFinal last xs := by
  cases xs with
  | nil => simp_all [dropFinal]
  | cons y ys =>
    unfold dropFinal
    rw [List.getLast?_cons_cons]
    split <;> rfl

/-- Dropping a final element either finds none or takes away exactly that. -/
theorem eq_or_eq_append_of_dropFinal (last : α) (xs : List α) :
    dropFinal last xs = xs ∨ xs = dropFinal last xs ++ [last] := by
  by_cases h : xs.getLast? = some last
  · right
    obtain ⟨front, rfl⟩ := List.getLast?_eq_some_iff.mp h
    rw [dropFinal_append]
  · left
    rw [dropFinal, if_neg h]

/-- White space that is dropped at the end does not show in the trimmed text. -/
theorem trim_dropFinal {c : Char} (blank : isBlank c = true) (text : List Char) :
    trim (dropFinal c text) = trim text := by
  rcases eq_or_eq_append_of_dropFinal c text with same | dropped
  · rw [same]
  · have trimmed := trim_append_blank blank (dropFinal c text)
    rw [← dropped] at trimmed
    exact trimmed.symm

/-! ## Lines -/

variable {newline : α} {xs ys : List α}

/-- A line feed ends the line before it. -/
theorem lines_append_cons (h : newline ∉ xs) (ys : List α) :
    lines newline (xs ++ newline :: ys) = xs :: lines newline ys := by
  induction xs with
  | nil => simp [lines]
  | cons x xs ih =>
    have other : x ≠ newline := (List.ne_of_not_mem_cons h).symm
    have hxs : newline ∉ xs := List.not_mem_of_not_mem_cons h
    simp [lines, other, ih hxs]

/-- Without a line feed there is one line. -/
theorem lines_of_not_mem (h : newline ∉ xs) (nonempty : xs ≠ []) : lines newline xs = [xs] := by
  induction xs with
  | nil => contradiction
  | cons x xs ih =>
    have other : x ≠ newline := (List.ne_of_not_mem_cons h).symm
    have hxs : newline ∉ xs := List.not_mem_of_not_mem_cons h
    by_cases last : xs = []
    · simp [lines, other, last]
    · simp [lines, other, ih hxs last]

/-- Induction over the lines of a sequence: the last one, which no `newline` ends, and a line before
others. -/
theorem lines_induction (newline : α) {motive : List α → Prop}
    (last : ∀ xs, newline ∉ xs → motive xs)
    (line : ∀ xs ys, newline ∉ xs → motive ys → motive (xs ++ newline :: ys)) :
    ∀ xs, motive xs := by
  intro xs
  induction size : xs.length using Nat.strongRecOn generalizing xs with
  | ind n ih =>
    by_cases h : newline ∈ xs
    · obtain ⟨front, rest, rfl, hfront⟩ := List.eq_append_cons_of_mem h
      have shorter : rest.length < n := by
        rw [← size, List.length_append, List.length_cons]
        omega
      exact line front rest hfront (ih rest.length shorter rest rfl)
    · exact last xs h

/-- A sequence of whole lines: the last one is ended as well. -/
def Ended (newline : α) (xs : List α) : Prop :=
  xs = [] ∨ xs.getLast? = some newline

omit [DecidableEq α] in
theorem Ended.rest (ended : Ended newline (xs ++ newline :: ys)) : Ended newline ys := by
  cases ys with
  | nil => exact .inl rfl
  | cons y ys =>
    right
    rcases ended with nothing | last
    · simp at nothing
    · simpa using last

omit [DecidableEq α] in
theorem Ended.eq_nil (ended : Ended newline xs) (unbroken : newline ∉ xs) : xs = [] := by
  rcases ended with nothing | last
  · exact nothing
  · exact absurd (List.mem_of_getLast? last) unbroken

/-- Whole lines are cut without a look at what follows. -/
theorem Ended.lines_append (ended : Ended newline xs) (ys : List α) :
    lines newline (xs ++ ys) = lines newline xs ++ lines newline ys := by
  induction xs using lines_induction newline with
  | last xs unbroken =>
    rw [ended.eq_nil unbroken]
    rfl
  | line front rest unbroken ih =>
    rw [List.append_assoc, List.cons_append, lines_append_cons unbroken,
      lines_append_cons unbroken, ih ended.rest, List.cons_append]

/-- There are as many whole lines as there are endings. -/
theorem Ended.length_lines (ended : Ended newline xs) :
    (lines newline xs).length = xs.count newline := by
  induction xs using lines_induction newline with
  | last xs unbroken =>
    rw [ended.eq_nil unbroken]
    rfl
  | line front rest unbroken ih =>
    rw [lines_append_cons unbroken, List.length_cons, ih ended.rest, List.count_append,
      List.count_eq_zero.mpr unbroken, List.count_cons_self, Nat.zero_add]

/-- The step of `textLines` inside a line: no line feed stands in front, nor a carriage return
before one. -/
theorem textLines_cons {c : Char} {text : List Char} (other : c ≠ '\n')
    (inside : c = '\r' → text.head? ≠ some '\n') :
    textLines (c :: text) = (c :: (textLines text).headD []) :: (textLines text).tail := by
  rw [textLines]
  · cases textLines text <;> rfl
  · exact other
  · intro rest isReturn starts
    rw [starts] at inside
    exact inside isReturn rfl

/-- A line feed ends the line before it, which loses a final carriage return. -/
theorem textLines_append_cons {text : List Char} (h : '\n' ∉ text) (rest : List Char) :
    textLines (text ++ '\n' :: rest) = dropFinal '\r' text :: textLines rest := by
  induction text with
  | nil => simp [textLines, dropFinal]
  | cons c text ih =>
    have other : c ≠ '\n' := (List.ne_of_not_mem_cons h).symm
    have htext : '\n' ∉ text := List.not_mem_of_not_mem_cons h
    by_cases pair : c = '\r' ∧ text = []
    · obtain ⟨rfl, rfl⟩ := pair
      simp [textLines, dropFinal]
    · have inside : c = '\r' → (text ++ '\n' :: rest).head? ≠ some '\n' := by
        intro isReturn
        cases text with
        | nil => exact absurd ⟨isReturn, rfl⟩ pair
        | cons d text =>
          intro first
          exact htext (by simp_all)
      rw [List.cons_append, textLines_cons other inside, ih htext, dropFinal_cons pair]
      rfl

/-- Without a line feed there is one line, and it keeps a final carriage return. -/
theorem textLines_of_not_mem {text : List Char} (h : '\n' ∉ text) (nonempty : text ≠ []) :
    textLines text = [text] := by
  induction text with
  | nil => contradiction
  | cons c text ih =>
    have other : c ≠ '\n' := (List.ne_of_not_mem_cons h).symm
    have htext : '\n' ∉ text := List.not_mem_of_not_mem_cons h
    have inside : c = '\r' → text.head? ≠ some '\n' :=
      fun _ first => htext (List.mem_of_head? first)
    rw [textLines_cons other inside]
    by_cases last : text = []
    · simp [last, textLines]
    · simp [ih htext last]

/-- Lines that were put together come apart again: none is empty, and none holds a character that
ends lines. -/
theorem textLines_intercalate {pieces : List (List Char)}
    (solid : ∀ piece ∈ pieces, piece ≠ [] ∧ '\n' ∉ piece ∧ '\r' ∉ piece) :
    textLines (['\n'].intercalate pieces) = pieces := by
  induction pieces with
  | nil => rfl
  | cons piece more ih =>
    obtain ⟨nonempty, unbroken, noReturn⟩ := solid piece List.mem_cons_self
    cases more with
    -- nothing ends the last line, so it must not be empty
    | nil => rw [List.intercalate_singleton, textLines_of_not_mem unbroken nonempty]
    | cons next more =>
      have whole : dropFinal '\r' piece = piece := by
        rw [dropFinal, if_neg]
        exact fun last => noReturn (List.mem_of_getLast? last)
      rw [List.intercalate_cons_cons, List.append_assoc, List.singleton_append,
        textLines_append_cons unbroken, whole,
        ih fun other mem => solid other (List.mem_cons_of_mem _ mem)]

/-! ## Lines with their endings -/

/-- The lines of a text, each with the line feed that ends it. -/
def wholeLines : List Char → List (List Char)
  | [] => []
  | c :: rest =>
    if c = '\n' then [c] :: wholeLines rest
    else
      match wholeLines rest with
      | [] => [[c]]
      | line :: more => (c :: line) :: more

/-- The line without the line feed that ends it and a carriage return before that. -/
def withoutEnding (line : List Char) : List Char :=
  if line.getLast? = some '\n' then dropFinal '\r' line.dropLast else line

section WholeLines

variable {text : List Char}

/-- A line feed belongs to the line that it ends. -/
theorem wholeLines_append_cons (h : '\n' ∉ text) (rest : List Char) :
    wholeLines (text ++ '\n' :: rest) = (text ++ ['\n']) :: wholeLines rest := by
  induction text with
  | nil => simp [wholeLines]
  | cons c text ih =>
    have other : c ≠ '\n' := (List.ne_of_not_mem_cons h).symm
    have htext : '\n' ∉ text := List.not_mem_of_not_mem_cons h
    simp [wholeLines, other, ih htext]

/-- Without a line feed there is one line. -/
theorem wholeLines_of_not_mem (h : '\n' ∉ text) (nonempty : text ≠ []) :
    wholeLines text = [text] := by
  induction text with
  | nil => contradiction
  | cons c text ih =>
    have other : c ≠ '\n' := (List.ne_of_not_mem_cons h).symm
    have htext : '\n' ∉ text := List.not_mem_of_not_mem_cons h
    by_cases last : text = []
    · simp [wholeLines, other, last]
    · simp [wholeLines, other, ih htext last]

/-- Nothing of the text is lost. -/
theorem flatten_wholeLines (text : List Char) : (wholeLines text).flatten = text := by
  induction text using lines_induction '\n' with
  | last text unbroken =>
    by_cases empty : text = []
    · rw [empty]
      rfl
    · rw [wholeLines_of_not_mem unbroken empty, List.flatten_singleton]
  | line text rest unbroken ih =>
    rw [wholeLines_append_cons unbroken, List.flatten_cons, ih, List.append_assoc,
      List.singleton_append]

/-- The lines of a text are its whole lines without their endings. -/
theorem textLines_eq_map (text : List Char) :
    textLines text = (wholeLines text).map withoutEnding := by
  induction text using lines_induction '\n' with
  | last text unbroken =>
    by_cases empty : text = []
    · rw [empty]
      rfl
    · have unended : text.getLast? ≠ some '\n' :=
        fun last => unbroken (List.mem_of_getLast? last)
      rw [textLines_of_not_mem unbroken empty, wholeLines_of_not_mem unbroken empty,
        List.map_singleton, withoutEnding, if_neg unended]
  | line text rest unbroken ih =>
    rw [textLines_append_cons unbroken, wholeLines_append_cons unbroken, List.map_cons, ih,
      withoutEnding, if_pos (by simp), List.dropLast_concat]

/-- The ending of a line does not show in the trimmed line. -/
theorem trim_withoutEnding (line : List Char) : trim (withoutEnding line) = trim line := by
  unfold withoutEnding
  split
  · next ended =>
    obtain ⟨front, rfl⟩ := List.getLast?_eq_some_iff.mp ended
    rw [List.dropLast_concat, trim_dropFinal (by decide), trim_append_blank (by decide)]
  · rfl

/-- Lines that are left when others are taken out are still the lines of the text that they make
up: only the last line of a text may lack its ending, and it stays the last. -/
theorem wholeLines_flatten {kept : List (List Char)} (sub : kept.Sublist (wholeLines text)) :
    wholeLines kept.flatten = kept := by
  induction text using lines_induction '\n' generalizing kept with
  | last text unbroken =>
    by_cases empty : text = []
    · rw [empty] at sub
      rw [List.sublist_nil.mp sub]
      rfl
    · rw [wholeLines_of_not_mem unbroken empty] at sub
      cases sub with
      | cons _ sub =>
        rw [List.sublist_nil.mp sub]
        rfl
      | cons_cons _ sub =>
        rw [List.sublist_nil.mp sub, List.flatten_singleton, wholeLines_of_not_mem unbroken empty]
  | line text rest unbroken ih =>
    rw [wholeLines_append_cons unbroken] at sub
    cases sub with
    | cons _ sub => exact ih sub
    | cons_cons _ sub =>
      rw [List.flatten_cons, List.append_assoc, List.singleton_append,
        wholeLines_append_cons unbroken, ih sub]

end WholeLines

end KeyDirectory.Text
