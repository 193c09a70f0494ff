import KeyDirectory.Text.Split

/-!
# Fields

A separator cuts a text into the fields before it and those after it, whatever these are
(`fields_append_cons`). The fields with the separators between them are the text again
(`joinWith_fields`), and pieces without separators come apart as they were joined
(`fields_joinWith`).
-/

namespace KeyDirectory.Text

variable {isSep : Char → Bool}

/-- There is always a field, if only an empty one. -/
theorem fields_ne_nil (isSep : Char → Bool) (text : List Char) : fields isSep text ≠ [] := by
  cases text with
  | nil => simp [fields]
  | cons c text =>
    rw [fields]
    split
    · simp
    · split <;> simp

theorem fields_cons_sep {c : Char} (sep : isSep c = true) (text : List Char) :
    fields isSep (c :: text) = [] :: fields isSep text := by
  rw [fields, if_pos sep]

/-- The step of `fields` inside a field. -/
theorem fields_cons {c : Char} (inside : isSep c = false) (text : List Char) :
    fields isSep (c :: text) =
      (c :: (fields isSep text).headD []) :: (fields isSep text).tail := by
  rw [fields, if_neg (by simp [inside])]
  cases found : fields isSep text with
  | nil => rfl
  | cons piece pieces => rfl

/-- A separator ends the fields before it. -/
theorem fields_append_cons {c : Char} (sep : isSep c = true) (front rest : List Char) :
    fields isSep (front ++ c :: rest) = fields isSep front ++ fields isSep rest := by
  induction front with
  | nil => rw [List.nil_append, fields_cons_sep sep, fields, List.singleton_append]
  | cons d front ih =>
    rw [List.cons_append]
    cases inside : isSep d with
    | true => rw [fields_cons_sep inside, fields_cons_sep inside, ih, List.cons_append]
    | false =>
      rw [fields_cons inside, fields_cons inside, ih]
      cases found : fields isSep front with
      | nil => exact absurd found (fields_ne_nil isSep front)
      | cons piece pieces => rfl

theorem fields_eq_singleton {text : List Char} (inside : ∀ c ∈ text, isSep c = false) :
    fields isSep text = [text] := by
  induction text with
  | nil => rfl
  | cons c text ih =>
    rw [fields_cons (inside c List.mem_cons_self),
      ih fun d mem => inside d (List.mem_cons_of_mem c mem)]
    rfl

/-- A text without the separator is one field. -/
theorem fields_of_not_mem {sep : Char} {text : List Char} (h : sep ∉ text) :
    fields (· == sep) text = [text] := by
  apply fields_eq_singleton
  intro c mem
  simpa using fun (same : c = sep) => h (same ▸ mem)

/-- Fields hold nothing but what the text holds. -/
theorem mem_of_mem_fields {text piece : List Char} (h : piece ∈ fields isSep text) :
    ∀ c ∈ piece, c ∈ text := by
  induction text generalizing piece with
  | nil => simp_all [fields]
  | cons d text ih =>
    intro c mem
    cases inside : isSep d with
    | true =>
      rw [fields_cons_sep inside] at h
      rcases List.mem_cons.mp h with rfl | later
      · contradiction
      · exact List.mem_cons_of_mem d (ih later c mem)
    | false =>
      rw [fields_cons inside] at h
      cases found : fields isSep text with
      | nil => exact absurd found (fields_ne_nil isSep text)
      | cons first pieces =>
        rw [found] at h ih
        rcases List.mem_cons.mp h with rfl | later
        · rcases List.mem_cons.mp mem with rfl | inFirst
          · exact List.mem_cons_self
          · exact List.mem_cons_of_mem d (ih List.mem_cons_self c inFirst)
        · exact List.mem_cons_of_mem d (ih (List.mem_cons_of_mem first later) c mem)

theorem joinWith_cons {sep piece : List Char} {pieces : List (List Char)} (more : pieces ≠ []) :
    joinWith sep (piece :: pieces) = piece ++ sep ++ joinWith sep pieces := by
  cases pieces with
  | nil => contradiction
  | cons next rest => rfl

/-- Fields that are joined again make up the text. -/
theorem joinWith_fields (sep : Char) (text : List Char) :
    joinWith [sep] (fields (· == sep) text) = text := by
  induction text with
  | nil => rfl
  | cons c text ih =>
    have more := fields_ne_nil (· == sep) text
    by_cases same : c = sep
    · rw [fields_cons_sep (by simpa using same), joinWith_cons more, ih, same]
      rfl
    · rw [fields_cons (by simpa using same)]
      cases found : fields (· == sep) text with
      | nil => contradiction
      | cons piece pieces =>
        rw [found] at ih
        cases pieces with
        | nil => simpa [joinWith] using ih
        | cons next rest => simpa [joinWith] using ih

/-- Pieces without separators are the fields of what joins them. -/
theorem fields_joinWith {sep : Char} {pieces : List (List Char)} (some_pieces : pieces ≠ [])
    (inside : ∀ piece ∈ pieces, sep ∉ piece) :
    fields (· == sep) (joinWith [sep] pieces) = pieces := by
  induction pieces with
  | nil => contradiction
  | cons piece pieces ih =>
    have first := fields_of_not_mem (inside piece List.mem_cons_self)
    by_cases more : pieces = []
    · rw [more]
      exact first
    · rw [joinWith_cons more, List.append_assoc, List.singleton_append,
        fields_append_cons (by simp), first,
        ih more fun next mem => inside next (List.mem_cons_of_mem piece mem)]
      rfl

end KeyDirectory.Text
