import KeyDirectory.Policy.Basic

/-!
# The fields of a policy

Each keyword stands for one field. `under` reads the field of a keyword as the declaration that sets
it, so that all five are spoken of at once:

* `under_declare` — a declaration sets the field of its keyword and leaves the others alone;
* `under_foldl_declare` — after several declarations, the last one of a keyword is in force;
* `foldl_declare_eq_merge` — declarations made after others are merged into what these have set.
-/

namespace KeyDirectory.Policy

variable {p q : Policy} {k : Keyword} {s : Setting}

/-- What a policy declares under a keyword. -/
def under (p : Policy) : Keyword → Option Setting
  | .mailboxOnly => if p.mailboxOnly then some .mailboxOnly else none
  | .daneOnly => if p.daneOnly then some .daneOnly else none
  | .authSubmit => if p.authSubmit then some .authSubmit else none
  | .protocolVersion => p.protocolVersion.map .protocolVersion
  | .submissionAddress => p.submissionAddress.map .submissionAddress

/-- Two policies together. A flag is set if either sets it; the version and the address are those of
the second policy, where it has them. -/
def merge (p q : Policy) : Policy where
  mailboxOnly := p.mailboxOnly || q.mailboxOnly
  daneOnly := p.daneOnly || q.daneOnly
  authSubmit := p.authSubmit || q.authSubmit
  protocolVersion := q.protocolVersion.or p.protocolVersion
  submissionAddress := q.submissionAddress.or p.submissionAddress

/-! ## One field -/

/-- A policy is known by its fields. -/
theorem ext_under (same : ∀ k, p.under k = q.under k) : p = q := by
  have mailboxOnly := same .mailboxOnly
  have daneOnly := same .daneOnly
  have authSubmit := same .authSubmit
  have protocolVersion := same .protocolVersion
  have submissionAddress := same .submissionAddress
  obtain ⟨⟩ := p
  obtain ⟨⟩ := q
  simp only [under, mk.injEq] at *
  refine ⟨?_, ?_, ?_, ?_, ?_⟩
  · grind
  · grind
  · grind
  · exact Option.map_injective (fun _ _ => Setting.protocolVersion.inj) protocolVersion
  · exact Option.map_injective (fun _ _ => Setting.submissionAddress.inj) submissionAddress

@[simp]
theorem under_empty (k : Keyword) : empty.under k = none := by
  cases k <;> rfl

/-- A declaration sets the field of its keyword, and no other. -/
theorem under_declare (p : Policy) (s : Setting) (k : Keyword) :
    (p.declare s).under k = if s.keyword = k then some s else p.under k := by
  cases s <;> cases k <;> rfl

/-- What is declared later counts. -/
theorem under_merge (p q : Policy) (k : Keyword) :
    (p.merge q).under k = (q.under k).or (p.under k) := by
  cases k with
  | mailboxOnly | daneOnly | authSubmit => simp only [under, merge]; grind
  | protocolVersion | submissionAddress => simp [under, merge, Option.map_or]

/-! ## Declarations one after another -/

/-- Among declarations, the last under a keyword counts. -/
theorem under_foldl_declare (settings : List Setting) (p : Policy) (k : Keyword) :
    (settings.foldl declare p).under k =
      (settings.filter fun s => s.keyword = k).getLast?.or (p.under k) := by
  induction settings generalizing p with
  | nil => rfl
  | cons s settings ih =>
    rw [List.foldl_cons, ih, under_declare]
    by_cases own : s.keyword = k
    -- it is in force unless a later one of its keyword is
    · rw [if_pos own, List.filter_cons_of_pos (by simpa using own), List.getLast?_cons]
      cases (settings.filter fun s => s.keyword = k).getLast? <;> rfl
    · rw [if_neg own, List.filter_cons_of_neg (by simpa using own)]

/-- Declarations are made into a policy of their own, which is then merged. -/
theorem foldl_declare_eq_merge (settings : List Setting) (p : Policy) :
    settings.foldl declare p = p.merge (settings.foldl declare empty) := by
  apply ext_under
  intro k
  rw [under_merge, under_foldl_declare, under_foldl_declare settings empty, under_empty,
    Option.or_none]

/-! ## The declarations of a policy -/

/-- The settings of a policy are those that it has under their keywords. -/
theorem mem_settings_iff : s ∈ p.settings ↔ p.under s.keyword = some s := by
  simp only [settings, List.mem_append, Option.mem_toList]
  cases s <;> simp [under, Setting.keyword]

/-- A policy declares all that is set in it, and so it is made up again. -/
theorem foldl_declare_settings (p : Policy) : p.settings.foldl declare empty = p := by
  -- one case for each choice of the fields that are set
  obtain ⟨mailboxOnly, daneOnly, authSubmit, version, address⟩ := p
  cases mailboxOnly <;> cases daneOnly <;> cases authSubmit <;> cases version <;> cases address <;>
    rfl

end KeyDirectory.Policy
