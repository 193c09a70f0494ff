import KeyDirectory.Mail
import KeyDirectory.Proofs.Errors
import KeyDirectory.Proofs.Text.Stripping
import KeyDirectory.Proofs.Unicode.Ascii

/-!
# The parts of a mail address

A local part and a host are the parts of an address that was read (`Parts`) if and only if reading
the text with `@` between them gives them back (`readBare_eq_ok_iff`). Both forms of an address are
read by `readBare` in the end: `read_eq_ok_iff` says which texts are read, as what, by the form
(`Form`) that they have once they are trimmed.
-/

namespace KeyDirectory.MailAddress

open KeyDirectory.Text KeyDirectory.Unicode

/-- Bad in a host are the ASCII characters that host names do not have. -/
theorem isBadHostChar_iff {c : Char} :
    isBadHostChar c = true ↔ c.toNat < 128 ∧ ¬ (c.isAlphanum = true ∨ c = '-' ∨ c = '.') := by
  simp [isBadHostChar, and_assoc]

/-- A text that the check for bad characters lets through as a host. The ASCII characters in it are
letters, digits, `-` and `.`. -/
structure HostText (text : List Char) : Prop where
  ne_nil : text ≠ []
  fit : ∀ c ∈ text, isBadHostChar c = false

namespace HostText

variable {text : List Char}

theorem not_mem (host : HostText text) {c : Char} (bad : isBadHostChar c = true) : c ∉ text := by
  intro mem
  rw [host.fit c mem] at bad
  contradiction

theorem visible (host : HostText text) : ∀ c ∈ text, 32 < c.toNat := by
  intro c mem
  by_cases ascii : c.toNat < 128
  · exact forall_ascii (P := fun c => isBadHostChar c = false → 32 < c.toNat) (by decide) ascii
      (host.fit c mem)
  · omega

theorem map_toLower (host : HostText text) (ascii : isAscii text = true) :
    HostText (text.map Char.toLower) where
  ne_nil := by simpa using host.ne_nil
  fit := by
    intro c mem
    obtain ⟨d, inText, rfl⟩ := List.mem_map.mp mem
    exact forall_ascii (P := fun c => isBadHostChar c = false → isBadHostChar c.toLower = false)
      (by decide) (isAscii_iff.mp ascii d inText) (host.fit d inText)

end HostText

/-- What the reader checks of a local part and a host. -/
structure Parts (user host : List Char) : Prop where
  user_ne_nil : user ≠ []
  user_solid : ∀ c ∈ user, isBlank c = false
  at_not_mem_user : '@' ∉ user
  host_solid : ∀ c ∈ host, isBlank c = false
  host_text : HostText host

namespace Parts

variable {user host : List Char}

/-- Nothing is blank in an address. -/
theorem solid (parts : Parts user host) : ∀ c ∈ user ++ '@' :: host, isBlank c = false := by
  intro c mem
  rcases List.mem_append.mp mem with inUser | atOrHost
  · exact parts.user_solid c inUser
  · rcases List.mem_cons.mp atOrHost with rfl | inHost
    · decide
    · exact parts.host_solid c inHost

end Parts

/-- A text without brackets is read as its two parts, if they are fit. -/
theorem readBare_eq_ok_iff {text user host : List Char} :
    readBare text = .ok (user, host) ↔ text = user ++ '@' :: host ∧ Parts user host := by
  constructor
  · intro h
    unfold readBare at h
    -- each check that fails is an error, so the reader has come to its end
    split at h
    · contradiction
    next solid =>
    split at h
    · contradiction
    next before after cut =>
    obtain ⟨rfl, -⟩ := splitLast_eq_some cut
    split at h
    · contradiction
    next single =>
    split at h
    · contradiction
    next someUser =>
    split at h
    · contradiction
    next someHost =>
    split at h
    · contradiction
    next fit =>
    obtain ⟨rfl, rfl⟩ := Prod.mk.inj (Except.ok.inj h)
    simp only [List.any_append, List.any_cons, Bool.or_eq_true, not_or, List.any_eq_true,
      not_exists, not_and, Bool.not_eq_true] at solid
    exact ⟨rfl, {
      user_ne_nil := by simpa using someUser
      user_solid := solid.1
      at_not_mem_user := single
      host_solid := solid.2.2
      host_text := ⟨by simpa using someHost, by simpa using fit⟩ }⟩
  · rintro ⟨rfl, parts⟩
    have solid : (user ++ '@' :: host).any isBlank = false := by
      rw [List.any_eq_false]
      intro c mem
      simp [parts.solid c mem]
    have fit : host.find? isBadHostChar = none := by
      simpa using parts.host_text.fit
    have at_not_mem : '@' ∉ host := parts.host_text.not_mem (by decide)
    simp [readBare, solid, splitLast_append_cons user at_not_mem, parts.at_not_mem_user,
      parts.user_ne_nil, parts.host_text.ne_nil, fit]

/-! ## The two forms -/

/-- A text, already trimmed, in one of the two forms of a mail address. -/
inductive Form : List Char → MailAddress → Prop where
  /-- The address alone. -/
  | bare {user host : List Char} (parts : Parts user host) (noBracket : '<' ∉ user) :
    Form (user ++ '@' :: host) ⟨none, String.ofList user, String.ofList host⟩
  /-- The address in angle brackets, after a name that may be blank. Brackets further in belong to
  the local part. -/
  | bracketed {name inner user host : List Char} (noBracket : '<' ∉ name)
    (trimmed : trim inner = user ++ '@' :: host) (parts : Parts user host) :
    Form (name ++ '<' :: (inner ++ ['>'])) ⟨readName name, String.ofList user, String.ofList host⟩

/-- The parts of an address in one of the forms are fit. -/
theorem Form.parts {text : List Char} {m : MailAddress} (form : Form text m) :
    Parts m.user.toList m.host.toList := by
  cases form with
  | bare parts | bracketed _ _ parts => simpa only [String.toList_ofList] using parts

/-- A text in one of the forms is read. -/
theorem read_of_form {text : List Char} {m : MailAddress} (form : Form (trim text) m) :
    read text = .ok m := by
  unfold read
  generalize trim text = trimmed at form
  cases form with
  | @bare user host parts noBracket =>
    have bracket_not_mem : '<' ∉ user ++ '@' :: host := by
      simpa [noBracket] using parts.host_text.not_mem (by decide)
    have parsed := readBare_eq_ok_iff.mpr ⟨rfl, parts⟩
    simp [splitFirst_eq_none_iff.mpr bracket_not_mem, parsed, Except.map]
  | @bracketed name inner user host noBracket trimmed parts =>
    have parsed := readBare_eq_ok_iff.mpr ⟨trimmed, parts⟩
    simp [splitFirst_append_cons noBracket, parsed, Except.map]

/-- What is read is in one of the forms. -/
theorem form_of_read {text : List Char} {m : MailAddress} (h : read text = .ok m) :
    Form (trim text) m := by
  unfold read at h
  simp only at h
  split at h
  · contradiction
  split at h
  · next unsplit =>
    obtain ⟨⟨user, host⟩, parsed, rfl⟩ := map_eq_ok_iff.mp h
    obtain ⟨same, parts⟩ := readBare_eq_ok_iff.mp parsed
    have bracket_not_mem := splitFirst_eq_none_iff.mp unsplit
    rw [same] at bracket_not_mem ⊢
    exact .bare parts fun mem => bracket_not_mem (List.mem_append_left _ mem)
  · next name rest cut =>
    split at h
    · next closed =>
      obtain ⟨inner, rfl⟩ := List.getLast?_eq_some_iff.mp closed
      rw [List.dropLast_concat] at h
      obtain ⟨⟨user, host⟩, parsed, rfl⟩ := map_eq_ok_iff.mp h
      obtain ⟨same, parts⟩ := readBare_eq_ok_iff.mp parsed
      obtain ⟨whole, noBracket⟩ := splitFirst_eq_some cut
      rw [whole]
      exact .bracketed noBracket same parts
    · contradiction

/-- The reader accepts the forms, and nothing else. -/
theorem read_eq_ok_iff {text : List Char} {m : MailAddress} :
    read text = .ok m ↔ Form (trim text) m :=
  ⟨form_of_read, read_of_form⟩

/-- Trimming a text first makes no difference. -/
theorem read_trim (text : List Char) : read (trim text) = read text := by
  rw [read, read, trim_trim]

end KeyDirectory.MailAddress
