import KeyDirectory.Proofs.Mail.Rendering
import KeyDirectory.Proofs.Policy.Files
import KeyDirectory.Proofs.Text.Numeral

/-!
# Reading policies that were written

A policy is written with one line for each field that is set, and an address in it without its name.
Each of these lines makes its declaration again (`declares_line`), and none holds a character that ends
lines (`Setting.Writable.solid_line`), so that they come apart as they were put together. The policy
they make up is the one that was written, without the name (`File.ofText_toText_of_writable`).

That asks of a policy what every policy that was read has (`fitsInt32_ofText`, `parts_ofText`), and of
the local part of its address that it holds no opening bracket. The main result is
`File.ofText_toText`.
-/

namespace KeyDirectory

open KeyDirectory.Text

def MailAddress.nameless (m : MailAddress) : MailAddress :=
  { m with displayName := none }

namespace Policy

/-- The declaration, of an address without its name. -/
def Setting.nameless : Setting → Setting
  | .submissionAddress m => .submissionAddress m.nameless
  | s => s

/-- The policy, its address without the name. -/
def nameless (p : Policy) : Policy :=
  { p with submissionAddress := p.submissionAddress.map MailAddress.nameless }

/-- An address that is read back from its text: its pieces are those of an address, and no bracket in
the local part is taken for the one before an address. -/
structure Legible (m : MailAddress) : Prop where
  parts : MailAddress.Parts m.user.toList m.host.toList
  noBracket : '<' ∉ m.user.toList

/-- What can be read back from the line of a declaration. -/
inductive Setting.Writable : Setting → Prop where
  | mailboxOnly : Writable .mailboxOnly
  | daneOnly : Writable .daneOnly
  | authSubmit : Writable .authSubmit
  | protocolVersion {version : Int} (fits : fitsInt32 version = true) :
    Writable (.protocolVersion version)
  | submissionAddress {m : MailAddress} (legible : Legible m) : Writable (.submissionAddress m)

/-! ## One line -/

theorem Keyword.solid_name (k : Keyword) : ∀ c ∈ k.name.toList, isBlank c = false := by
  cases k <;> exact Unicode.forall_mem_of_all (by decide)

theorem Keyword.colon_not_mem_name (k : Keyword) : ':' ∉ k.name.toList := by
  cases k <;> decide

theorem Keyword.name_ne_nil (k : Keyword) : k.name.toList ≠ [] := by
  cases k <;> decide

/-- A line with a keyword and a value is taken apart again. -/
theorem keyValue_line {k : Keyword} {value : List Char} (solid : ∀ c ∈ value, isBlank c = false) :
    keywordText (k.name.toList ++ ':' :: ' ' :: value) = k.name.toList ∧
      valueText (k.name.toList ++ ':' :: ' ' :: value) = value := by
  obtain ⟨keyword, value_eq⟩ := keyValue_append_cons k.colon_not_mem_name (' ' :: value)
  have blank : trim (' ' :: value) = trim value := rfl
  rw [keyword, value_eq, blank, trim_eq_self k.solid_name, trim_eq_self solid]
  exact ⟨rfl, rfl⟩

/-- A line of a keyword alone carries it. -/
theorem carries_name (k : Keyword) : Carries k.name.toList k := by
  have cut := keyValue_trim k.name.toList
  rw [keyValue, trim_eq_self k.solid_name, splitFirst_eq_none_iff.mpr k.colon_not_mem_name] at cut
  simp only [trim_eq_self k.solid_name] at cut
  rw [Carries, ← (Prod.mk.inj cut).1, k.lower_name]

/-- A setting with a value is written as the keyword, a colon and the value. -/
theorem toList_line_of_value {s : Setting} {value : String} (h : s.value? = some value) :
    s.line.toList = s.keyword.name.toList ++ ':' :: ' ' :: value.toList := by
  simp [Setting.line, h]

theorem toList_line_of_flag {s : Setting} (h : s.value? = none) :
    s.line.toList = s.keyword.name.toList := by
  simp [Setting.line, h]

/-- A value is written without white space. -/
theorem Setting.Writable.solid_value {s : Setting} (writable : s.Writable) {value : String}
    (h : s.value? = some value) : value.toList ≠ [] ∧ ∀ c ∈ value.toList, isBlank c = false := by
  cases writable with
  | mailboxOnly | daneOnly | authSubmit => contradiction
  | @protocolVersion version fits =>
    obtain rfl := Option.some.inj h
    exact ⟨toString_ne_nil version, solid_toString version⟩
  | @submissionAddress m legible =>
    obtain rfl := Option.some.inj h
    rw [MailAddress.toList_address]
    exact ⟨by simp, legible.parts.solid⟩

/-- A line is not empty, and all that is blank on it is the space before a value. -/
theorem Setting.Writable.solid_line {s : Setting} (writable : s.Writable) :
    s.line.toList ≠ [] ∧ ∀ c ∈ s.line.toList, isBlank c = true → c = ' ' := by
  have inName : ∀ c ∈ s.keyword.name.toList, isBlank c = true → c = ' ' := by
    intro c mem blank
    rw [s.keyword.solid_name c mem] at blank
    contradiction
  cases h : s.value? with
  | none =>
    rw [toList_line_of_flag h]
    exact ⟨s.keyword.name_ne_nil, inName⟩
  | some value =>
    rw [toList_line_of_value h]
    refine ⟨by simp, ?_⟩
    intro c mem blank
    simp only [List.mem_append, List.mem_cons] at mem
    rcases mem with mem | rfl | rfl | mem
    · exact inName c mem blank
    · contradiction
    · rfl
    · rw [(writable.solid_value h).2 c mem] at blank
      contradiction

/-- What is written on a line is read again, but for the name of an address. -/
theorem declares_line {s : Setting} (writable : s.Writable) : Declares s.line.toList s.nameless := by
  have carries : ∀ value, s.value? = some value → Carries s.line.toList s.keyword ∧
      valueText s.line.toList = value.toList := by
    intro value h
    obtain ⟨-, solid⟩ := writable.solid_value h
    obtain ⟨keyword, value_eq⟩ := keyValue_line (k := s.keyword) solid
    rw [toList_line_of_value h, Carries, keyword, s.keyword.lower_name]
    exact ⟨rfl, value_eq⟩
  cases writable with
  | mailboxOnly => exact .mailboxOnly (carries_name .mailboxOnly)
  | daneOnly => exact .daneOnly (carries_name .daneOnly)
  | authSubmit => exact .authSubmit (carries_name .authSubmit)
  | @protocolVersion version fits =>
    obtain ⟨keyword, value_eq⟩ := carries _ rfl
    refine .protocolVersion keyword ?_
    rw [value_eq]
    exact readInt32?_toString fits
  | @submissionAddress m legible =>
    obtain ⟨keyword, value_eq⟩ := carries _ rfl
    refine .submissionAddress keyword ?_
    rw [value_eq]
    exact MailAddress.ofText_address_of_not_mem legible.parts legible.noBracket

/-! ## Whole policies -/

/-- The settings are those of the policy, but for names. -/
theorem settings_nameless (p : Policy) : p.nameless.settings = p.settings.map Setting.nameless := by
  obtain ⟨mailboxOnly, daneOnly, authSubmit, version, address⟩ := p
  cases mailboxOnly <;> cases daneOnly <;> cases authSubmit <;> cases version <;> cases address <;>
    rfl

/-- Declarations alone are the lines of their policy. -/
theorem File.ofLines_settings (p : Policy) :
    File.ofLines (p.settings.map Line.setting) = ⟨p, []⟩ := by
  have settings : settingsOf (p.settings.map Line.setting) = p.settings := by
    rw [settingsOf, List.filterMap_map]
    exact List.filterMap_some
  have unreported : errorsFrom 1 (p.settings.map Line.setting) = [] := by
    apply errorsFrom_eq_nil
    intro line mem number
    obtain ⟨s, -, rfl⟩ := List.mem_map.mp mem
    rfl
  rw [File.ofLines_eq, settings, unreported, foldl_declare_settings]

/-- A policy is read back from its text, if each of its settings can be. -/
theorem File.ofText_toText_of_writable {p : Policy} (writable : ∀ s ∈ p.settings, s.Writable) :
    File.ofText p.toText = ⟨p.nameless, []⟩ := by
  have pieces : textLines p.toText.toList = p.settings.map fun s => s.line.toList := by
    rw [toText, String.toList_intercalate, List.map_map]
    apply textLines_intercalate
    intro piece mem
    obtain ⟨s, declared, rfl⟩ := List.mem_map.mp mem
    obtain ⟨nonempty, solid⟩ := (writable s declared).solid_line
    exact ⟨nonempty, fun mem => absurd (solid _ mem (by decide)) (by decide),
      fun mem => absurd (solid _ mem (by decide)) (by decide)⟩
  have read : (textLines p.toText.toList).map Line.read =
      p.nameless.settings.map Line.setting := by
    rw [pieces, settings_nameless, List.map_map, List.map_map]
    apply List.map_congr_left
    intro s declared
    exact Line.read_of_declares (declares_line (writable s declared))
  rw [File.ofText, read, File.ofLines_settings]

/-- The settings of a policy can be written, if its version and its address can. -/
theorem writable_of_mem {p : Policy} (fits : ∀ v ∈ p.protocolVersion, fitsInt32 v = true)
    (legible : ∀ m ∈ p.submissionAddress, Legible m) : ∀ s ∈ p.settings, s.Writable := by
  intro s mem
  have declared := mem_settings_iff.mp mem
  cases s with
  | mailboxOnly => exact .mailboxOnly
  | daneOnly => exact .daneOnly
  | authSubmit => exact .authSubmit
  | protocolVersion version =>
    obtain ⟨v, inPolicy, same⟩ := Option.map_eq_some_iff.mp declared
    obtain rfl := Setting.protocolVersion.inj same
    exact .protocolVersion (fits v inPolicy)
  | submissionAddress m =>
    obtain ⟨m', inPolicy, same⟩ := Option.map_eq_some_iff.mp declared
    obtain rfl := Setting.submissionAddress.inj same
    exact .submissionAddress (legible m' inPolicy)

/-- A version that was read fits 32 bits. -/
theorem fitsInt32_ofText (text : String) :
    ∀ v ∈ (File.ofText text).policy.protocolVersion, fitsInt32 v = true := by
  intro version declared
  rw [File.ofText, protocolVersion_ofLines] at declared
  obtain ⟨line, -, value⟩ := List.mem_filterMap.mp (List.mem_of_getLast? declared)
  have declares := ((declares_protocolVersion_iff line _).mpr ⟨version, value, rfl⟩).1
  cases declares with
  | protocolVersion _ read => exact fitsInt32_of_readInt32? read

/-- An address that was read has the pieces of an address. -/
theorem parts_ofText (text : String) :
    ∀ m ∈ (File.ofText text).policy.submissionAddress,
      MailAddress.Parts m.user.toList m.host.toList := by
  intro m declared
  rw [File.ofText, submissionAddress_ofLines] at declared
  obtain ⟨line, -, value⟩ := List.mem_filterMap.mp (List.mem_of_getLast? declared)
  have declares := ((declares_submissionAddress_iff line _).mpr ⟨m, value, rfl⟩).1
  cases declares with
  | submissionAddress _ read => exact (MailAddress.form_of_read read).parts

/-- A policy that was read, and whose address has no opening bracket in its local part, is read again
from what it looks like: nothing is reported, and only the name of the address is lost. Whatever the
fields that are set, the version of 32 bits and the pieces of the address, a policy without such a
bracket is read from some text. -/
theorem File.ofText_toText :
    (∀ text : String, (∀ m ∈ (File.ofText text).policy.submissionAddress, '<' ∉ m.user.toList) →
      File.ofText (File.ofText text).policy.toText = ⟨(File.ofText text).policy.nameless, []⟩) ∧
    ∀ p : Policy, (∀ v ∈ p.protocolVersion, -2147483648 ≤ v ∧ v ≤ 2147483647) →
      (∀ m ∈ p.submissionAddress, m.displayName = none ∧ Legible m) →
      ∃ text, File.ofText text = ⟨p, []⟩ := by
  constructor
  · intro text noBracket
    exact File.ofText_toText_of_writable
      (writable_of_mem (fitsInt32_ofText text) fun m declared =>
        ⟨parts_ofText text m declared, noBracket m declared⟩)
  · intro p fits legible
    have whole : p.nameless = p := by
      obtain ⟨mailboxOnly, daneOnly, authSubmit, version, address⟩ := p
      cases address with
      | none => rfl
      | some m =>
        obtain ⟨displayName, user, host⟩ := m
        obtain rfl : displayName = none := (legible _ rfl).1
        rfl
    refine ⟨p.toText, ?_⟩
    rw [File.ofText_toText_of_writable, whole]
    apply writable_of_mem
    · intro v declared
      simpa [fitsInt32] using fits v declared
    · exact fun m declared => (legible m declared).2

/-- A policy with all its fields, a name, and a local part that holds what starts a comment and what
ends a keyword. -/
theorem ofText_toText_all_fields :
    let text := "# ours\nDANE-only: no\r\nauth-submit\nprotocol-version: -2147483648\n" ++
      "mailbox-only\nsubmission-address: Keys <#a:b@Example.org>"
    let p : Policy :=
      ⟨true, true, true, some (-2147483648), some ⟨some "Keys", "#a:b", "Example.org"⟩⟩
    File.ofText text = ⟨p, []⟩ ∧ File.ofText p.toText = ⟨p.nameless, []⟩ ∧
      ∃ text, File.ofText text = ⟨p.nameless, []⟩ := by
  intro text p
  have read : File.ofText text = ⟨p, []⟩ := by decide +kernel
  have parts := parts_ofText text
  have back := File.ofText_toText.1 text
  rw [read] at parts back
  have noBracket : ∀ m ∈ p.submissionAddress, '<' ∉ m.user.toList := by
    rintro m ⟨⟩
    decide
  refine ⟨read, back noBracket, File.ofText_toText.2 p.nameless ?_ ?_⟩
  · rintro v ⟨⟩
    decide
  · rintro m ⟨⟩
    exact ⟨rfl, parts ⟨some "Keys", "#a:b", "Example.org"⟩ rfl, by decide⟩

end Policy

end KeyDirectory
