import KeyDirectory.Policy.File
import KeyDirectory.Proofs.Text.Lines
import KeyDirectory.Proofs.Text.Stripping

/-!
# The lines of a policy file

What a line says, without the reader: it is silent (`Silent`), it makes a declaration (`Declares`), or
there is something wrong with it (`Faulty`). The reader tells exactly that (`Line.read_eq_void_iff`,
`Line.read_eq_setting_iff`, `Line.read_eq_defective_iff`), so that every line is of one of the three
kinds, and only of one.
-/

namespace KeyDirectory.Policy

open KeyDirectory.Text

/-- A line that says nothing: blank, or a comment. -/
def Silent (line : List Char) : Prop :=
  trim line = [] ∨ (trim line).head? = some '#'

/-- The text before the first colon of a line; without a colon it is the whole line. -/
def keywordText (line : List Char) : List Char :=
  trim ((trim line).takeWhile (· ≠ ':'))

/-- The text after the first colon of a line; without a colon there is none. -/
def valueText (line : List Char) : List Char :=
  trim (((trim line).dropWhile (· ≠ ':')).drop 1)

/-- A line carries a keyword that it spells in any case. -/
def Carries (line : List Char) (k : Keyword) : Prop :=
  Unicode.lower (keywordText line) = k.name.toList

instance : DecidablePred Silent :=
  fun _ => inferInstanceAs (Decidable (_ ∨ _))

instance (line : List Char) : DecidablePred (Carries line) :=
  fun _ => inferInstanceAs (Decidable (_ = _))

/-- A line makes a declaration. A flag is declared whatever the value; the other two keywords need a
value of their kind. -/
inductive Declares (line : List Char) : Setting → Prop where
  | mailboxOnly (keyword : Carries line .mailboxOnly) : Declares line .mailboxOnly
  | daneOnly (keyword : Carries line .daneOnly) : Declares line .daneOnly
  | authSubmit (keyword : Carries line .authSubmit) : Declares line .authSubmit
  | protocolVersion {version : Int} (keyword : Carries line .protocolVersion)
    (value : readInt32? (valueText line) = some version) :
    Declares line (.protocolVersion version)
  | submissionAddress {address : MailAddress} (keyword : Carries line .submissionAddress)
    (value : MailAddress.read (valueText line) = .ok address) :
    Declares line (.submissionAddress address)

/-- Something is wrong with a line that is not silent. -/
inductive Faulty (line : List Char) : LineDefect → Prop where
  | unknownKeyword (spoken : ¬ Silent line) (unknown : ∀ k, ¬ Carries line k) :
    Faulty line (.unknownKeyword (String.ofList (keywordText line)))
  | invalidNumber (keyword : Carries line .protocolVersion)
    (value : readInt32? (valueText line) = none) :
    Faulty line (.invalidNumber (String.ofList (valueText line)))
  | invalidAddress {defect : MailAddress.Defect} (keyword : Carries line .submissionAddress)
    (value : MailAddress.read (valueText line) = .error defect) :
    Faulty line (.invalidAddress (String.ofList (valueText line)))

variable {line : List Char} {k : Keyword} {s : Setting} {d : LineDefect}

/-! ## Keywords -/

/-- White space around a line shows neither in its keyword nor in its value. -/
theorem keyValue_trim (line : List Char) :
    keyValue (trim line) = (keywordText line, valueText line) := by
  have noneOf : ∀ text : List Char, ':' ∉ text → ∀ c ∈ text, decide (c ≠ ':') = true := by
    intro text absent c mem
    simpa using fun (same : c = ':') => absent (same ▸ mem)
  unfold keyValue keywordText valueText
  split
  · next keyword value cut =>
    obtain ⟨whole, noColon⟩ := splitFirst_eq_some cut
    have before := noneOf keyword noColon
    rw [whole, List.takeWhile_append_of_pos before, List.dropWhile_append_of_pos before]
    simp
  · next uncut =>
    have all := noneOf (trim line) (splitFirst_eq_none_iff.mp uncut)
    rw [List.takeWhile_eq_self_iff.mpr all, List.dropWhile_eq_nil_iff.mpr all]
    rfl

/-- The first colon parts a line, each side of which is trimmed. -/
theorem keyValue_append_cons {keyword : List Char} (noColon : ':' ∉ keyword) (value : List Char) :
    keywordText (keyword ++ ':' :: value) = trim keyword ∧
      valueText (keyword ++ ':' :: value) = trim value := by
  have noColonLeft : ':' ∉ trimStart keyword :=
    fun mem => noColon ((List.dropWhile_sublist _).subset mem)
  have cut := keyValue_trim (keyword ++ ':' :: value)
  rw [trim_append_cons (by decide), keyValue, splitFirst_append_cons noColonLeft] at cut
  simp only [trim_trimStart, trim_trimEnd] at cut
  obtain ⟨keyword_eq, value_eq⟩ := Prod.mk.inj cut
  exact ⟨keyword_eq.symm, value_eq.symm⟩

/-- A text spells a keyword iff its lower-cased form is the name. -/
theorem Keyword.ofText?_eq_some_iff {text : List Char} :
    Keyword.ofText? text = some k ↔ Unicode.lower text = k.name.toList := by
  unfold Keyword.ofText?
  generalize Unicode.lower text = lowered
  constructor
  · intro found
    have same := List.find?_some found
    exact (eq_of_beq same).symm
  · rintro rfl
    cases k <;> decide

theorem Keyword.lower_name (k : Keyword) : Unicode.lower k.name.toList = k.name.toList := by
  cases k <;> decide

theorem ofText?_keywordText : Keyword.ofText? (keywordText line) = some k ↔ Carries line k :=
  Keyword.ofText?_eq_some_iff

/-- What starts with a character that is not blank still does when it is trimmed. -/
theorem head?_trim_cons {c : Char} (solid : isBlank c = false) (text : List Char) :
    (trim (c :: text)).head? = some c := by
  have trimmed : trim (c :: text) = c :: trimEnd text := trim_append_cons solid [] text
  rw [trimmed, List.head?_cons]

theorem Keyword.head?_name (k : Keyword) : k.name.toList.head? ≠ some '#' := by
  cases k <;> decide

/-- No keyword is empty, and none starts like a comment. -/
theorem Carries.not_silent (carries : Carries line k) : ¬ Silent line := by
  unfold Carries keywordText at carries
  rintro (blank | comment)
  · rw [blank] at carries
    cases k <;> contradiction
  · obtain ⟨rest, same⟩ := List.head?_eq_some_iff.mp comment
    rw [same, List.takeWhile_cons_of_pos (by decide)] at carries
    have first := head?_trim_cons (c := '#') (by decide) (rest.takeWhile (· ≠ ':'))
    obtain ⟨more, start⟩ := List.head?_eq_some_iff.mp first
    rw [start] at carries
    exact k.head?_name (congrArg List.head? carries).symm

/-! ## What the reader tells -/

/-- The reader takes no notice of white space around a line. -/
theorem Line.read_congr {line' : List Char} (h : trim line = trim line') :
    Line.read line = Line.read line' := by
  simp only [Line.read, h]

/-- A final carriage return does not show in what a line means. -/
theorem Line.read_dropFinal (line : List Char) : Line.read (dropFinal '\r' line) = Line.read line :=
  Line.read_congr (trim_dropFinal (by decide) line)

/-- A line that declares a setting carries its keyword. -/
theorem Declares.carries (declares : Declares line s) : Carries line s.keyword := by
  cases declares <;> assumption

/-- The keyword of a line decides with its value. -/
theorem Declares.of_setting (carries : Carries line k) (h : k.setting (valueText line) = .ok s) :
    Declares line s := by
  unfold Keyword.setting at h
  split at h
  · obtain rfl := Except.ok.inj h
    exact .mailboxOnly carries
  · obtain rfl := Except.ok.inj h
    exact .daneOnly carries
  · obtain rfl := Except.ok.inj h
    exact .authSubmit carries
  · split at h
    · next version value =>
      obtain rfl := Except.ok.inj h
      exact .protocolVersion carries value
    · contradiction
  · split at h
    · next address value =>
      obtain rfl := Except.ok.inj h
      exact .submissionAddress carries value
    · contradiction

/-- A line whose value does not fit its keyword is faulty. -/
theorem Faulty.of_setting (carries : Carries line k)
    (h : k.setting (valueText line) = .error d) : Faulty line d := by
  unfold Keyword.setting at h
  split at h
  · contradiction
  · contradiction
  · contradiction
  · split at h
    · contradiction
    · next value =>
      obtain rfl := Except.error.inj h
      exact .invalidNumber carries value
  · split at h
    · contradiction
    · next value =>
      obtain rfl := Except.error.inj h
      exact .invalidAddress carries value

/-- What a line declares is the setting of its keyword and its value. -/
theorem Declares.setting_eq (declares : Declares line s) :
    s.keyword.setting (valueText line) = .ok s := by
  cases declares with
  | mailboxOnly | daneOnly | authSubmit => rfl
  | protocolVersion _ value | submissionAddress _ value =>
    simp only [Setting.keyword, Keyword.setting, value]

theorem readSetting_of_carries (carries : Carries line k) :
    readSetting (trim line) = k.setting (valueText line) := by
  simp only [readSetting, keyValue_trim, ofText?_keywordText.mpr carries]

theorem readSetting_of_unknown (unknown : ∀ k, ¬ Carries line k) :
    readSetting (trim line) = .error (.unknownKeyword (String.ofList (keywordText line))) := by
  have none_found : Keyword.ofText? (keywordText line) = none := by
    cases found : Keyword.ofText? (keywordText line) with
    | none => rfl
    | some k => exact absurd (ofText?_keywordText.mp found) (unknown k)
  simp only [readSetting, keyValue_trim, none_found]

/-- A silent line means nothing. -/
theorem Line.read_of_silent (silent : Silent line) : Line.read line = .void := by
  unfold Line.read
  split
  · rfl
  · rfl
  · next blank comment =>
    rcases silent with empty | hash
    · exact absurd empty blank
    · obtain ⟨rest, same⟩ := List.head?_eq_some_iff.mp hash
      exact absurd same (comment rest)

/-- A line that is not silent is read by its keyword and its value. -/
theorem Line.read_of_not_silent (spoken : ¬ Silent line) :
    Line.read line =
      match readSetting (trim line) with
      | .ok s => .setting s
      | .error defect => .defective (String.ofList (trim line)) defect := by
  unfold Line.read
  split
  · next blank => exact absurd (.inl blank) spoken
  · next comment => exact absurd (.inr (by rw [comment]; rfl)) spoken
  · rfl

theorem Line.read_of_declares (declares : Declares line s) : Line.read line = .setting s := by
  rw [Line.read_of_not_silent declares.carries.not_silent,
    readSetting_of_carries declares.carries, declares.setting_eq]

theorem Line.read_of_faulty (faulty : Faulty line d) :
    Line.read line = .defective (String.ofList (trim line)) d := by
  cases faulty with
  | unknownKeyword spoken unknown =>
    rw [Line.read_of_not_silent spoken, readSetting_of_unknown unknown]
  | invalidNumber keyword value | invalidAddress keyword value =>
    rw [Line.read_of_not_silent keyword.not_silent, readSetting_of_carries keyword]
    simp only [Keyword.setting, value]

/-- Every line is of one of the three kinds. -/
theorem kinds (line : List Char) :
    Silent line ∨ (∃ s, Declares line s) ∨ ∃ d, Faulty line d := by
  by_cases silent : Silent line
  · exact .inl silent
  right
  by_cases known : ∃ k, Carries line k
  · obtain ⟨k, carries⟩ := known
    cases value : k.setting (valueText line) with
    | ok s => exact .inl ⟨s, .of_setting carries value⟩
    | error d => exact .inr ⟨d, .of_setting carries value⟩
  · exact .inr ⟨_, .unknownKeyword silent fun k carries => known ⟨k, carries⟩⟩

/-- A line that declares something has no defect. -/
theorem Declares.not_faulty (declares : Declares line s) : ¬ Faulty line d := by
  intro faulty
  have read := Line.read_of_declares declares
  rw [Line.read_of_faulty faulty] at read
  contradiction

/-- A line with a defect is not silent. -/
theorem Faulty.not_silent (faulty : Faulty line d) : ¬ Silent line := by
  cases faulty with
  | unknownKeyword spoken _ => exact spoken
  | invalidNumber keyword _ | invalidAddress keyword _ => exact keyword.not_silent

/-- A line that says something makes a declaration or is faulty. -/
theorem not_silent_iff : ¬ Silent line ↔ (∃ s, Declares line s) ∨ ∃ d, Faulty line d := by
  constructor
  · exact (kinds line).resolve_left
  · rintro (⟨s, declares⟩ | ⟨d, faulty⟩)
    · exact declares.carries.not_silent
    · exact faulty.not_silent

/-- A line means nothing iff it is silent. -/
theorem Line.read_eq_void_iff : Line.read line = .void ↔ Silent line := by
  refine ⟨?_, Line.read_of_silent⟩
  intro read
  rcases kinds line with silent | ⟨s, declares⟩ | ⟨d, faulty⟩
  · exact silent
  · simp [Line.read_of_declares declares] at read
  · simp [Line.read_of_faulty faulty] at read

/-- A line is read as a setting iff it declares it. -/
theorem Line.read_eq_setting_iff : Line.read line = .setting s ↔ Declares line s := by
  refine ⟨?_, Line.read_of_declares⟩
  intro read
  rcases kinds line with silent | ⟨s', declares⟩ | ⟨d, faulty⟩
  · simp [Line.read_of_silent silent] at read
  · rw [Line.read_of_declares declares] at read
    rwa [← Line.setting.inj read]
  · simp [Line.read_of_faulty faulty] at read

/-- A line is read as defective iff it is faulty, and is kept as it stands without the white space
around it. -/
theorem Line.read_eq_defective_iff {text : String} :
    Line.read line = .defective text d ↔ Faulty line d ∧ text = String.ofList (trim line) := by
  constructor
  · intro read
    rcases kinds line with silent | ⟨s, declares⟩ | ⟨d', faulty⟩
    · simp [Line.read_of_silent silent] at read
    · simp [Line.read_of_declares declares] at read
    · rw [Line.read_of_faulty faulty] at read
      obtain ⟨rfl, rfl⟩ := Line.defective.inj read
      exact ⟨faulty, rfl⟩
  · rintro ⟨faulty, rfl⟩
    exact Line.read_of_faulty faulty

end KeyDirectory.Policy
