import KeyDirectory.Proofs.Client.Lookups
import KeyDirectory.Proofs.Policy.Keywords
import KeyDirectory.Proofs.Policy.Reading
import KeyDirectory.Proofs.Policy.Rendering

/-!
# The two places of a submission address

A domain can publish the address for submissions in a file of its own, or on a line of its policy
file. `Publishes` says which lines publish a text; whatever the spelling and the spacing, the value of
such a line is the text without the white space around it (`Publishes.valueText_eq`). A lookup trims
the file in the same way, so that both are read by the same reader in the end: what that makes of the
text decides what the policy file holds (`File.ofText_of_publishes`) and how the lookup ends
(`Client.result_submissionAddress`).
-/

namespace KeyDirectory

open KeyDirectory.Text KeyDirectory.Text.Utf8 KeyDirectory.Unicode

namespace Policy

/-- A line of a policy file publishes a text as the submission address: the keyword in any case of its
letters, a colon and the text. White space may stand around the keyword and around the text, as long
as it ends no line. -/
inductive Publishes (text : List Char) : List Char → Prop where
  | line {keyword : String} {first second third last : List Char}
    (spelled : EqUpToCase keyword Keyword.submissionAddress.name)
    (spacing : ∀ c ∈ first ++ second ++ third ++ last, isBlank c = true ∧ c ≠ '\n') :
    Publishes text (first ++ keyword.toList ++ second ++ ':' :: (third ++ text ++ last))

variable {k : Keyword} {keyword : String} {text line : List Char} {file : String}

/-! ## Spellings -/

/-- The case of a letter does not make it white space. -/
theorem isBlank_toLower (c : Char) : isBlank c.toLower = isBlank c := by
  apply apply_toLower
  intro c ascii
  exact forall_ascii (P := fun c => isBlank c.toLower = isBlank c) (by decide) ascii

/-- The letters of a keyword, in whatever case, are those of its name. -/
theorem mem_name_of_mem (spelled : EqUpToCase keyword k.name) {c : Char}
    (mem : c ∈ keyword.toList) : c.toLower ∈ k.name.toList := by
  have lowered := List.mem_map_of_mem (f := Char.toLower) mem
  rwa [spelled, ← lower_eq_map k.isAscii_name, k.lower_name] at lowered

/-- Nothing is blank in a keyword, in whatever case. -/
theorem solid_of_spelled (spelled : EqUpToCase keyword k.name) :
    ∀ c ∈ keyword.toList, isBlank c = false := by
  intro c mem
  rw [← isBlank_toLower]
  exact k.solid_name _ (mem_name_of_mem spelled mem)

theorem colon_not_mem_of_spelled (spelled : EqUpToCase keyword k.name) : ':' ∉ keyword.toList :=
  fun mem => k.colon_not_mem_name (mem_name_of_mem spelled mem)

theorem not_mem_of_blank {c : Char} (solid : isBlank c = false)
    (blank : ∀ d ∈ text, isBlank d = true) : c ∉ text := by
  intro mem
  rw [blank c mem] at solid
  contradiction

/-! ## Lines that publish a text -/

namespace Publishes

/-- Neither the spelling nor the spacing shows in what is read from a line. -/
theorem carries_and_value (publishes : Publishes text line) :
    Carries line .submissionAddress ∧ valueText line = trim text := by
  cases publishes with
  | @line keyword first second third last spelled spacing =>
    have blank : ∀ c ∈ first ++ second ++ third ++ last, isBlank c = true :=
      fun c mem => (spacing c mem).1
    simp only [List.forall_mem_append] at blank
    obtain ⟨⟨⟨first_blank, second_blank⟩, third_blank⟩, last_blank⟩ := blank
    -- so the colon after the keyword is the first one, whatever the text holds
    have colon_not_mem : ':' ∉ first ++ keyword.toList ++ second := by
      simp only [List.mem_append, not_or]
      exact ⟨⟨not_mem_of_blank (by decide) first_blank, colon_not_mem_of_spelled spelled⟩,
        not_mem_of_blank (by decide) second_blank⟩
    obtain ⟨keyword_eq, value_eq⟩ := keyValue_append_cons colon_not_mem (third ++ text ++ last)
    rw [trim_append_append first_blank second_blank, trim_eq_self (solid_of_spelled spelled)]
      at keyword_eq
    rw [trim_append_append third_blank last_blank] at value_eq
    refine ⟨ofText?_keywordText.mp ?_, value_eq⟩
    rw [keyword_eq]
    exact Keyword.ofText?_eq_some_iff_eqUpToCase.mpr spelled

/-- A line that publishes a text has the keyword in front. -/
theorem carries (publishes : Publishes text line) : Carries line .submissionAddress :=
  publishes.carries_and_value.1

/-- A line that publishes a text has this text as its value, trimmed. -/
theorem valueText_eq (publishes : Publishes text line) : valueText line = trim text :=
  publishes.carries_and_value.2

/-- A line that publishes a text without line feeds is a single line. -/
theorem newline_not_mem (publishes : Publishes text line) (unbroken : '\n' ∉ text) :
    '\n' ∉ line := by
  cases publishes with
  | @line keyword first second third last spelled spacing =>
    have unbroken_spacing : '\n' ∉ first ++ second ++ third ++ last :=
      fun mem => (spacing _ mem).2 rfl
    have unbroken_keyword : '\n' ∉ keyword.toList := by
      intro mem
      exact absurd (solid_of_spelled spelled _ mem) (by decide)
    simp only [List.mem_append, List.mem_cons, not_or] at unbroken_spacing ⊢
    obtain ⟨⟨⟨in_first, in_second⟩, in_third⟩, in_last⟩ := unbroken_spacing
    exact ⟨⟨⟨in_first, unbroken_keyword⟩, in_second⟩, by decide, ⟨in_third, unbroken⟩, in_last⟩

/-- An address makes a declaration. -/
theorem declares {m : MailAddress} (publishes : Publishes text line)
    (read : MailAddress.read text = .ok m) : Declares line (.submissionAddress m) := by
  refine .submissionAddress publishes.carries ?_
  rw [publishes.valueText_eq, MailAddress.read_trim, read]

/-- What is no address is reported. -/
theorem faulty {defect : MailAddress.Defect} (publishes : Publishes text line)
    (read : MailAddress.read text = .error defect) :
    Faulty line (.invalidAddress (String.ofList (trim text))) := by
  have value : MailAddress.read (valueText line) = .error defect := by
    rw [publishes.valueText_eq, MailAddress.read_trim, read]
  rw [← publishes.valueText_eq]
  exact .invalidAddress publishes.carries value

end Publishes

/-! ## Files of one line -/

/-- Without a line feed, a file is one line. -/
theorem File.ofText_of_not_mem (unbroken : '\n' ∉ file.toList) :
    File.ofText file = File.feed ⟨Policy.empty, []⟩ 1 (Line.read file.toList) := by
  unfold File.ofText
  by_cases nothing : file.toList = []
  · rw [nothing]
    rfl
  · rw [textLines_of_not_mem unbroken nothing]
    rfl

/-- What a text is read as decides what the file holds that publishes it on a line. -/
theorem File.ofText_of_publishes (unbroken : '\n' ∉ text)
    (publishes : Publishes text file.toList) :
    File.ofText file =
      match MailAddress.read text with
      | .ok m => ⟨{ submissionAddress := some m }, []⟩
      | .error _ => ⟨Policy.empty, [⟨1, trimmed file,
          (LineDefect.invalidAddress (String.ofList (trim text))).message⟩]⟩ := by
  rw [File.ofText_of_not_mem (publishes.newline_not_mem unbroken)]
  split
  · next m read =>
    rw [Line.read_of_declares (publishes.declares read)]
    rfl
  · next defect read =>
    rw [Line.read_of_faulty (publishes.faulty read)]
    rfl

end Policy

/-! ## Lookups -/

namespace Client

variable {client : Client} {clock : Clock} {transport : Transport} {options : LookupOptions}
  {domain : String} {candidates : List Candidate} {elapsed : Duration} {method : Method}
  {text file : String}

/-- A text that is held as UTF-8 is read as it stands. -/
theorem readSubmissionAddress_encode (text : List Char) :
    readSubmissionAddress (encode text) =
      (MailAddress.read text).mapError (.invalidMailAddress (String.ofList (trim text))) := by
  simp only [readSubmissionAddress, decode_encode, MailAddress.read_trim]

/-- What a text is read as decides how the lookup ends that retrieved it. -/
theorem result_submissionAddress
    (usable : (checkDomain domain).bind (places .submissionAddress) = .ok candidates)
    (answered : (fetch clock transport candidates options client.requestTimeout).result =
      some (elapsed, .ok ⟨method, encode text.toList⟩)) :
    (client.submissionAddress clock transport options domain).result =
      some (elapsed, match MailAddress.read text.toList with
        | .ok m => .ok ⟨method, m⟩
        | .error defect => .error (.lookup [.invalidMailAddress (trimmed text) defect])) := by
  rw [submissionAddress, usable, result_lookup, answered]
  cases read : MailAddress.read text.toList with
  | ok m =>
    have said : (readSubmissionAddress (encode text.toList)).mapError ([·]) = .ok m := by
      rw [readSubmissionAddress_encode, read]
      rfl
    exact congrArg (fun ending => some (elapsed, ending)) (conclude_of_readable said)
  | error defect =>
    have said : (readSubmissionAddress (encode text.toList)).mapError ([·]) =
        .error [.invalidMailAddress (trimmed text) defect] := by
      rw [readSubmissionAddress_encode, read]
      rfl
    exact congrArg (fun ending => some (elapsed, ending)) (conclude_of_unreadable said)

/-- The two places of a submission address agree. Take a text that a lookup retrieved, and a policy
file that publishes it on its only line. The lookup finds an address if and only if the file declares
it and nothing is reported, and it is the same address, with its name. Otherwise the lookup fails for
the text alone; the file declares nothing then, and its line is reported in the words of that error.
Held as text or as bytes, the file is the same. -/
theorem submissionAddress_agrees_with_policy (client : Client) (clock : Clock)
    (transport : Transport) (options : LookupOptions) (domain : String)
    (usable : (checkDomain domain).bind (places .submissionAddress) = .ok candidates)
    (answered : (fetch clock transport candidates options client.requestTimeout).result =
      some (elapsed, .ok ⟨method, encode text.toList⟩))
    (unbroken : '\n' ∉ text.toList) (publishes : Policy.Publishes text.toList file.toList) :
    let result := (client.submissionAddress clock transport options domain).result
    let read := Policy.File.ofText file
    (∀ m, result = some (elapsed, .ok ⟨method, m⟩) ↔
      read.policy.submissionAddress = some m ∧ read.errors = []) ∧
    (∀ m, result = some (elapsed, .ok ⟨method, m⟩) →
      read = ⟨{ submissionAddress := some m }, []⟩) ∧
    (∀ input defect,
      result = some (elapsed, .error (.lookup [.invalidMailAddress input defect])) →
      read = ⟨Policy.empty,
        [⟨1, trimmed file, (LookupError.invalidMailAddress input defect).message⟩]⟩) ∧
    ((∃ m, result = some (elapsed, .ok ⟨method, m⟩)) ∨
      ∃ input defect,
        result = some (elapsed, .error (.lookup [.invalidMailAddress input defect]))) ∧
    Policy.File.ofBytes (encode file.toList) = read := by
  intro result read
  have result_eq := result_submissionAddress usable answered
  have read_eq := Policy.File.ofText_of_publishes unbroken publishes
  have same_file : Policy.File.ofBytes (encode file.toList) = read := by
    rw [Policy.File.ofBytes_eq_ofText, decodeLossy_encode, String.ofList_toList]
  -- the one reader decides both
  cases outcome : MailAddress.read text.toList with
  | ok m =>
    simp only [outcome] at result_eq read_eq
    have result_iff : ∀ m', result = some (elapsed, .ok ⟨method, m'⟩) ↔ m = m' := by
      simp [result, result_eq]
    refine ⟨?_, ?_, ?_, .inl ⟨m, result_eq⟩, same_file⟩
    · simp [result_iff, read, read_eq]
    · intro m' found
      rw [← (result_iff m').mp found]
      exact read_eq
    · intro input defect failed
      exact nomatch result_eq.symm.trans failed
  | error defect =>
    simp only [outcome] at result_eq read_eq
    have not_found : ∀ m, result ≠ some (elapsed, .ok ⟨method, m⟩) :=
      fun m found => nomatch result_eq.symm.trans found
    refine ⟨?_, ?_, ?_, .inr ⟨_, defect, result_eq⟩, same_file⟩
    · simp [not_found, read, read_eq]
    · exact fun m found => absurd found (not_found m)
    · intro input defect' failed
      have same := result_eq.symm.trans failed
      simp only [Option.some.injEq, Prod.mk.injEq, Except.error.injEq, ClientError.lookup.injEq,
        List.cons.injEq, LookupError.invalidMailAddress.injEq] at same
      obtain ⟨-, ⟨rfl, -⟩, -⟩ := same
      exact read_eq

/-- A text with a colon and a `#` in it, and white space of several kinds around it. -/
theorem submissionAddress_agrees_with_policy_spaced :
    let body := "Key #1: <k@b.org>\r"
    let file := "\tSubmission-ADDRESS : Key #1: <k@b.org>\r "
    let address : MailAddress := ⟨some "Key #1:", "k", "b.org"⟩
    let transport := Transport.ofReplies
      [⟨[], .fail .timeout⟩, ⟨[.sleep 2], .answer (encode body.toList)⟩]
    let client : Client := ⟨Chain.default, 0, fun _ => .error []⟩
    ∃ candidates,
      (checkDomain "example.org").bind (places .submissionAddress) = .ok candidates ∧
      (fetch .standard transport candidates {} 0).result =
        some (2, .ok ⟨.direct, encode body.toList⟩) ∧
      '\n' ∉ body.toList ∧ Policy.Publishes body.toList file.toList ∧
      (client.submissionAddress .standard transport {} "example.org").result =
        some (2, .ok ⟨.direct, address⟩) ∧
      (Policy.File.ofText file).policy.submissionAddress = some address ∧
      (Policy.File.ofText file).errors = [] := by
  intro body file address transport client
  let candidates := (Resource.submissionAddress.candidates "example.org").toOption.getD []
  have usable : (checkDomain "example.org").bind (places .submissionAddress) = .ok candidates := by
    have checked : checkDomain "example.org" = .ok "example.org" := rfl
    rw [checked]
    rfl
  have answered : (fetch .standard transport candidates {} 0).result =
      some (2, .ok ⟨.direct, encode body.toList⟩) := rfl
  have unbroken : '\n' ∉ body.toList := by decide
  have spelled : EqUpToCase "Submission-ADDRESS" Policy.Keyword.submissionAddress.name := by
    unfold EqUpToCase
    decide
  have cut : file.toList =
      ['\t'] ++ "Submission-ADDRESS".toList ++ [' '] ++ ':' :: ([' '] ++ body.toList ++ [' ']) := by
    decide
  have publishes : Policy.Publishes body.toList file.toList := by
    rw [cut]
    exact .line spelled (forall_mem_of_all (by decide))
  have found : (client.submissionAddress .standard transport {} "example.org").result =
      some (2, .ok ⟨.direct, address⟩) := by
    have read : MailAddress.read body.toList = .ok address := by decide
    rw [result_submissionAddress usable answered, read]
  obtain ⟨agree, -⟩ := submissionAddress_agrees_with_policy client .standard transport {}
    "example.org" usable answered unbroken publishes
  exact ⟨candidates, usable, answered, unbroken, publishes, found, (agree address).mp found⟩

end Client

end KeyDirectory
