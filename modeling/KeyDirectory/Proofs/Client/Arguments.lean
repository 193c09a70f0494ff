import KeyDirectory.Proofs.Client.Lookups
import KeyDirectory.Proofs.Location.Candidates
import KeyDirectory.Proofs.Retrieval.History

/-!
# Arguments

Unless the token is cancelled beforehand, a lookup makes a request iff its argument is usable
(`goes_out_iff_usable`). An unusable argument is refused at once. With a usable one, the first request
goes to the place of the advanced method, and whatever the other side does, the argument is not blamed.

What makes an argument unusable is said here without the checks of the client: `UnusableDomain` for
the two lookups that take a domain, `UnusableText` for the one that takes the text of a mail address.
-/

namespace KeyDirectory.Client

open KeyDirectory.Text

variable {α : Type} {client : Client} {clock : Clock} {transport : Transport}
  {options : LookupOptions} {resource : Resource} {argument text : String}

/-! ## Unusable arguments -/

/-- Nothing can be looked up under the domain that an argument names. -/
inductive UnusableDomain (resource : Resource) (argument : String) : Prop where
  /-- The argument is blank. -/
  | empty (nothing : trim argument.toList = [])
  /-- Apart from the white space around it, the argument holds an ASCII character that is no letter,
  no digit, no hyphen and no dot. -/
  | character (c : Char) (mem : c ∈ trim argument.toList) (ascii : c.toNat < 128)
    (bad : ¬ (c.isAlphanum = true ∨ c = '-' ∨ c = '.'))
  /-- No URL can be made from the domain. -/
  | url (defect : Url.Defect) (none : resource.candidates (trimmed argument) = .error defect)

/-- Nothing can be looked up for a text. -/
inductive UnusableText (text : String) : Prop where
  | blank (blank : allBlank text = true)
  /-- The text is no mail address. -/
  | unread (defect : MailAddress.Defect) (h : MailAddress.ofText text = .error defect)
  /-- No URL can be made from the host of the address. -/
  | url (m : MailAddress) (defect : Url.Defect) (parsed : MailAddress.ofText text = .ok m)
    (none : m.keyCandidates = .error defect)

/-- The domain of an argument passes the check iff it has neither of the first two defects. -/
theorem unusableDomain_iff :
    UnusableDomain resource argument ↔
      ¬ MailAddress.HostText (trim argument.toList) ∨
        ∃ defect, resource.candidates (trimmed argument) = .error defect := by
  constructor
  · intro unusable
    cases unusable with
    | empty nothing => exact .inl fun text => text.ne_nil nothing
    | character c mem ascii bad =>
      exact .inl fun text => text.not_mem (MailAddress.isBadHostChar_iff.mpr ⟨ascii, bad⟩) mem
    | url defect none => exact .inr ⟨defect, none⟩
  · rintro (unfit | ⟨defect, none⟩)
    · -- a text that is not empty lacks the form of hosts for one of its characters
      by_cases nothing : trim argument.toList = []
      · exact .empty nothing
      · have found : ∃ c ∈ trim argument.toList, MailAddress.isBadHostChar c = true := by
          by_contra none
          exact unfit ⟨nothing, by simpa using none⟩
        obtain ⟨c, mem, bad⟩ := found
        obtain ⟨ascii, bad⟩ := MailAddress.isBadHostChar_iff.mp bad
        exact .character c mem ascii bad
    · exact .url defect none

/-- A lookup of a domain is given the places for the domain, or none where the argument is unusable. -/
theorem places_of_argument (resource : Resource) (argument : String) :
    (UnusableDomain resource argument ∧
      ∃ cause, (checkDomain argument).bind (places resource) = .error cause) ∨
    (¬ UnusableDomain resource argument ∧
      ∃ candidates, resource.candidates (trimmed argument) = .ok candidates ∧
        (checkDomain argument).bind (places resource) = .ok candidates) := by
  rw [unusableDomain_iff]
  cases checked : checkDomain argument with
  | error cause =>
    have unfit : ¬ MailAddress.HostText (trim argument.toList) := by
      intro text
      rw [checkDomain_eq_ok_iff.mpr ⟨text, rfl⟩] at checked
      cases checked
    exact .inl ⟨.inl unfit, cause, rfl⟩
  | ok domain =>
    obtain ⟨text, rfl⟩ := checkDomain_eq_ok_iff.mp checked
    have given (f : String → Except InvalidInput (List Candidate)) :
        (Except.ok (trimmed argument)).bind f = f (trimmed argument) := rfl
    rw [given, places]
    -- what passed the check can only lack a URL
    cases found : resource.candidates (trimmed argument) with
    | error defect =>
      exact .inl ⟨.inr ⟨defect, rfl⟩, .unusableDomain (trimmed argument) defect, rfl⟩
    | ok candidates =>
      right
      refine ⟨?_, candidates, rfl, rfl⟩
      rintro (unfit | ⟨defect, wrong⟩)
      · exact unfit text
      · cases wrong

/-! ## What becomes of a lookup -/

/-- A lookup goes out to its places: the first request is that of the advanced method, and whatever the
other side does, the argument is not blamed. -/
structure GoesOut (candidates : Except Url.Defect (List Candidate))
    (run : Run (Except ClientError α)) : Prop where
  first : ∃ advanced direct later, candidates = .ok [advanced, direct] ∧
    advanced.method = .advanced ∧ run.trace.requests = advanced.url :: later
  blameless : ∀ instant cause, run.result ≠ some (instant, .error (.invalidInput cause))

/-- A lookup is refused at once, for what its argument is. -/
def Refused (run : Run (Except ClientError α)) : Prop :=
  ∃ cause, run = .ofValue (.error (.invalidInput cause))

theorem Refused.requests_eq_nil {run : Run (Except ClientError α)} (refused : Refused run) :
    run.trace.requests = [] := by
  obtain ⟨cause, rfl⟩ := refused
  rfl

theorem GoesOut.requests_ne_nil {candidates : Except Url.Defect (List Candidate)}
    {run : Run (Except ClientError α)} (out : GoesOut candidates run) :
    run.trace.requests ≠ [] := by
  obtain ⟨advanced, direct, later, -, -, requests_eq⟩ := out.first
  rw [requests_eq]
  exact List.cons_ne_nil _ _

/-- With the token good, a lookup that has candidates goes out to them. -/
theorem goesOut_lookup {domain : String} {candidates : List Candidate}
    {read : List UInt8 → Except (List LookupError) α × List LogLine}
    (good : options.token ≠ .cancelled) (found : resource.candidates domain = .ok candidates) :
    GoesOut (resource.candidates domain)
      (client.lookup clock transport options (.ok candidates) read) := by
  constructor
  case first =>
    obtain ⟨advanced, direct, rfl, isAdvanced, -⟩ := Resource.eq_pair_of_candidates found
    obtain ⟨later, requests_eq⟩ := requests_fetch_cons good
    exact ⟨advanced, direct, later, found, isAdvanced, requests_lookup.trans requests_eq⟩
  case blameless =>
    intro instant cause blamed
    rw [result_lookup] at blamed
    -- the result is concluded from what was retrieved, and no conclusion blames the argument
    obtain ⟨⟨_, result⟩, -, same⟩ := Option.map_eq_some_iff.mp blamed
    exact conclude_ne_invalidInput result cause (congrArg Prod.snd same)

/-- What becomes of the lookup of a resource of a domain. -/
structure DomainLookup (resource : Resource) (argument : String)
    (run : Run (Except ClientError α)) : Prop where
  requests_eq_nil_iff : run.trace.requests = [] ↔ UnusableDomain resource argument
  refused : UnusableDomain resource argument → Refused run
  goesOut : ¬ UnusableDomain resource argument →
    GoesOut (resource.candidates (trimmed argument)) run

/-- What becomes of the lookup of the keys for a text. -/
structure TextLookup (text : String) (run : Run (Except ClientError α)) : Prop where
  requests_eq_nil_iff : run.trace.requests = [] ↔ UnusableText text
  /-- A text that is neither blank nor a mail address is the one error of the lookup, as it stands. -/
  unread : ∀ defect, allBlank text = false → MailAddress.ofText text = .error defect →
    run = .ofValue (.error (.lookup [.invalidMailAddress text defect]))
  /-- Any other unusable text is refused. -/
  refused : UnusableText text →
    allBlank text = true ∨ (∃ m, MailAddress.ofText text = .ok m) → Refused run
  goesOut : ¬ UnusableText text →
    ∃ m, MailAddress.ofText text = .ok m ∧ GoesOut m.keyCandidates run

/-- A lookup of a domain goes out iff there is a place for what the argument names. -/
theorem domainLookup (good : options.token ≠ .cancelled)
    (read : List UInt8 → Except (List LookupError) α × List LogLine) (resource : Resource)
    (argument : String) :
    DomainLookup resource argument
      (client.lookup clock transport options ((checkDomain argument).bind (places resource))
        read) := by
  rcases places_of_argument resource argument with
    ⟨unusable, cause, none⟩ | ⟨usable, candidates, found, some⟩
  · rw [none]
    exact ⟨⟨fun _ => unusable, fun _ => rfl⟩, fun _ => ⟨cause, rfl⟩,
      fun usable => absurd unusable usable⟩
  · rw [some]
    have out : GoesOut (resource.candidates (trimmed argument))
        (client.lookup clock transport options (.ok candidates) read) := goesOut_lookup good found
    exact ⟨⟨fun nothing => absurd nothing out.requests_ne_nil, fun unusable => absurd unusable usable⟩,
      fun unusable => absurd unusable usable, fun _ => out⟩

/-- Without a URL for the host, a discovery is refused. -/
theorem refused_discover {m : MailAddress} {defect : Url.Defect}
    (none : m.keyCandidates = .error defect) :
    Refused (client.discover clock transport options m) := by
  have noPlace : places (.keys m.user) m.host = .error (.unusableDomain m.host defect) := by
    rw [places, ← MailAddress.keyCandidates, none]
    rfl
  unfold discover
  rw [noPlace]
  exact ⟨_, rfl⟩

/-- With URLs for the host, a discovery goes out. -/
theorem goesOut_discover {m : MailAddress} {candidates : List Candidate}
    (good : options.token ≠ .cancelled) (found : m.keyCandidates = .ok candidates) :
    GoesOut m.keyCandidates (client.discover clock transport options m) := by
  have some : places (.keys m.user) m.host = .ok candidates := by
    rw [places, ← MailAddress.keyCandidates, found]
    rfl
  unfold discover
  rw [some]
  exact goesOut_lookup good found

theorem TextLookup.of_refused {run : Run (Except ClientError α)} (unusable : UnusableText text)
    (readable : allBlank text = true ∨ ∃ m, MailAddress.ofText text = .ok m)
    (refused : Refused run) : TextLookup text run where
  requests_eq_nil_iff := ⟨fun _ => unusable, fun _ => refused.requests_eq_nil⟩
  unread := by
    intro defect notBlank unread
    rcases readable with blank | ⟨m, parsed⟩
    · exact nomatch notBlank.symm.trans blank
    · exact nomatch parsed.symm.trans unread
  refused _ _ := refused
  goesOut usable := absurd unusable usable

theorem TextLookup.of_goesOut {run : Run (Except ClientError α)} {m : MailAddress}
    (notBlank : allBlank text = false) (parsed : MailAddress.ofText text = .ok m)
    (out : GoesOut m.keyCandidates run) : TextLookup text run := by
  have usable : ¬ UnusableText text := by
    intro unusable
    cases unusable with
    | blank blank => exact nomatch notBlank.symm.trans blank
    | unread defect unread => exact nomatch parsed.symm.trans unread
    | url m' defect parsed' none =>
      obtain rfl := Except.ok.inj (parsed.symm.trans parsed')
      obtain ⟨advanced, direct, later, found, -⟩ := out.first
      exact nomatch found.symm.trans none
  constructor
  case requests_eq_nil_iff =>
    exact ⟨fun nothing => absurd nothing out.requests_ne_nil, fun unusable => absurd unusable usable⟩
  case unread => exact fun _ _ unread => nomatch parsed.symm.trans unread
  case refused => exact fun unusable _ => absurd unusable usable
  case goesOut => exact fun _ => ⟨m, parsed, out⟩

/-- The lookup of a text goes out iff the text is a mail address that has a place. -/
theorem textLookup (good : options.token ≠ .cancelled) (text : String) :
    TextLookup text (client.discoverText clock transport options text) := by
  unfold discoverText
  cases blank : allBlank text with
  | true => exact .of_refused (.blank blank) (.inl blank) ⟨_, rfl⟩
  | false =>
    rw [if_neg Bool.false_ne_true]
    cases parsed : MailAddress.ofText text with
    | error defect =>
      have unusable : UnusableText text := .unread defect parsed
      constructor
      case requests_eq_nil_iff => exact ⟨fun _ => unusable, fun _ => rfl⟩
      case unread =>
        intro defect' _ parsed'
        obtain rfl := Except.error.inj (parsed.symm.trans parsed')
        rfl
      case refused =>
        rintro _ (blank' | ⟨m, parsed'⟩)
        · exact nomatch blank.symm.trans blank'
        · exact nomatch parsed.symm.trans parsed'
      case goesOut => exact fun usable => absurd unusable usable
    | ok m =>
      cases found : m.keyCandidates with
      | error defect =>
        exact .of_refused (.url m defect parsed found) (.inr ⟨m, parsed⟩) (refused_discover found)
      | ok candidates => exact .of_goesOut blank parsed (goesOut_discover good found)

/-- Unless the token is cancelled beforehand, each lookup goes out iff its argument is usable, and is
refused otherwise. -/
theorem goes_out_iff_usable (client : Client) (clock : Clock) (transport : Transport)
    {options : LookupOptions} (good : options.token ≠ .cancelled) (argument : String) :
    DomainLookup .submissionAddress argument
        (client.submissionAddress clock transport options argument) ∧
      DomainLookup .policy argument (client.policy clock transport options argument) ∧
      TextLookup argument (client.discoverText clock transport options argument) :=
  ⟨domainLookup good _ .submissionAddress argument, domainLookup good _ .policy argument,
    textLookup good argument⟩

/-- With no time at all, and a token that is cancelled at once, a usable domain is still requested. A
text with a space inside is refused as a domain, and reported as it stands as a mail address. -/
theorem goes_out_without_time :
    let client := Client.ofKeys [] []
    let options : LookupOptions := { timeout := some 0, token := .live (some 0) }
    options.token ≠ .cancelled ∧
      (∃ advanced direct, Resource.policy.candidates "b.C" = .ok [advanced, direct] ∧
        (client.policy .standard (.ofReplies []) options " b.C").trace.requests = [advanced.url]) ∧
      Refused (client.submissionAddress .standard (.ofReplies []) options "b c") ∧
      client.discoverText .standard (.ofReplies []) options " a@b c " =
        .ofValue (.error (.lookup [.invalidMailAddress " a@b c " .whitespace])) := by
  intro client options
  have good : options.token ≠ .cancelled := nofun
  obtain ⟨-, usable, -⟩ := goes_out_iff_usable client .standard (.ofReplies []) good " b.C"
  obtain ⟨unusable, -, -⟩ := goes_out_iff_usable client .standard (.ofReplies []) good "b c"
  obtain ⟨-, -, unread⟩ := goes_out_iff_usable client .standard (.ofReplies []) good " a@b c "
  refine ⟨good, ?_, unusable.refused ?_, unread.unread .whitespace rfl rfl⟩
  · have one :
        (client.policy .standard (.ofReplies []) options " b.C").trace.requests.length = 1 := rfl
    have out := usable.goesOut fun unusable => by
      rw [usable.requests_eq_nil_iff.mpr unusable] at one
      cases one
    obtain ⟨advanced, direct, later, found, -, requests_eq⟩ := out.first
    rw [requests_eq] at one ⊢
    obtain rfl := List.length_eq_zero_iff.mp (Nat.succ.inj one)
    exact ⟨advanced, direct, found, rfl⟩
  · exact .character ' ' (by decide) (by decide) (by decide)

end KeyDirectory.Client
