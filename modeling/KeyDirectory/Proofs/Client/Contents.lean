import KeyDirectory.Proofs.Client.Lookups
import KeyDirectory.Proofs.Retrieval.Fallback
import KeyDirectory.Proofs.Validation.Keyring

/-!
# Contents and failures of the network

A lookup either has a body, and then fails only for what the body holds, or has none, and then fails
only for what the network did (`contents_apart`). The two kinds of failure never mix, and bad contents
do not make the client try another place: the attempt that brought the body is the last.

`Apart` says this about the attempts of the retrieval that a lookup is made of, for any way to read
bodies, and `apart_lookup` proves it once for all lookups. What the lookups have of their own stands in
`AddressApart` and `KeysApart`.
-/

namespace KeyDirectory

/-- Whether an error is about a content that is not the text or the address that it should be. -/
def LookupError.isDataValidation : LookupError → Bool
  | .invalidMailAddress .. => true
  | .unreadableContent _ => true
  | _ => false

namespace Client

variable {α : Type} {client : Client} {clock : Clock} {transport : Transport}
  {options : LookupOptions} {candidates : List Candidate} {attempts : List Attempt}

/-- A lookup whose retrieval made these attempts keeps contents and failures of the network apart. -/
structure Apart (client : Client) (clock : Clock) (transport : Transport) (options : LookupOptions)
    (candidates : List Candidate) (read : List UInt8 → Except (List LookupError) α)
    (attempts : List Attempt) (run : Run (Except ClientError (Retrieved α))) : Prop where
  /-- The attempts are those of the retrieval. -/
  attempted : FetchAttempts clock transport candidates options client.requestTimeout attempts
  /-- The requests are those of the retrieval, at the same instants. -/
  timedRequests_eq : run.trace.timedRequests =
    (fetch clock transport candidates options client.requestTimeout).trace.timedRequests
  /-- It ends when the retrieval ends, or never. -/
  instant_eq : run.result.map Prod.fst =
    (fetch clock transport candidates options client.requestTimeout).result.map Prod.fst
  /-- An attempt that brought a body is the last, and its request is the last of the requests, of
  which each attempt made one. -/
  last : ∀ a ∈ attempts, ∀ body, a.response = .ok body →
    attempts.getLast? = some a ∧ run.trace.requests = attempts.map (·.candidate.url)
  /-- What is read from the body is found, by the method of that attempt. -/
  readable : ∀ a ∈ attempts, ∀ body value, a.response = .ok body → read body = .ok value →
    ∃ instant, run.result = some (instant, .ok ⟨a.candidate.method, value⟩)
  /-- Where nothing can be read, the errors are those of reading. The failures of the attempts before
  it are dropped. -/
  unreadable : ∀ a ∈ attempts, ∀ body errors, a.response = .ok body → read body = .error errors →
    (∃ instant, run.result = some (instant, .error (.lookup errors))) ∧
      ∀ e ∈ errors, e.isNetwork = false
  /-- Without a body, the errors are those of the attempts, and no others. -/
  bodiless : (∀ a ∈ attempts, ∀ body, a.response ≠ .ok body) →
    ∀ instant result, run.result = some (instant, result) →
      ∃ errors : List NetworkError, attempts.map (·.error?) = errors.map some ∧
        result = .error (.lookup (errors.map .network))

/-- The lookup of a submission address fails for its content with one error. -/
structure AddressApart (client : Client) (clock : Clock) (transport : Transport)
    (options : LookupOptions) (candidates : List Candidate) (attempts : List Attempt)
    (run : Run (Except ClientError SubmissionAnswer)) :
    Prop extends Apart client clock transport options candidates
      (fun body => (readSubmissionAddress body).mapError ([·])) attempts run where
  one_error : ∀ a ∈ attempts, ∀ body, a.response = .ok body →
    ∀ instant errors, run.result = some (instant, .error (.lookup errors)) →
      ∃ e, errors = [e] ∧ e.isDataValidation = true

/-- A discovery fails for its content with what the reader of keys says, and does not fail because all
keys are rejected. -/
structure KeysApart (client : Client) (clock : Clock) (transport : Transport)
    (options : LookupOptions) (candidates : List Candidate) (m : MailAddress)
    (attempts : List Attempt) (run : Run (Except ClientError DiscoveryAnswer)) :
    Prop extends Apart client clock transport options candidates
      (fun body => (client.readKeys body).map (client.chain.validate m)) attempts run where
  all_rejected : ∀ a ∈ attempts, ∀ body keys, a.response = .ok body →
    client.readKeys body = .ok keys →
    (∀ key ∈ keys, (client.chain.judge m key).rejection ≠ none) →
    ∃ instant outcome, run.result = some (instant, .ok ⟨a.candidate.method, outcome⟩) ∧
      outcome.accepted = [] ∧ outcome.rejected.map Prod.fst = keys

/-! ## One lookup -/

/-- A lookup that has candidates keeps contents and failures of the network apart, if reading reports
no failures of the network. -/
theorem apart_lookup (client : Client) (clock : Clock) (transport : Transport)
    (options : LookupOptions) (candidates : List Candidate)
    {read : List UInt8 → Except (List LookupError) α} (lines : List UInt8 → List LogLine)
    (content : ∀ body errors, read body = .error errors → ∀ e ∈ errors, e.isNetwork = false) :
    ∃ attempts, Apart client clock transport options candidates read attempts
      (client.lookup clock transport options (.ok candidates)
        fun body => (read body, lines body)) := by
  obtain ⟨attempts, attempted⟩ :=
    exists_attempted clock transport candidates options client.requestTimeout
  refine ⟨attempts, ?_⟩
  constructor
  case attempted => exact attempted
  case timedRequests_eq => exact timedRequests_lookup
  case instant_eq =>
    rw [result_lookup, Option.map_map]
    rfl
  case last =>
    intro a ha body response
    obtain ⟨last, requests_eq, -⟩ := attempted.of_body ha response
    exact ⟨last, requests_lookup.trans requests_eq⟩
  case readable =>
    intro a ha body value response said
    obtain ⟨-, -, instant, answered⟩ := attempted.of_body ha response
    have concluded : conclude (fun body => (read body, lines body))
        (.ok ⟨a.candidate.method, body⟩) = .ok ⟨a.candidate.method, value⟩ :=
      conclude_of_readable said
    exact ⟨instant, by rw [result_lookup_of_fetch answered, concluded]⟩
  case unreadable =>
    intro a ha body errors response said
    obtain ⟨-, -, instant, answered⟩ := attempted.of_body ha response
    have concluded : conclude (fun body => (read body, lines body))
        (.ok ⟨a.candidate.method, body⟩) = .error (.lookup errors) :=
      conclude_of_unreadable said
    exact ⟨⟨instant, by rw [result_lookup_of_fetch answered, concluded]⟩,
      content body errors said⟩
  case bodiless =>
    intro noBody instant result returned
    rw [result_lookup] at returned
    obtain ⟨⟨_, found⟩, fetched, same⟩ := Option.map_eq_some_iff.mp returned
    obtain ⟨errors, rfl, each⟩ := attempted.of_bodiless noBody fetched
    exact ⟨errors, each, (congrArg Prod.snd same).symm⟩

/-- The last attempt brought a body, and its request is the last of a run. -/
def EndsWithBody (attempts : List Attempt) (run : Run α) : Prop :=
  ∃ a ∈ attempts, ∃ body, a.response = .ok body ∧ attempts.getLast? = some a ∧
    run.trace.requests = attempts.map (·.candidate.url)

/-- What is no report of failures of the network comes from a body. -/
theorem Apart.endsWithBody {read : List UInt8 → Except (List LookupError) α}
    {run : Run (Except ClientError (Retrieved α))} {instant : Duration}
    {result : Except ClientError (Retrieved α)}
    (apart : Apart client clock transport options candidates read attempts run)
    (returned : run.result = some (instant, result))
    (content : ∀ errors : List NetworkError, result ≠ .error (.lookup (errors.map .network))) :
    EndsWithBody attempts run := by
  apply Classical.byContradiction
  intro none
  have noBody : ∀ a ∈ attempts, ∀ body, a.response ≠ .ok body := by
    intro a ha body response
    exact none ⟨a, ha, body, response, apart.last a ha body response⟩
  obtain ⟨errors, -, same⟩ := apart.bodiless noBody _ _ returned
  exact content errors same

/-! ## The lookups -/

/-- An error about a content is none of the network. -/
theorem LookupError.isNetwork_of_isDataValidation {e : LookupError}
    (h : e.isDataValidation = true) : e.isNetwork = false := by
  cases e with
  | network => cases h
  | _ => rfl

/-- Reading a submission address fails with nothing but errors about the content. -/
theorem isDataValidation_of_readSubmissionAddress {body : List UInt8} {e : LookupError}
    (h : readSubmissionAddress body = .error e) : e.isDataValidation = true := by
  unfold readSubmissionAddress at h
  split at h
  · cases h
    rfl
  · obtain ⟨defect, -, rfl⟩ := mapError_eq_error_iff.mp h
    rfl

/-- What is read wrongly is the one error, and anything else is an address. -/
theorem addressApart_lookup (client : Client) (clock : Clock) (transport : Transport)
    (options : LookupOptions) {domain : String}
    (found : (checkDomain domain).bind (places .submissionAddress) = .ok candidates) :
    ∃ attempts, AddressApart client clock transport options candidates attempts
      (client.submissionAddress clock transport options domain) := by
  have one : ∀ body errors, (readSubmissionAddress body).mapError ([·]) = .error errors →
      ∃ e, errors = [e] ∧ e.isDataValidation = true := by
    intro body errors h
    obtain ⟨e, said, rfl⟩ := mapError_eq_error_iff.mp h
    exact ⟨e, rfl, isDataValidation_of_readSubmissionAddress said⟩
  have content : ∀ body errors, (readSubmissionAddress body).mapError ([·]) = .error errors →
      ∀ e ∈ errors, e.isNetwork = false := by
    intro body errors said e mem
    obtain ⟨e', rfl, about⟩ := one body errors said
    obtain rfl := List.mem_singleton.mp mem
    exact LookupError.isNetwork_of_isDataValidation about
  unfold submissionAddress
  rw [found]
  obtain ⟨attempts, apart⟩ :=
    apart_lookup client clock transport options candidates (fun _ => []) content
  refine ⟨attempts, apart, ?_⟩
  intro a ha body response instant errors returned
  cases said : (readSubmissionAddress body).mapError ([·]) with
  | ok m =>
    obtain ⟨_, result_eq⟩ := apart.readable a ha body m response said
    cases returned.symm.trans result_eq
  | error errors' =>
    obtain ⟨⟨_, result_eq⟩, -⟩ := apart.unreadable a ha body errors' response said
    cases returned.symm.trans result_eq
    exact one body errors said

/-- Any body is a policy file, so that a policy is found wherever there is a body. -/
theorem policyApart_lookup (client : Client) (clock : Clock) (transport : Transport)
    (options : LookupOptions) {domain : String}
    (found : (checkDomain domain).bind (places .policy) = .ok candidates) :
    ∃ attempts, Apart client clock transport options candidates
      (fun body => .ok (Policy.File.ofBytes body)) attempts
      (client.policy clock transport options domain) := by
  unfold policy
  rw [found]
  exact apart_lookup client clock transport options candidates _ nofun

/-- What the reader of keys says is all that comes of a body, and the verdicts on keys are no
failures. -/
theorem keysApart_lookup (client : Client) (clock : Clock) (transport : Transport)
    (options : LookupOptions)
    (reader : ∀ body errors, client.readKeys body = .error errors →
      ∀ e ∈ errors, e.isNetwork = false)
    {m : MailAddress} (found : places (.keys m.user) m.host = .ok candidates) :
    ∃ attempts, KeysApart client clock transport options candidates m attempts
      (client.discover clock transport options m) := by
  have content : ∀ body errors,
      (client.readKeys body).map (client.chain.validate m) = .error errors →
      ∀ e ∈ errors, e.isNetwork = false := by
    intro body errors h
    exact reader body errors (map_eq_error_iff.mp h)
  rw [discover_eq_lookup, found]
  obtain ⟨attempts, apart⟩ :=
    apart_lookup client clock transport options candidates (discoveryLines client m) content
  refine ⟨attempts, apart, ?_⟩
  intro a ha body keys response said all
  have judged : (client.readKeys body).map (client.chain.validate m) =
      .ok (client.chain.validate m keys) := by
    rw [said]
    rfl
  obtain ⟨instant, result_eq⟩ := apart.readable a ha body _ response judged
  exact ⟨instant, _, result_eq, Chain.validate_of_all_rejected all⟩

/-- Each lookup that has candidates keeps contents and failures of the network apart, whatever the
other side does, if the reader of keys reports no failures of the network. -/
theorem contents_apart (client : Client) (clock : Clock) (transport : Transport)
    (options : LookupOptions)
    (reader : ∀ body errors, client.readKeys body = .error errors →
      ∀ e ∈ errors, e.isNetwork = false) :
    (∀ domain candidates,
      (checkDomain domain).bind (places .submissionAddress) = .ok candidates →
      ∃ attempts, AddressApart client clock transport options candidates attempts
        (client.submissionAddress clock transport options domain)) ∧
    (∀ domain candidates, (checkDomain domain).bind (places .policy) = .ok candidates →
      ∃ attempts, Apart client clock transport options candidates
        (fun body => .ok (Policy.File.ofBytes body)) attempts
        (client.policy clock transport options domain)) ∧
    (∀ m candidates, places (.keys m.user) m.host = .ok candidates →
      ∃ attempts, KeysApart client clock transport options candidates m attempts
        (client.discover clock transport options m)) ∧
    (∀ text m candidates, Text.allBlank text = false → MailAddress.ofText text = .ok m →
      places (.keys m.user) m.host = .ok candidates →
      ∃ attempts, KeysApart client clock transport options candidates m attempts
        (client.discoverText clock transport options text)) := by
  refine ⟨?_, ?_, ?_, ?_⟩
  · intro domain candidates found
    exact addressApart_lookup client clock transport options found
  · intro domain candidates found
    exact policyApart_lookup client clock transport options found
  · intro m candidates found
    exact keysApart_lookup client clock transport options reader found
  · intro text m candidates notBlank parsed found
    have same : client.discoverText clock transport options text =
        client.discover clock transport options m := by
      simp only [discoverText, notBlank, parsed, Bool.false_eq_true, if_false]
    rw [same]
    exact keysApart_lookup client clock transport options reader found

/-- After a failure of the network comes a body that is no text. It makes no submission address, a
policy with one line skipped, and no keys as the reader has it. Of the failure nothing is left, and no
other place is asked. -/
theorem contents_apart_no_text :
    let client : Client := ⟨Chain.default, 0, fun _ => .error [.keyParsing "no keys"]⟩
    let transport :=
      Transport.ofReplies [⟨[.sleep 2], .fail .timeout⟩, ⟨[.sleep 3], .answer [0xFF]⟩]
    let address := client.submissionAddress .standard transport {} "b.c"
    let policy := client.policy .standard transport {} " b.c"
    let keys := client.discover .standard transport {} ⟨none, "j", "b.c"⟩
    address.result = some (5, .error (.lookup
      [.unreadableContent "invalid utf-8 sequence of 1 bytes from index 0"])) ∧
    policy.result = some (5, .ok ⟨.direct, Policy.File.ofBytes [0xFF]⟩) ∧
    (Policy.File.ofBytes [0xFF]).errors.map (·.line) = ["\uFFFD"] ∧
    keys.result = some (5, .error (.lookup [.keyParsing "no keys"])) ∧
    (∃ candidates attempts,
      (checkDomain "b.c").bind (places .submissionAddress) = .ok candidates ∧
      FetchAttempts .standard transport candidates {} 0 attempts ∧
      EndsWithBody attempts address) ∧
    (∃ candidates attempts, (checkDomain " b.c").bind (places .policy) = .ok candidates ∧
      FetchAttempts .standard transport candidates {} 0 attempts ∧
      EndsWithBody attempts policy) ∧
    ∃ candidates attempts, places (.keys "j") "b.c" = .ok candidates ∧
      FetchAttempts .standard transport candidates {} 0 attempts ∧
      EndsWithBody attempts keys := by
  intro client transport address policy keys
  have reader : ∀ body errors, client.readKeys body = .error errors →
      ∀ e ∈ errors, e.isNetwork = false := by
    intro body errors said
    cases said
    simp [LookupError.isNetwork]
  obtain ⟨addresses, policies, discoveries, -⟩ := contents_apart client .standard transport {} reader
  have address_eq : address.result = some (5, .error (.lookup
      [.unreadableContent "invalid utf-8 sequence of 1 bytes from index 0"])) := rfl
  have policy_eq : policy.result = some (5, .ok ⟨.direct, Policy.File.ofBytes [0xFF]⟩) := rfl
  have keys_eq : keys.result = some (5, .error (.lookup [.keyParsing "no keys"])) := rfl
  refine ⟨address_eq, policy_eq, rfl, keys_eq, ?_, ?_, ?_⟩
  · have usable : ((checkDomain "b.c").bind (places .submissionAddress)).isOk = true := by
      decide +kernel
    obtain ⟨candidates, found⟩ := exists_of_isOk usable
    obtain ⟨attempts, apart⟩ := addresses "b.c" candidates found
    refine ⟨candidates, attempts, found, apart.attempted, apart.endsWithBody address_eq ?_⟩
    intro errors same
    cases errors <;> cases same
  · have usable : ((checkDomain " b.c").bind (places .policy)).isOk = true := by decide +kernel
    obtain ⟨candidates, found⟩ := exists_of_isOk usable
    obtain ⟨attempts, apart⟩ := policies " b.c" candidates found
    exact ⟨candidates, attempts, found, apart.attempted, apart.endsWithBody policy_eq nofun⟩
  · have usable : (places (.keys "j") "b.c").isOk = true := by decide +kernel
    obtain ⟨candidates, found⟩ := exists_of_isOk usable
    obtain ⟨attempts, apart⟩ := discoveries ⟨none, "j", "b.c"⟩ candidates found
    refine ⟨candidates, attempts, found, apart.attempted, apart.endsWithBody keys_eq ?_⟩
    intro errors same
    cases errors <;> cases same

end Client

end KeyDirectory
