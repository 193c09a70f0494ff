import KeyDirectory.Proofs.Client.Lookups
import KeyDirectory.Proofs.Location.Candidates
import KeyDirectory.Proofs.Mail.Mailbox
import KeyDirectory.Proofs.Retrieval.History
import KeyDirectory.Proofs.Unicode.Casing
import Mathlib.Data.List.Forall2

/-!
# Two spellings of one mailbox

A host name may be written in any mixture of cases. Whoever answers the requests of a discovery, or
sees how it ends, does not learn which spelling was looked up (`discover_spelling`):

* both spellings have the same places (`candidates_host_congr`), since whole hosts have the same form
  in lower case;
* the rules of the library reject the same keys (`Chain.validate_alike`), since a user id names both
  spellings or neither. Only what they say repeats the address as it was spelled.

Rules of the caller's own see the address itself and may well tell spellings apart.
-/

namespace KeyDirectory

open KeyDirectory.Unicode

variable {a b : MailAddress}

/-! ## Keys -/

/-- The reason of a rule of the library for each of two addresses. -/
inductive Rejection.Alike (a b : MailAddress) : Rejection → Rejection → Prop where
  | missingUserId : Alike a b (.missingUserId a) (.missingUserId b)
  | weak (algorithm : Algorithm) (minimum : Nat) :
    Alike a b (.weak algorithm minimum) (.weak algorithm minimum)

/-- A rule of the library objects to a key for both spellings or for neither. -/
theorem Rule.reject?_alike (same : a.sameMailbox b = true) {rule : Rule}
    (ours : rule.name? = none) (key : Key) :
    Option.Rel (Rejection.Alike a b) (rule.reject? a key) (rule.reject? b key) := by
  cases rule with
  | missingUserId =>
    simp only [reject?, key.hasMailbox_congr same]
    cases key.hasMailbox b with
    | true => exact .none
    | false => exact .some .missingUserId
  | minimumBits algorithm bits =>
    simp only [reject?]
    by_cases passes : key.algorithm ≠ algorithm ∨ bits ≤ key.bits
    · rw [if_pos passes]
      exact .none
    · rw [if_neg passes]
      exact .some (.weak key.algorithm bits)
  | custom => cases ours

/-- Two verdicts by the same rules, with reasons alike. -/
structure Verdict.Alike (a b : MailAddress) (verdict verdict' : Verdict) : Prop where
  asked_eq : verdict.asked = verdict'.asked
  rejection : Option.Rel (Rejection.Alike a b) verdict.rejection verdict'.rejection

/-- Rules of the library come to the same verdict for both spellings. -/
theorem Chain.judgeBy_alike (same : a.sameMailbox b = true) {rules : List Rule}
    (ours : ∀ rule ∈ rules, rule.name? = none) (key : Key) :
    (judgeBy a key rules).Alike a b (judgeBy b key rules) := by
  induction rules with
  | nil => exact ⟨rfl, .none⟩
  | cons rule rules ih =>
    have others := ih fun rule mem => ours rule (List.mem_cons_of_mem _ mem)
    have first := Rule.reject?_alike same (ours rule List.mem_cons_self) key
    unfold judgeBy
    -- the first rule rejects the key for both addresses or for neither
    generalize rule.reject? a key = said at first ⊢
    generalize rule.reject? b key = said' at first ⊢
    cases first with
    | none => exact ⟨congrArg (rule :: ·) others.asked_eq, others.rejection⟩
    | some alike => exact ⟨rfl, .some alike⟩

/-- Two outcomes with the same keys in the same order, and reasons alike. -/
structure Outcome.Alike (a b : MailAddress) (outcome outcome' : Outcome) : Prop where
  accepted_eq : outcome.accepted = outcome'.accepted
  rejected : List.Forall₂ (fun (key, reason) (key', reason') =>
    key = key' ∧ reason.Alike a b reason') outcome.rejected outcome'.rejected
  asked_eq : outcome.asked = outcome'.asked

/-- A chain of the library splits a keyring alike for both spellings. -/
theorem Chain.validate_alike (same : a.sameMailbox b = true) {chain : Chain}
    (ours : ∀ rule ∈ chain.rules, rule.name? = none) (keys : List Key) :
    (chain.validate a keys).Alike a b (chain.validate b keys) := by
  induction keys with
  | nil => exact ⟨rfl, .nil, rfl⟩
  | cons key keys ih =>
    have first : (chain.judge a key).Alike a b (chain.judge b key) := judgeBy_alike same ours key
    obtain ⟨asked_eq, rejection⟩ := first
    simp only [validate]
    generalize (chain.judge a key).rejection = said at rejection ⊢
    generalize (chain.judge b key).rejection = said' at rejection ⊢
    rw [asked_eq, ih.asked_eq]
    cases rejection with
    | none => exact ⟨congrArg (key :: ·) ih.accepted_eq, ih.rejected, rfl⟩
    | some alike => exact ⟨ih.accepted_eq, .cons ⟨rfl, alike⟩ ih.rejected, rfl⟩

/-! ## Places -/

/-- Both spellings of a host have the same places. -/
theorem Resource.candidates_host_congr (same : a.sameMailbox b = true) (resource : Resource) :
    resource.candidates a.host = resource.candidates b.host := by
  obtain ⟨-, host⟩ := MailAddress.sameMailbox_iff.mp same
  exact candidates_congr host resource

/-! ## Discoveries -/

namespace Client

/-- Two ends of a discovery that differ at most in the spelling that they repeat. -/
inductive EndAlike (a b : MailAddress) : Option (Duration × Except ClientError DiscoveryAnswer) →
    Option (Duration × Except ClientError DiscoveryAnswer) → Prop where
  /-- Neither ends. -/
  | endless : EndAlike a b none none
  /-- No URL can be made from either host, for the same defect. -/
  | unusable (instant : Duration) (defect : Url.Defect) :
    EndAlike a b (some (instant, .error (.invalidInput (.unusableDomain a.host defect))))
      (some (instant, .error (.invalidInput (.unusableDomain b.host defect))))
  /-- Both fail with the same errors. -/
  | failed (instant : Duration) (errors : List LookupError) :
    EndAlike a b (some (instant, .error (.lookup errors))) (some (instant, .error (.lookup errors)))
  /-- Both find the same keys by the same method. -/
  | found (instant : Duration) (method : Method) {outcome outcome' : Outcome}
    (alike : outcome.Alike a b outcome') :
    EndAlike a b (some (instant, .ok ⟨method, outcome⟩)) (some (instant, .ok ⟨method, outcome'⟩))

/-- With the rules of the library, the discoveries for two spellings of a mailbox make the same
requests at the same instants, and they end at the same instant and alike. -/
theorem discover_spelling {client : Client} (same : a.sameMailbox b = true)
    (ours : ∀ rule ∈ client.chain.rules, rule.name? = none) (clock : Clock) (transport : Transport)
    (options : LookupOptions) :
    (client.discover clock transport options a).trace.timedRequests =
        (client.discover clock transport options b).trace.timedRequests ∧
      EndAlike a b (client.discover clock transport options a).result
        (client.discover clock transport options b).result := by
  obtain ⟨user, -⟩ := MailAddress.sameMailbox_iff.mp same
  unfold discover places
  rw [user, Resource.candidates_host_congr same]
  cases (Resource.keys b.user).candidates b.host with
  | error defect => exact ⟨rfl, .unusable 0 defect⟩
  | ok candidates =>
    change Trace.timedRequests (client.lookup clock transport options (.ok candidates) _).trace =
        Trace.timedRequests (client.lookup clock transport options (.ok candidates) _).trace ∧
      EndAlike a b (client.lookup clock transport options (.ok candidates) _).result
        (client.lookup clock transport options (.ok candidates) _).result
    constructor
    · rw [timedRequests_lookup, timedRequests_lookup]
    · rw [result_lookup, result_lookup]
      rcases (fetch clock transport candidates options client.requestTimeout).result with
        _ | ⟨instant, errors | found⟩
      · exact .endless
      · exact .failed instant _
      · -- the same body is read, and its keys are judged for each of the spellings
        simp only [Option.map_some, conclude]
        cases client.readKeys found.value with
        | error errors => exact .failed instant errors
        | ok keys => exact .found instant found.method (Chain.validate_alike same ours keys)

/-- A key that names the mailbox in a third spelling is found for the other two as well, and the key
of another mailbox for neither. -/
theorem discover_spelling_third :
    let others := Key.ofUserId "k@b.org"
    let rules := [.missingUserId, .minimumBits .dsa 2048]
    let client := Client.ofKeys rules [others, .ofUserId "j@B.org"]
    let transport := Transport.ofReplies [⟨[.sleep 2], .fail .timeout⟩, ⟨[.sleep 3], .answer [1]⟩]
    let run := client.discover .standard transport {} ⟨none, "j", "b.org"⟩
    MailAddress.ofText "J <j@b.Org>" = .ok ⟨some "J", "j", "b.Org"⟩ ∧
      MailAddress.ofText "j@b.org" = .ok ⟨none, "j", "b.org"⟩ ∧
      run.trace.timedRequests.map Prod.fst = [0, 2] ∧
      ∃ outcome, run.result = some (5, .ok ⟨.direct, outcome⟩) ∧
        outcome.accepted = [.ofUserId "j@B.org"] ∧
        outcome.rejected = [(others, .missingUserId ⟨none, "j", "b.org"⟩)] := by
  intro others rules client transport run
  have same : MailAddress.sameMailbox ⟨some "J", "j", "b.Org"⟩ ⟨none, "j", "b.org"⟩ = true := rfl
  have ours : ∀ rule ∈ client.chain.rules, rule.name? = none := by
    simp [client, rules, ofKeys, Rule.name?]
  obtain ⟨requests_eq, alike⟩ := discover_spelling same ours .standard transport {}
  -- one of the two discoveries is run, and the theorem tells of the other
  have requested :
      (client.discover .standard transport {} ⟨some "J", "j", "b.Org"⟩).trace.timedRequests.map
        Prod.fst = [0, 2] := rfl
  have found : (client.discover .standard transport {} ⟨some "J", "j", "b.Org"⟩).result =
      some (5, .ok ⟨.direct, client.chain.validate ⟨some "J", "j", "b.Org"⟩
        [others, .ofUserId "j@B.org"]⟩) := rfl
  have judged : (client.chain.validate ⟨some "J", "j", "b.Org"⟩
        [others, .ofUserId "j@B.org"]).rejected =
      [(others, .missingUserId ⟨some "J", "j", "b.Org"⟩)] := rfl
  refine ⟨rfl, rfl, requests_eq ▸ requested, ?_⟩
  rw [found] at alike
  generalize run.result = result at alike ⊢
  cases alike with
  | @found _ _ _ outcome alike =>
    have rejected := alike.rejected
    rw [judged] at rejected
    refine ⟨outcome, rfl, alike.accepted_eq.symm, ?_⟩
    rcases List.forall₂_cons_left_iff.mp rejected with
      ⟨⟨key, reason⟩, rest, ⟨rfl, reasons⟩, none, rejected_eq⟩
    obtain rfl := List.forall₂_nil_left_iff.mp none
    cases reasons
    exact rejected_eq

end Client

end KeyDirectory
