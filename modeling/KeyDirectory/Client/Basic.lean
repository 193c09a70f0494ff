import KeyDirectory.Retrieval.Fetch
import KeyDirectory.Validation.Assembly

/-!
# The client

A client looks up three things: the submission address of a domain, its policy, and the keys of a mail
address. Each lookup checks its argument, retrieves the first body that the two methods lead to, and
reads it. An unusable argument never reaches the network, and a body that cannot be read never makes
the client try the other method.
-/

namespace KeyDirectory

/-- Reads the keys that a body holds, or says what is wrong with it. -/
abbrev KeyReader := List UInt8 → Except (List LookupError) (List Key)

structure Client where
  /-- The rules that discovered keys have to pass. -/
  chain : Chain
  /-- The span that bounds a lookup; zero is no bound. -/
  requestTimeout : Duration
  readKeys : KeyReader

abbrev PolicyAnswer := Retrieved Policy.File

abbrev SubmissionAnswer := Retrieved MailAddress

abbrev DiscoveryAnswer := Retrieved Outcome

/-- Whether lines of the policy file were skipped. -/
def PolicyAnswer.hasErrors (answer : PolicyAnswer) : Bool :=
  !answer.value.errors.isEmpty

def DiscoveryAnswer.hasRejected (answer : DiscoveryAnswer) : Bool :=
  !answer.value.rejected.isEmpty

namespace Client

/-! ## Arguments -/

/-- The domain that an argument names, without the white space around it. It must hold something, and
no ASCII character that host names do not have. -/
def checkDomain (argument : String) : Except InvalidInput String :=
  let domain := Text.trim argument.toList
  if domain.isEmpty then .error .emptyDomain
  else
    match domain.find? MailAddress.isBadHostChar with
    | some c => .error (.domainCharacter c (String.ofList domain))
    | none => .ok (String.ofList domain)

/-- The places of a resource of a domain; that there are none is blamed on the domain. -/
def places (resource : Resource) (domain : String) : Except InvalidInput (List Candidate) :=
  (resource.candidates domain).mapError (.unusableDomain domain)

/-! ## Contents -/

/-- Reads a submission address: text that is a mail address. -/
def readSubmissionAddress (body : List UInt8) : Except LookupError MailAddress :=
  match Text.Utf8.decode body with
  | .error malformation => .error (.unreadableContent malformation.message)
  | .ok text =>
    let text := Text.trim text
    (MailAddress.read text).mapError (.invalidMailAddress (String.ofList text))

/-- The log line about skipped lines, if there are any. -/
def policyLog (domain : String) (file : Policy.File) : List LogLine :=
  if file.errors.isEmpty then [] else [.malformedLines domain file.errors.length]

def discoveryLog (lookup : MailAddress) (outcome : Outcome) : List LogLine :=
  outcome.rejected.map fun (key, reason) =>
    .rejectedKey key.fingerprint lookup.address reason.message

/-! ## Lookups -/

/-- Retrieves a body from candidates and reads it. Reading yields a value or errors, and log lines. -/
def lookup {α : Type} (client : Client) (clock : Clock) (transport : Transport)
    (options : LookupOptions) (candidates : Except InvalidInput (List Candidate))
    (read : List UInt8 → Except (List LookupError) α × List LogLine) :
    Run (Except ClientError (Retrieved α)) :=
  match candidates with
  | .error cause => .ofValue (.error (.invalidInput cause))
  | .ok candidates =>
    (fetch clock transport candidates options client.requestTimeout).andThen fun
      | .error errors => (.error (.lookup (errors.map .network)), [])
      | .ok found =>
        let (result, lines) := read found.value
        ((result.map fun value => ⟨found.method, value⟩).mapError .lookup, lines)

def submissionAddress (client : Client) (clock : Clock) (transport : Transport)
    (options : LookupOptions) (domain : String) : Run (Except ClientError SubmissionAnswer) :=
  client.lookup clock transport options ((checkDomain domain).bind (places .submissionAddress))
    fun body => ((readSubmissionAddress body).mapError ([·]), [])

/-- Looks up the policy of a domain. Lines that cannot be understood are part of the answer. -/
def policy (client : Client) (clock : Clock) (transport : Transport) (options : LookupOptions)
    (domain : String) : Run (Except ClientError PolicyAnswer) :=
  client.lookup clock transport options ((checkDomain domain).bind (places .policy))
    fun body =>
      let file := Policy.File.ofBytes body
      (.ok file, policyLog (Text.trimmed domain) file)

/-- Looks up the keys of a mail address. That all of them are rejected is an answer as well. -/
def discover (client : Client) (clock : Clock) (transport : Transport) (options : LookupOptions)
    (m : MailAddress) : Run (Except ClientError DiscoveryAnswer) :=
  client.lookup clock transport options (places (.keys m.user) m.host)
    fun body =>
      match client.readKeys body with
      | .error errors => (.error errors, [])
      | .ok keys =>
        let outcome := client.chain.validate m keys
        (.ok outcome, discoveryLog m outcome)

/-- Looks up the keys of the mail address that a text holds. A text that holds none fails the lookup
before any request. -/
def discoverText (client : Client) (clock : Clock) (transport : Transport) (options : LookupOptions)
    (text : String) : Run (Except ClientError DiscoveryAnswer) :=
  if Text.allBlank text then .ofValue (.error (.invalidInput .emptyMailAddress))
  else
    match MailAddress.ofText text with
    | .error defect => .ofValue (.error (.lookup [.invalidMailAddress text defect]))
    | .ok m => client.discover clock transport options m

end Client

end KeyDirectory
