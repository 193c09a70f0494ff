import KeyDirectory.Location
import KeyDirectory.Policy.File
import KeyDirectory.Transport.Failure

/-!
# Errors of lookups

A lookup fails with the errors it met, in order: one for each place that was tried, or what is wrong
with the content that came. A call whose arguments are unusable fails before any request.
-/

namespace KeyDirectory

/-- A failed attempt at one place. -/
structure NetworkError where
  method : Method
  url : Url
  /-- What the candidate has to report. -/
  fallbackMessage : String
  /-- Why the request failed. -/
  source : Failure
deriving DecidableEq, Repr

def NetworkError.ofCandidate (c : Candidate) (source : Failure) : NetworkError :=
  ⟨c.method, c.url, c.fallbackMessage, source⟩

/-- An error that a lookup meets. -/
inductive LookupError where
  /-- A place could not be retrieved. -/
  | network (error : NetworkError)
  /-- A content, or an argument, is not the mail address that it should be. -/
  | invalidMailAddress (input : String) (reason : MailAddress.Defect)
  /-- A content cannot be read as text. -/
  | unreadableContent (detail : String)
  /-- Keys cannot be read from a content. -/
  | keyParsing (detail : String)
  /-- A line of a policy file was skipped. -/
  | policyParsing (error : Policy.LineError)
deriving DecidableEq, Repr

namespace LookupError

def message : LookupError → String
  | .network e => s!"{e.fallbackMessage} [{e.source.message}]"
  | .invalidMailAddress input _ => s!"Invalid e-mail address: {input}"
  | .unreadableContent detail => s!"Unreadable response content: {detail}"
  | .keyParsing detail => detail
  | .policyParsing e => e.message

/-- The wordings of what lies under an error. -/
def causes : LookupError → List String
  | .network e => [e.source.message]
  | .invalidMailAddress _ reason => [reason.message]
  | _ => []

def isNetwork : LookupError → Bool
  | .network _ => true
  | _ => false

def messages (errors : List LookupError) : String :=
  "; ".intercalate (errors.map message)

end LookupError

/-- Why the arguments of a call are unusable. -/
inductive InvalidInput where
  | emptyDomain
  | emptyMailAddress
  /-- An ASCII character that no host name holds. -/
  | domainCharacter (c : Char) (domain : String)
  /-- No URL can be made from the domain. -/
  | unusableDomain (domain : String) (defect : Url.Defect)
deriving DecidableEq, Repr

def InvalidInput.message : InvalidInput → String
  | .emptyDomain => "the domain must not be empty"
  | .emptyMailAddress => "the mail address must not be empty"
  | .domainCharacter c domain =>
    "invalid character " ++ Text.Quoted.char c ++ " in domain " ++ domain
  | .unusableDomain domain defect => s!"invalid domain {domain}: {defect.message}"

/-- Why a client cannot be built. -/
inductive BuildError where
  /-- The name of the client cannot be sent in a header. -/
  | userAgent
deriving DecidableEq, Repr

/-- The wordings of a build error and of what lies under it, from the outside in. -/
def BuildError.messages : BuildError → List String
  | .userAgent =>
    ["Failed to build the HTTP client: builder error", "builder error",
     "failed to parse header value"]

/-- Why a call failed. -/
inductive ClientError where
  | invalidInput (cause : InvalidInput)
  | lookup (errors : List LookupError)
  | build (error : BuildError)
deriving DecidableEq, Repr

namespace ClientError

/-- The wordings of what lies under an error, from the outside in. -/
def causes : ClientError → List String
  | .invalidInput _ => []
  | .lookup errors => [LookupError.messages errors]
  | .build error => error.messages

def message : ClientError → String
  | .invalidInput cause => "Invalid input: " ++ cause.message
  | .lookup errors => "Lookup failed: " ++ LookupError.messages errors
  | .build error => "Client build failed: " ++ error.messages.headD ""

end ClientError

end KeyDirectory
