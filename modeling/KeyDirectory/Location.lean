import KeyDirectory.Codec.ZBase32
import KeyDirectory.Digest.Sha1
import KeyDirectory.Mail
import KeyDirectory.Unicode.Lowercase
import KeyDirectory.Url.Basic

/-!
# Where a domain publishes

Keys, the policy and the submission address of a domain have two places each: under a subdomain made
for the directory, and under the domain itself. They are tried in this order.
-/

namespace KeyDirectory

/-- The two ways to find the directory of a domain. -/
inductive Method where
  /-- The directory under the subdomain `openpgpkey`. -/
  | advanced
  /-- The directory under the domain itself. -/
  | direct
deriving DecidableEq, Repr

namespace Method

/-- Both methods, in the order in which they are tried. -/
def all : List Method := [.advanced, .direct]

def name : Method → String
  | .advanced => "Advanced"
  | .direct => "Direct"

def ofName? (s : String) : Option Method :=
  all.find? (·.name == s)

/-- What is reported when a request by this method fails. -/
def fallbackMessage : Method → String
  | .advanced => "Advanced method failed, fall back to the direct method"
  | .direct => "Direct method failed"

/-- The directory of a domain in lower case, as the text of a URL. -/
def baseText (method : Method) (domain : List Char) : String :=
  match method with
  | .advanced =>
    String.ofList
      ("https://openpgpkey.".toList ++ domain ++ "/.well-known/openpgpkey/".toList ++ domain ++
        ['/'])
  | .direct => String.ofList ("https://".toList ++ domain ++ "/.well-known/openpgpkey/".toList)

end Method

/-- A place to look, the method that leads there, and what is reported when the place fails. -/
structure Candidate where
  method : Method
  url : Url
  fallbackMessage : String
deriving DecidableEq, Repr

/-- What is published in a directory. -/
inductive Resource where
  | policy
  | submissionAddress
  /-- The keys of the mailbox with this local part. -/
  | keys (user : String)
deriving DecidableEq, Repr

namespace Resource

/-- The file name for a local part: the z-base-32 form of the SHA-1 digest of the part in lower
case. -/
def hashedUser (user : String) : String :=
  Codec.ZBase32.encode (Digest.Sha1.digest (Text.Utf8.encode (Unicode.lower user.toList)))

/-- The place of a resource relative to the directory. The local part goes along unhashed, in its own
case. -/
def reference : Resource → String
  | .policy => "policy"
  | .submissionAddress => "submission-address"
  | .keys user =>
    "hu/" ++ hashedUser user ++ "?l=" ++
      String.ofList (Url.Percent.encode Url.Percent.isUnreserved user.toList)

/-- The place of a resource by one method, for a domain in lower case. -/
def candidate (resource : Resource) (domain : List Char) (method : Method) :
    Except Url.Defect Candidate :=
  (Url.ofText (method.baseText domain)).map fun base =>
    ⟨method, base.resolve resource.reference, method.fallbackMessage⟩

/-- The places of a resource in the order in which they are tried; the first defect fails all. -/
def candidates (resource : Resource) (domain : String) : Except Url.Defect (List Candidate) :=
  Method.all.mapM (resource.candidate (Unicode.lower domain.toList))

end Resource

def MailAddress.keyCandidates (m : MailAddress) : Except Url.Defect (List Candidate) :=
  (Resource.keys m.user).candidates m.host

end KeyDirectory
