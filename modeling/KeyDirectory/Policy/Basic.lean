import KeyDirectory.Mail

/-!
# Policies

What a domain declares about its directory: three flags, the version of the protocol, and an address
for submissions.
-/

namespace KeyDirectory

/-- The declarations of a domain. -/
structure Policy where
  /-- Only keys whose user ids are bare mailboxes are taken. -/
  mailboxOnly : Bool := false
  /-- Keys are published in the DNS, not in a directory. -/
  daneOnly : Bool := false
  /-- Submissions need no confirmation. -/
  authSubmit : Bool := false
  /-- The version of the update protocol. -/
  protocolVersion : Option Int := none
  /-- Where keys are submitted. -/
  submissionAddress : Option MailAddress := none
deriving DecidableEq, Repr

namespace Policy

def empty : Policy := {}

inductive Keyword where
  | mailboxOnly
  | daneOnly
  | authSubmit
  | protocolVersion
  | submissionAddress
deriving DecidableEq, Repr

def Keyword.all : List Keyword :=
  [.mailboxOnly, .daneOnly, .authSubmit, .protocolVersion, .submissionAddress]

def Keyword.name : Keyword → String
  | .mailboxOnly => "mailbox-only"
  | .daneOnly => "dane-only"
  | .authSubmit => "auth-submit"
  | .protocolVersion => "protocol-version"
  | .submissionAddress => "submission-address"

inductive Setting where
  | mailboxOnly
  | daneOnly
  | authSubmit
  | protocolVersion (version : Int)
  | submissionAddress (address : MailAddress)
deriving DecidableEq, Repr

/-- The policy after one more declaration. -/
def declare (p : Policy) : Setting → Policy
  | .mailboxOnly => { p with mailboxOnly := true }
  | .daneOnly => { p with daneOnly := true }
  | .authSubmit => { p with authSubmit := true }
  | .protocolVersion version => { p with protocolVersion := some version }
  | .submissionAddress address => { p with submissionAddress := some address }

/-- The declarations of a policy, one for each field that is set, in the order of the fields. -/
def settings (p : Policy) : List Setting :=
  (if p.mailboxOnly then [.mailboxOnly] else []) ++
    (if p.daneOnly then [.daneOnly] else []) ++
    (if p.authSubmit then [.authSubmit] else []) ++
    (p.protocolVersion.map Setting.protocolVersion).toList ++
    (p.submissionAddress.map Setting.submissionAddress).toList

def Setting.keyword : Setting → Keyword
  | .mailboxOnly => .mailboxOnly
  | .daneOnly => .daneOnly
  | .authSubmit => .authSubmit
  | .protocolVersion _ => .protocolVersion
  | .submissionAddress _ => .submissionAddress

/-- The value of a declaration; flags have none. -/
def Setting.value? : Setting → Option String
  | .protocolVersion version => some (toString version)
  | .submissionAddress address => some address.address
  | _ => none

def Setting.line (s : Setting) : String :=
  match s.value? with
  | some value => s.keyword.name ++ ": " ++ value
  | none => s.keyword.name

/-- A policy as text: one line for each field that is set. -/
def toText (p : Policy) : String :=
  "\n".intercalate (p.settings.map Setting.line)

end Policy

end KeyDirectory
