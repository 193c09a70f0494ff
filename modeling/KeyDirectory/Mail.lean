import KeyDirectory.Text.Blank
import KeyDirectory.Text.Quoted
import KeyDirectory.Text.Split

/-!
# Mail addresses

A mail address is `local@domain`, alone or in angle brackets after a display name. Quoted local parts
and comments are not known. Every text that is no address has one defect, the first that applies in
the order of the reader.
-/

namespace KeyDirectory

structure MailAddress where
  displayName : Option String
  user : String
  host : String
deriving DecidableEq, Repr

namespace MailAddress

/-- Why a text is not a mail address. -/
inductive Defect where
  /-- Nothing but white space. -/
  | empty
  | missingAt
  | multipleAt
  | emptyLocalPart
  | emptyDomain
  /-- White space inside the address. -/
  | whitespace
  /-- An ASCII character that no host name holds. -/
  | domainCharacter (c : Char)
  /-- A display name without a closed bracket after it. -/
  | openBracket
deriving DecidableEq, Repr

def Defect.message : Defect → String
  | .empty => "Mail address: empty input"
  | .missingAt => "Mail address: missing `@`"
  | .multipleAt => "Mail address: more than one `@`"
  | .emptyLocalPart => "Mail address: empty local part"
  | .emptyDomain => "Mail address: empty domain"
  | .whitespace => "Mail address: whitespace inside the address"
  | .domainCharacter c =>
    "Mail address: invalid character " ++ Text.Quoted.char c ++ " in domain"
  | .openBracket => "Mail address: `<` without closing `>`"

/-- An ASCII character that no host name holds; characters past ASCII are left to the rules on
international names. -/
def isBadHostChar (c : Char) : Bool :=
  c.toNat < 128 && !(c.isAlphanum || c == '-' || c == '.')

/-- Reads `local@domain`. -/
def readBare (text : List Char) : Except Defect (List Char × List Char) :=
  if text.any Text.isBlank then .error .whitespace
  else
    match Text.splitLast '@' text with
    | none => .error .missingAt
    | some (user, host) =>
      if '@' ∈ user then .error .multipleAt
      else if user.isEmpty then .error .emptyLocalPart
      else if host.isEmpty then .error .emptyDomain
      else
        match host.find? isBadHostChar with
        | some c => .error (.domainCharacter c)
        | none => .ok (user, host)

/-- Drops the double quotes at both ends. -/
def unquote (text : List Char) : List Char :=
  ((text.dropWhile (· == '"')).reverse.dropWhile (· == '"')).reverse

/-- The display name before a bracket, without quotes; blank is none. -/
def readName (text : List Char) : Option String :=
  match Text.trim (unquote (Text.trim text)) with
  | [] => none
  | name => some (String.ofList name)

/-- Reads a mail address from characters. -/
def read (text : List Char) : Except Defect MailAddress :=
  let text := Text.trim text
  if text.isEmpty then .error .empty
  else
    match Text.splitFirst '<' text with
    | none => (readBare text).map fun (user, host) => ⟨none, String.ofList user, String.ofList host⟩
    | some (name, rest) =>
      if rest.getLast? = some '>' then
        (readBare (Text.trim rest.dropLast)).map fun (user, host) =>
          ⟨readName name, String.ofList user, String.ofList host⟩
      else .error .openBracket

/-- Reads a mail address. White space around it does not count. -/
def ofText (text : String) : Except Defect MailAddress :=
  read text.toList

/-- The address proper, without the display name. -/
def address (m : MailAddress) : String :=
  m.user ++ "@" ++ m.host

/-- Whether two host names differ at most in the case of ASCII letters. -/
def sameHost (a b : String) : Bool :=
  a.toList.map Char.toLower == b.toList.map Char.toLower

/-- Whether two addresses name one mailbox: equal local parts, and one host name. -/
def sameMailbox (a b : MailAddress) : Bool :=
  a.user == b.user && sameHost a.host b.host

end MailAddress

end KeyDirectory
