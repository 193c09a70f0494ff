/-!
# Schemes

What stands before the first colon of a URL. The schemes of the web have rules of their own: a host
that is never empty, a port that needs no mention, and backslashes for slashes.
-/

namespace KeyDirectory.Url

inductive Scheme where
  | https
  | http
  | wss
  | ws
  | ftp
  | file
  | other (name : String)
deriving DecidableEq, Repr

namespace Scheme

def name : Scheme → String
  | .https => "https"
  | .http => "http"
  | .wss => "wss"
  | .ws => "ws"
  | .ftp => "ftp"
  | .file => "file"
  | .other name => name

/-- The schemes with rules of their own. -/
def special : List Scheme := [.https, .http, .wss, .ws, .ftp, .file]

/-- The scheme of a name in lower case. -/
def ofName (name : String) : Scheme :=
  (special.find? (·.name == name)).getD (.other name)

/-- Whether a scheme has rules of its own. -/
def isSpecial : Scheme → Bool
  | .other _ => false
  | _ => true

def defaultPort? : Scheme → Option Nat
  | .https => some 443
  | .http => some 80
  | .wss => some 443
  | .ws => some 80
  | .ftp => some 21
  | _ => none

def isSchemeChar (c : Char) : Bool :=
  c.isAlphanum || c == '+' || c == '-' || c == '.'

/-- The scheme at the start of a URL, and what follows its colon. -/
def read? (text : List Char) : Option (Scheme × List Char) :=
  let name := text.takeWhile isSchemeChar
  match text.dropWhile isSchemeChar with
  | ':' :: rest =>
    if name.head?.any Char.isAlpha then
      some (ofName (String.ofList (name.map Char.toLower)), rest)
    else none
  | _ => none

end Scheme

end KeyDirectory.Url
