import KeyDirectory.Url.Host
import KeyDirectory.Url.Path
import KeyDirectory.Url.Scheme

/-!
# URLs

Reading an absolute URL, resolving a relative reference, and printing. Reading repairs what it can:
blanks and controls at the ends, tabs and line ends anywhere, backslashes for slashes, and characters
that need encoding.
-/

namespace KeyDirectory

/-- A URL, all of its parts encoded. -/
structure Url where
  scheme : Url.Scheme
  username : String
  password : Option String
  /-- The host, in a URL that names one. -/
  host : Option Url.Host
  /-- The port, when it is not the one of the scheme. -/
  port : Option Nat
  /-- The segments of the path. -/
  path : List String
  /-- Whether a slash stands before each segment; otherwise the path is one text. -/
  isRooted : Bool
  query : Option String
  fragment : Option String
deriving DecidableEq, Repr

namespace Url

/-! ## Printing -/

/-- The user name and the password as they stand before the host. -/
def renderUserinfo (url : Url) : List Char :=
  if url.username.isEmpty && url.password.isNone then []
  else
    url.username.toList ++ (match url.password with | some p => ':' :: p.toList | none => []) ++
      ['@']

def renderAuthority (url : Url) : List Char :=
  match url.host with
  | some host =>
    ['/', '/'] ++ url.renderUserinfo ++ host.render ++
      (match url.port with | some n => ':' :: Nat.toDigits 10 n | none => [])
  | none => []

/-- The path as it stands in the URL. Without a host it must not look like the start of one. -/
def renderPath (url : Url) : List Char :=
  let segments := url.path.map String.toList
  if url.isRooted then
    (if url.host.isNone && segments.length > 1 && segments.head? == some [] then ['/', '.'] else []) ++
      Path.render segments
  else segments.flatten

def render (url : Url) : List Char :=
  url.scheme.name.toList ++ [':'] ++ url.renderAuthority ++ url.renderPath ++
    (match url.query with | some q => '?' :: q.toList | none => []) ++
    (match url.fragment with | some f => '#' :: f.toList | none => [])

def toText (url : Url) : String :=
  String.ofList url.render

/-! ## Reading -/

/-- A control or a blank, dropped at the ends of a URL. -/
def isEdge (c : Char) : Bool :=
  c.toNat ≤ 32

/-- A tab or the end of a line, dropped anywhere in a URL. -/
def isDropped (c : Char) : Bool :=
  c == '\t' || c == '\n' || c == '\r'

/-- The text without the characters that do not count. -/
def clean (text : List Char) : List Char :=
  let inner := ((text.dropWhile isEdge).reverse.dropWhile isEdge).reverse
  inner.filter (!isDropped ·)

def endsAuthority (isSpecial : Bool) (c : Char) : Bool :=
  Path.isSeparator isSpecial c || c == '?' || c == '#'

def endsPath (c : Char) : Bool :=
  c == '?' || c == '#'

/-- Splits user information at its first colon. An empty password is none. -/
def readUserinfo (text : List Char) : String × Option String :=
  let encode := fun part => String.ofList (Percent.encode Percent.inUserinfo part)
  match Text.splitFirst ':' text with
  | none => (encode text, none)
  | some (user, []) => (encode user, none)
  | some (user, password) => (encode user, some (encode password))

/-- Splits a host from the port at the first colon that is not in brackets. -/
def splitPort (inBrackets : Bool) : List Char → List Char × Option (List Char)
  | [] => ([], none)
  | c :: rest =>
    if c = ':' ∧ inBrackets = false then ([], some rest)
    else
      let (host, port) := splitPort (c = '[' || (inBrackets && c != ']')) rest
      (c :: host, port)

/-- Reads a port. No digits, or the port of the scheme, is no port. -/
def readPort (scheme : Scheme) (text : Option (List Char)) : Except Defect (Option Nat) :=
  match text with
  | none => .ok none
  | some [] => .ok none
  | some digits =>
    if digits.all Char.isDigit ∧ Text.digitsValue digits < 65536 then
      .ok (some (Text.digitsValue digits) |>.filter (scheme.defaultPort? ≠ some ·))
    else .error .port

def readTail (scheme : Scheme) (text : List Char) : Option String × Option String :=
  let query := text.takeWhile (· ≠ '#')
  let fragment := text.dropWhile (· ≠ '#')
  (match query with
    | '?' :: q => some (String.ofList (Percent.encode (Percent.inQuery scheme.isSpecial) q))
    | _ => none,
   match fragment with
    | '#' :: f => some (String.ofList (Percent.encode Percent.inFragment f))
    | _ => none)

/-- The path after the authority, without its first separator. -/
def dropSeparator (isSpecial : Bool) : List Char → List Char
  | c :: rest => if Path.isSeparator isSpecial c then rest else c :: rest
  | [] => []

/-- A URL without port and user information; `text` holds what follows the path. -/
def withPath (scheme : Scheme) (host : Option Host) (isRooted : Bool) (path : List (List Char))
    (text : List Char) : Url :=
  let (query, fragment) := readTail scheme text
  { scheme, username := "", password := none, host, port := none, path := path.map String.ofList,
    isRooted, query, fragment }

/-- Reads what follows the scheme and its slashes. An empty host is possible only where the scheme
has no rules of its own, and then nothing else may stand in the authority. -/
def readAuthority (scheme : Scheme) (text : List Char) : Except Defect Url := do
  let isSpecial := scheme.isSpecial
  let authority := text.takeWhile (!endsAuthority isSpecial ·)
  let rest := text.dropWhile (!endsAuthority isSpecial ·)
  let (userinfo, hostPort) := (Text.splitLast '@' authority).getD ([], authority)
  let (username, password) := readUserinfo userinfo
  let (hostText, portText) := splitPort false hostPort
  let host ←
    if hostText.isEmpty ∧ (isSpecial ∨ authority ≠ []) then .error .emptyHost
    else Host.ofText isSpecial hostText
  let port ← readPort scheme portText
  let pathText := rest.takeWhile (!endsPath ·)
  let path :=
    if pathText.isEmpty ∧ ¬isSpecial then []
    else Path.read isSpecial [] (dropSeparator isSpecial pathText)
  .ok { withPath scheme (some host) true path (rest.dropWhile (!endsPath ·)) with
    username, password, port }

/-- Reads the host of a file. The machine itself is not named. -/
def readFileHost (text : List Char) : Except Defect Host :=
  if text.isEmpty then .ok (.domain "")
  else (Host.ofText true text).map fun host => if host = .domain "localhost" then .domain "" else host

/-- Reads what follows the scheme of a file. What looks like a drive is no host, and a drive in the
path takes the host away. -/
def readFile (text : List Char) : Except Defect Url := do
  let isSeparator := Path.isSeparator true
  let afterSlashes := match text with
    | a :: b :: rest => if isSeparator a && isSeparator b then some rest else none
    | _ => none
  let hostText := (afterSlashes.getD []).takeWhile (!endsAuthority true ·)
  let isHost := afterSlashes.isSome && !Path.isDrive hostText
  let host ← readFileHost (if isHost then hostText else [])
  let rest := if isHost then (afterSlashes.getD []).drop hostText.length else afterSlashes.getD text
  let path := Path.readFile (dropSeparator true (rest.takeWhile (!endsPath ·)))
  let host := if path.head?.any Path.isDrive then .domain "" else host
  .ok (withPath .file (some host) true path (rest.dropWhile (!endsPath ·)))

/-- Reads what follows a scheme without rules of its own. -/
def readOther (scheme : Scheme) (text : List Char) : Except Defect Url :=
  match text with
  | '/' :: '/' :: rest => readAuthority scheme rest
  | '/' :: rest =>
    let path := Path.read false [] (rest.takeWhile (!endsPath ·))
    .ok (withPath scheme none true path (rest.dropWhile (!endsPath ·)))
  | _ =>
    let path := Percent.encode Percent.inPlain (text.takeWhile (!endsPath ·))
    .ok (withPath scheme none false [path] (text.dropWhile (!endsPath ·)))

def ofText (text : String) : Except Defect Url :=
  match Scheme.read? (clean text.toList) with
  | none => .error .noScheme
  | some (.file, rest) => readFile rest
  | some (.other name, rest) => readOther (.other name) rest
  | some (scheme, rest) => readAuthority scheme (rest.dropWhile (Path.isSeparator true))

/-- Resolves a reference that starts with a segment of a path: it takes the place of the last segment
of the base, and of its query and fragment. -/
def resolve (base : Url) (reference : String) : Url :=
  let text := clean reference.toList
  let directory := (base.path.map String.toList).dropLast
  let path := Path.read base.scheme.isSpecial directory (text.takeWhile (!endsPath ·))
  let (query, fragment) := readTail base.scheme (text.dropWhile (!endsPath ·))
  { base with path := path.map String.ofList, query, fragment }

end Url

end KeyDirectory
