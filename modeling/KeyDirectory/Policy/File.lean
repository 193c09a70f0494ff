import KeyDirectory.Policy.Basic
import KeyDirectory.Text.Numeral
import KeyDirectory.Text.Utf8
import KeyDirectory.Unicode.Lowercase

/-!
# Policy files

A policy file has one declaration on a line, `keyword` or `keyword: value`. Blank lines and lines that
start with `#` mean nothing. A line that cannot be understood is reported and skipped; it never spoils
the others.
-/

namespace KeyDirectory.Policy

/-- The keyword that a text spells, in any case. -/
def Keyword.ofText? (text : List Char) : Option Keyword :=
  Keyword.all.find? fun k => k.name.toList == Unicode.lower text

/-- Why a line declares nothing. -/
inductive LineDefect where
  | unknownKeyword (keyword : String)
  | invalidNumber (value : String)
  | invalidAddress (value : String)
deriving DecidableEq, Repr

def LineDefect.message : LineDefect → String
  | .unknownKeyword keyword => s!"Unknown keyword {keyword}"
  | .invalidNumber value => s!"Invalid number {value}"
  | .invalidAddress value => s!"Invalid e-mail address: {value}"

/-- The declaration that a keyword makes with a value. Flags take no notice of the value. -/
def Keyword.setting (k : Keyword) (value : List Char) : Except LineDefect Setting :=
  match k with
  | .mailboxOnly => .ok .mailboxOnly
  | .daneOnly => .ok .daneOnly
  | .authSubmit => .ok .authSubmit
  | .protocolVersion =>
    match Text.readInt32? value with
    | some version => .ok (.protocolVersion version)
    | none => .error (.invalidNumber (String.ofList value))
  | .submissionAddress =>
    match MailAddress.read value with
    | .ok address => .ok (.submissionAddress address)
    | .error _ => .error (.invalidAddress (String.ofList value))

/-- The keyword and the value of a line: what stands before and after its first colon. -/
def keyValue (line : List Char) : List Char × List Char :=
  match Text.splitFirst ':' line with
  | some (keyword, value) => (Text.trim keyword, Text.trim value)
  | none => (Text.trim line, [])

/-- The declaration on a line that is not blank. -/
def readSetting (line : List Char) : Except LineDefect Setting :=
  let (keyword, value) := keyValue line
  match Keyword.ofText? keyword with
  | some k => k.setting value
  | none => .error (.unknownKeyword (String.ofList keyword))

/-- What a line contributes. -/
inductive Line where
  /-- A blank line or a comment. -/
  | void
  /-- A declaration. -/
  | setting (s : Setting)
  /-- A line that cannot be understood, trimmed. -/
  | defective (text : String) (defect : LineDefect)
deriving DecidableEq, Repr

def Line.read (line : List Char) : Line :=
  match Text.trim line with
  | [] => .void
  | '#' :: _ => .void
  | text =>
    match readSetting text with
    | .ok s => .setting s
    | .error defect => .defective (String.ofList text) defect

/-- A line that was skipped. -/
structure LineError where
  /-- The number of the line, counted from 1. -/
  number : Nat
  /-- The line without the white space around it. -/
  line : String
  /-- What is wrong with it. -/
  comment : String
deriving DecidableEq, Repr

def LineError.message (e : LineError) : String :=
  s!"Unsupported or malformed flag at line {e.number}: {e.line} ({e.comment})"

/-- A policy file that has been read. -/
structure File where
  policy : Policy
  /-- The lines that were skipped, in order. -/
  errors : List LineError
deriving DecidableEq, Repr

/-- Takes in one more line, with its number. -/
def File.feed (file : File) (number : Nat) : Line → File
  | .void => file
  | .setting s => { file with policy := file.policy.declare s }
  | .defective text defect =>
    { file with errors := file.errors ++ [⟨number, text, defect.message⟩] }

/-- Takes in lines, of which the first has the given number. -/
def File.feedAll (file : File) (number : Nat) : List Line → File
  | [] => file
  | line :: rest => (file.feed number line).feedAll (number + 1) rest

def File.ofLines (lines : List Line) : File :=
  File.feedAll ⟨Policy.empty, []⟩ 1 lines

def File.ofText (text : String) : File :=
  File.ofLines ((Text.textLines text.toList).map Line.read)

/-- Reads a policy file held as bytes. It is cut into lines first and decoded line by line, so that
ill-formed bytes touch no other line. A carriage return at the end of a line is dropped, also from a
last line that no line feed ends. -/
def File.ofBytes (bytes : List UInt8) : File :=
  File.ofLines ((Text.lines 10 bytes).map fun line =>
    Line.read (Text.Utf8.decodeLossy (Text.dropFinal 13 line)))

/-- A source of bytes that may break off: what it delivers, and the failure that ends it, if any. -/
structure Source where
  bytes : List UInt8
  failure : Option String := none
deriving DecidableEq, Repr

/-- Reads a policy file from a source. A failure of the source is the only failure. -/
def File.ofSource (source : Source) : Except String File :=
  match source.failure with
  | some message => .error message
  | none => .ok (File.ofBytes source.bytes)

end KeyDirectory.Policy
