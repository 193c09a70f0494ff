import KeyDirectory.Json.Printer
import KeyDirectory.Location
import KeyDirectory.Mail

/-!
# Serialized values

Addresses and methods travel as strings inside JSON. Reading one back from a value of the wrong kind
says what was found and what was expected.
-/

namespace KeyDirectory

namespace Json

/-- What was found, in messages. -/
def describe : Json → String
  | .null => "null"
  | .boolean b => s!"boolean `{b}`"
  | .integer n => s!"integer `{n}`"
  | .float isNegative magnitude => s!"floating point `{floatText isNegative magnitude}`"
  | .text s => "string " ++ Text.Quoted.string s
  | .list _ => "sequence"
  | .object _ => "map"

/-- Why a value is not of the kind that was asked for. -/
inductive Mismatch where
  /-- A value of another kind. -/
  | kind (found : String) (expected : String)
  /-- An object that does not have one field. -/
  | keyCount
  /-- A name that no method has. -/
  | methodName (name : String)
  /-- A string that is no mail address. -/
  | mailAddress (defect : MailAddress.Defect)

def Mismatch.message : Mismatch → String
  | .kind found expected => s!"invalid type: {found}, expected {expected}"
  | .keyCount => "invalid value: map, expected map with a single key"
  | .methodName name => s!"unknown variant `{name}`, expected `Advanced` or `Direct`"
  | .mailAddress defect => defect.message

end Json

/-- Reads a mail address: a string that holds one. -/
def MailAddress.ofJson : Json → Except Json.Mismatch MailAddress
  | .text s => (ofText s).mapError .mailAddress
  | other => .error (.kind other.describe "a string")

def Method.named (name : String) : Except Json.Mismatch Method :=
  match ofName? name with
  | some m => .ok m
  | none => .error (.methodName name)

/-- Reads a method: its name, or an object that sends its name to nothing. -/
def Method.ofJson : Json → Except Json.Mismatch Method
  | .text s => named s
  | .object [(name, content)] => do
    let m ← named name
    match content with
    | .null => .ok m
    | other => .error (.kind other.describe "unit")
  | .object _ => .error .keyCount
  | other => .error (.kind other.describe "string or map")

end KeyDirectory
