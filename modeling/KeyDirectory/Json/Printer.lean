import KeyDirectory.Json.Basic
import KeyDirectory.Number.Shortest

/-!
# Writing JSON

The compact text of a value: no white space, short escapes where there are any, and characters past
ASCII as they are.
-/

namespace KeyDirectory.Json

/-- A character between quotes. -/
def escape : Char → List Char
  | '"' => ['\\', '"']
  | '\\' => ['\\', '\\']
  | '\n' => ['\\', 'n']
  | '\r' => ['\\', 'r']
  | '\t' => ['\\', 't']
  | '\x08' => ['\\', 'b']
  | '\x0c' => ['\\', 'f']
  | c =>
    if c.toNat < 32 then
      ['\\', 'u', '0', '0', Nat.digitChar (c.toNat / 16), Nat.digitChar (c.toNat % 16)]
    else [c]

def quote (s : String) : String :=
  String.ofList ('"' :: s.toList.flatMap escape ++ ['"'])

def floatText (isNegative : Bool) (magnitude : Binary64) : String :=
  (if isNegative then "-" else "") ++ magnitude.toText

mutual

/-- The compact text of a value. -/
def render : Json → String
  | .null => "null"
  | .boolean b => if b then "true" else "false"
  | .integer n => toString n
  | .float isNegative magnitude => floatText isNegative magnitude
  | .text s => quote s
  | .list items => "[" ++ ",".intercalate (renderItems items) ++ "]"
  | .object fields => "\x7b" ++ ",".intercalate (renderFields fields) ++ "\x7d"

def renderItems : List Json → List String
  | [] => []
  | item :: rest => item.render :: renderItems rest

def renderFields : List (String × Json) → List String
  | [] => []
  | (name, value) :: rest => (quote name ++ ":" ++ value.render) :: renderFields rest

end

end KeyDirectory.Json
