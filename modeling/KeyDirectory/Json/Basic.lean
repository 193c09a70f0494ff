import KeyDirectory.Number.Binary64

/-!
# JSON values

Whole numbers of 64 bits, signed or unsigned, are kept apart from numbers in floating point. The
fields of an object are sorted by name, and a name occurs once.
-/

namespace KeyDirectory

inductive Json where
  | null
  | boolean (b : Bool)
  | integer (n : Int)
  | float (isNegative : Bool) (magnitude : Binary64)
  | text (s : String)
  | list (items : List Json)
  | object (fields : List (String × Json))
deriving Inhabited

namespace Json

/-- Sets a field; a field of this name that is there already is replaced. -/
def setField (name : String) (value : Json) : List (String × Json) → List (String × Json)
  | [] => [(name, value)]
  | (other, old) :: rest =>
    if name = other then (name, value) :: rest
    else if name < other then (name, value) :: (other, old) :: rest
    else (other, old) :: setField name value rest

def ofFields (fields : List (String × Json)) : Json :=
  .object (fields.foldl (fun done (name, value) => setField name value done) [])

/-- A field of an object; what is not there is null. -/
def field : Json → String → Json
  | .object fields, name => (fields.lookup name).getD .null
  | _, _ => .null

/-- Whether a whole number fits 64 bits, with a sign or without. -/
def fitsInteger (n : Int) : Bool :=
  -9223372036854775808 ≤ n && n ≤ 18446744073709551615

end Json

end KeyDirectory
