import KeyDirectory.Json.Token

/-!
# Reading JSON

A text is read token by token. The lists and objects that are still open wait on a stack, whose
height is bounded.
-/

namespace KeyDirectory.Json

/-- A list or an object that is open, with the items before the one that is being read. Items come
last one first; the name is that of the field whose value is being read. -/
inductive Frame where
  | list (items : List Json)
  | object (fields : List (String × Json)) (name : String)

/-- What has been read, and what may come. The frames around come innermost first. -/
inductive State where
  /-- A value must come. -/
  | value (frames : List Frame)
  /-- A list has just been opened: a value or its end. -/
  | firstItem (frames : List Frame)
  /-- An object has just been opened: a name or its end. -/
  | firstName (frames : List Frame)
  /-- A name must come. -/
  | name (fields : List (String × Json)) (frames : List Frame)
  /-- A colon must come. -/
  | colon (fields : List (String × Json)) (name : String) (frames : List Frame)
  /-- A value is complete: a comma, the end of what is around it, or nothing more. -/
  | complete (value : Json) (frames : List Frame)

/-- How many lists and objects may be open at once. -/
def deepest : Nat := 127

/-- Reads the token at which a value starts. -/
def State.start? (frames : List Frame) : Token → Option State
  | .text s => some (.complete (.text s) frames)
  | .scalar v => some (.complete v frames)
  | .openList => if frames.length < deepest then some (.firstItem frames) else none
  | .openObject => if frames.length < deepest then some (.firstName frames) else none
  | _ => none

def State.step? : State → Token → Option State
  | .value frames, token => start? frames token
  | .firstItem frames, .closeList => some (.complete (.list []) frames)
  | .firstItem frames, token => start? (.list [] :: frames) token
  | .firstName frames, .closeObject => some (.complete (.object []) frames)
  | .firstName frames, .text s => some (.colon [] s frames)
  | .name fields frames, .text s => some (.colon fields s frames)
  | .colon fields key frames, .colon => some (.value (.object fields key :: frames))
  | .complete item (.list items :: frames), .comma =>
    some (.value (.list (item :: items) :: frames))
  | .complete item (.list items :: frames), .closeList =>
    some (.complete (.list (item :: items).reverse) frames)
  | .complete item (.object fields key :: frames), .comma =>
    some (.name (setField key item fields) frames)
  | .complete item (.object fields key :: frames), .closeObject =>
    some (.complete (.object (setField key item fields)) frames)
  | _, _ => none

def ofTokens? (tokens : List Token) : Option Json := do
  match ← tokens.foldlM State.step? (.value []) with
  | .complete value [] => some value
  | _ => none

/-- The value of a JSON text; none when it is not well-formed, nests too deep, or holds a number that
is too large. -/
def ofText? (text : String) : Option Json :=
  (Token.ofText? text.toList).bind ofTokens?

end KeyDirectory.Json
