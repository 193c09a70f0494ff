/-!
# White space

The characters with the Unicode property `White_Space`, and cutting them off both ends of a text.
Texts are lists of characters wherever they are taken apart; `String` appears in records and
messages.
-/

namespace KeyDirectory.Text

/-- White space: the 25 characters with the Unicode property `White_Space`. -/
def isBlank (c : Char) : Bool :=
  let n := c.toNat
  (9 ≤ n && n ≤ 13) || n == 0x20 || n == 0x85 || n == 0xA0 || n == 0x1680 ||
    (0x2000 ≤ n && n ≤ 0x200A) || n == 0x2028 || n == 0x2029 || n == 0x202F || n == 0x205F ||
    n == 0x3000

def trimStart (text : List Char) : List Char :=
  text.dropWhile isBlank

def trimEnd (text : List Char) : List Char :=
  (text.reverse.dropWhile isBlank).reverse

/-- The text without the white space at both ends. -/
def trim (text : List Char) : List Char :=
  trimEnd (trimStart text)

def trimmed (s : String) : String :=
  String.ofList (trim s.toList)

/-- A text of white space alone, the empty one included. -/
def allBlank (s : String) : Bool :=
  s.toList.all isBlank

/-- There is nothing to trim where nothing is blank. -/
theorem trim_eq_self {text : List Char} (solid : ∀ c ∈ text, isBlank c = false) :
    trim text = text := by
  have keep : ∀ {xs : List Char}, (∀ c ∈ xs, isBlank c = false) → xs.dropWhile isBlank = xs := by
    intro xs h
    cases xs with
    | nil => rfl
    | cons c xs => simp [h c List.mem_cons_self]
  rw [trim, trimStart, keep solid, trimEnd, keep (by simpa using solid), List.reverse_reverse]

end KeyDirectory.Text
