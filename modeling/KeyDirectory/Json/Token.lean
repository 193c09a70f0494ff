import KeyDirectory.Json.Basic
import KeyDirectory.Text.Numeral
import KeyDirectory.Text.Split

/-!
# JSON tokens

The marks, texts and words of a JSON text. A word is a number or one of the three names; it ends at
the next mark, quote or blank.
-/

namespace KeyDirectory.Json

inductive Token where
  | openList
  | closeList
  | openObject
  | closeObject
  | comma
  | colon
  | text (s : String)
  /-- A number, a boolean or null. -/
  | scalar (value : Json)

namespace Token

/-! ## Numbers -/

/-- Numbers are read up to this bound; digits beyond it do not count. -/
def digitsBound : Nat := 18446744073709551616

/-- Appends digits to a number while it stays below the bound; also counts them. -/
def appendDigits (n count : Nat) : List Char → Nat × Nat
  | [] => (n, count)
  | c :: rest =>
    let next := n * 10 + (c.toNat - '0'.toNat)
    if next < digitsBound then appendDigits next (count + 1) rest else (n, count)

/-- The digits before the point: a single zero, or a numeral that does not start with one. -/
def isWhole (digits : List Char) : Bool :=
  Text.isNumeral digits && (digits.head? != some '0' || digits.length == 1)

/-- Reads a number without its sign, given as the digits before the point, those after it, and the
exponent. -/
def readParts? (isNegative : Bool) (whole : List Char) (fraction : Option (List Char))
    (exponent : Option Int) : Option Json :=
  let (n, taken) := appendDigits 0 0 whole
  let (m, places) := appendDigits n 0 (fraction.getD [])
  let isInteger := fraction.isNone && exponent.isNone && taken == whole.length
  let signed : Int := if isNegative then -n else n
  if isInteger ∧ fitsInteger signed ∧ ¬(isNegative ∧ n = 0) then some (.integer signed)
  else
    (Binary64.ofDecimal? m ((whole.length : Int) - taken - places + exponent.getD 0)).map
      (.float isNegative ·)

/-- Reads a number without its sign. -/
def readUnsigned? (isNegative : Bool) (text : List Char) : Option Json := do
  let (plain, exponent) ← match Text.splitFirst 'e' (text.map Char.toLower) with
    | some (plain, exponent) => (Text.readInt? exponent).map fun e => (plain, some e)
    | none => some (text, none)
  let (whole, fraction) ← match Text.splitFirst '.' plain with
    | some (whole, fraction) =>
      if Text.isNumeral fraction then some (whole, some fraction) else none
    | none => some (plain, none)
  if isWhole whole then readParts? isNegative whole fraction exponent else none

def readWord? (word : List Char) : Option Json :=
  if word = "null".toList then some .null
  else if word = "true".toList then some (.boolean true)
  else if word = "false".toList then some (.boolean false)
  else
    match word with
    | '-' :: rest => readUnsigned? true rest
    | _ => readUnsigned? false word

/-! ## Texts -/

/-- The number of four hexadecimal digits. -/
def readUnit? (a b c d : Char) : Option Nat := do
  let a ← Text.hexValue? a
  let b ← Text.hexValue? b
  let c ← Text.hexValue? c
  let d ← Text.hexValue? d
  some (((a * 16 + b) * 16 + c) * 16 + d)

def isFirstOfPair (unit : Nat) : Bool :=
  0xD800 ≤ unit && unit < 0xDC00

def isSecondOfPair (unit : Nat) : Bool :=
  0xDC00 ≤ unit && unit < 0xE000

/-- The character of an escape with a single letter. -/
def escaped? : Char → Option Char
  | '"' => some '"'
  | '\\' => some '\\'
  | '/' => some '/'
  | 'b' => some '\x08'
  | 'f' => some '\x0c'
  | 'n' => some '\n'
  | 'r' => some '\r'
  | 't' => some '\t'
  | _ => none

/-- Replaces the escapes in what stands between quotes. Two units of a pair form one character; none
may stand alone, and no control may stand as it is. -/
def unescape? : List Char → Option (List Char)
  | [] => some []
  | '\\' :: 'u' :: a :: b :: c :: d :: rest => do
    let unit ← readUnit? a b c d
    if isFirstOfPair unit then
      match rest with
      | '\\' :: 'u' :: e :: f :: g :: h :: rest =>
        let second ← readUnit? e f g h
        if isSecondOfPair second then
          let code := 0x10000 + (unit - 0xD800) * 0x400 + (second - 0xDC00)
          (unescape? rest).map (Char.ofNat code :: ·)
        else none
      | _ => none
    else if isSecondOfPair unit then none
    else (unescape? rest).map (Char.ofNat unit :: ·)
  | '\\' :: c :: rest => do
    let c ← escaped? c
    (unescape? rest).map (c :: ·)
  | c :: rest => if c.toNat < 32 ∨ c = '\\' then none else (unescape? rest).map (c :: ·)

/-! ## Scanning -/

/-- A mark that is a token of its own. -/
def mark? : Char → Option Token
  | '[' => some .openList
  | ']' => some .closeList
  | '\x7b' => some .openObject
  | '\x7d' => some .closeObject
  | ',' => some .comma
  | ':' => some .colon
  | _ => none

def isSpace (c : Char) : Bool :=
  c == ' ' || c == '\t' || c == '\n' || c == '\r'

/-- Where a scanner stands. What is read of a word or a text is held last character first. -/
inductive Place where
  | between
  | inWord (read : List Char)
  | inText (read : List Char) (isEscape : Bool)

/-- A scanner: the tokens so far, last one first, and its place. -/
structure Scanner where
  tokens : List Token
  place : Place

def Scanner.endWord? (s : Scanner) : Option (List Token) :=
  match s.place with
  | .between => some s.tokens
  | .inWord read => (readWord? read.reverse).map fun value => .scalar value :: s.tokens
  | .inText _ _ => none

/-- Reads a character that is not part of a text. -/
def Scanner.stepOutside? (s : Scanner) (c : Char) : Option Scanner :=
  if isSpace c then s.endWord?.map fun tokens => ⟨tokens, .between⟩
  else if c = '"' then s.endWord?.map fun tokens => ⟨tokens, .inText [] false⟩
  else
    match mark? c, s.place with
    | some token, _ => s.endWord?.map fun tokens => ⟨token :: tokens, .between⟩
    | none, .inWord read => some { s with place := .inWord (c :: read) }
    | none, _ => some { s with place := .inWord [c] }

def Scanner.step? (s : Scanner) (c : Char) : Option Scanner :=
  match s.place with
  | .inText read true => some { s with place := .inText (c :: read) false }
  | .inText read false =>
    if c = '"' then
      (unescape? read.reverse).map fun text => ⟨.text (String.ofList text) :: s.tokens, .between⟩
    else some { s with place := .inText (c :: read) (c = '\\') }
  | _ => s.stepOutside? c

def ofText? (text : List Char) : Option (List Token) := do
  let s ← text.foldlM Scanner.step? ⟨[], .between⟩
  s.endWord?.map List.reverse

end Token

end KeyDirectory.Json
