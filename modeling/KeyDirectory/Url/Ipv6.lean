import KeyDirectory.Text.Numeral
import KeyDirectory.Text.Split

/-!
# IPv6 addresses in hosts

Eight pieces of up to four hexadecimal digits with colons between them. One `::` stands for the
zeros that are left out, and a dotted IPv4 address may stand for the last two pieces. Printing leaves
out the first of the longest runs of at least two zeros.
-/

namespace KeyDirectory.Url.Ipv6

open KeyDirectory

/-- A piece of one to four hexadecimal digits. -/
def piece? (digits : List Char) : Option Nat :=
  if digits.isEmpty ∨ 4 < digits.length then none
  else (digits.mapM Text.hexValue?).map fun ns => ns.foldl (fun n d => n * 16 + d) 0

/-- A decimal number below 256 without leading zeros. -/
def octet? (digits : List Char) : Option Nat :=
  if Text.isNumeral digits ∧ (digits.head? ≠ some '0' ∨ digits.length = 1) ∧
      Text.digitsValue digits < 256 then
    some (Text.digitsValue digits)
  else none

/-- The two pieces that a dotted IPv4 address stands for. -/
def dotted? (text : List Char) : Option (List Nat) :=
  match (Text.fields (· == '.') text).mapM octet? with
  | some [a, b, c, d] => some [a * 256 + b, c * 256 + d]
  | _ => none

/-- Pieces with colons between them; with `mayEndDotted` the last one may be an IPv4 address. -/
def pieces? (mayEndDotted : Bool) : List (List Char) → Option (List Nat)
  | [] => some []
  | [last] =>
    if mayEndDotted && last.contains '.' then dotted? last else (piece? last).map ([·])
  | text :: rest => do
    let n ← piece? text
    let ns ← pieces? mayEndDotted rest
    some (n :: ns)

/-- The pieces on one side of `::`; there may be none. -/
def side? (mayEndDotted : Bool) (text : List Char) : Option (List Nat) :=
  if text.isEmpty then some [] else pieces? mayEndDotted (Text.fields (· == ':') text)

/-- What stands before and after the first `::`. -/
def splitGap : List Char → Option (List Char × List Char)
  | ':' :: ':' :: rest => some ([], rest)
  | c :: rest => (splitGap rest).map fun (before, after) => (c :: before, after)
  | [] => none

def address? (text : List Char) : Option (List Nat) :=
  match splitGap text with
  | none => (side? true text).filter (·.length = 8)
  | some (before, after) => do
    let front ← side? false before
    let back ← side? true after
    let given := front.length + back.length
    if given ≤ 7 then some (front ++ List.replicate (8 - given) 0 ++ back) else none

/-- The length of the run of zeros that a list starts with. -/
def zeros (pieces : List Nat) : Nat :=
  (pieces.takeWhile (· == 0)).length

/-- The start and the length of the first of the longest runs of zeros; `start` is the index of the
head of the list. -/
def longestRun (start : Nat) : List Nat → Nat × Nat
  | [] => (start, 0)
  | n :: rest =>
    let later := longestRun (start + 1) rest
    let here := zeros (n :: rest)
    if later.2 ≤ here then (start, here) else later

/-- Pieces in lower-case hexadecimal with colons between them. -/
def renderPieces (pieces : List Nat) : List Char :=
  Text.joinWith [':'] (pieces.map Text.hexDigits)

/-- The text of an address, without the brackets around it in a host. -/
def render (pieces : List Nat) : List Char :=
  let (start, length) := longestRun 0 pieces
  if length < 2 then renderPieces pieces
  else
    renderPieces (pieces.take start) ++ [':', ':'] ++ renderPieces (pieces.drop (start + length))

end KeyDirectory.Url.Ipv6
