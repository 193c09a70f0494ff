import KeyDirectory.Text.Numeral
import KeyDirectory.Text.Split

/-!
# IPv4 addresses in hosts

A host whose last label is a number is an IPv4 address or nothing. Its parts may be decimal, octal
after `0`, or hexadecimal after `0x`; the last part fills all bytes that the others leave.
-/

namespace KeyDirectory.Url.Ipv4

open KeyDirectory

/-- The value of a digit in a base up to 16. -/
def digitIn? (base : Nat) (c : Char) : Option Nat :=
  (Text.hexValue? c).filter (· < base)

def numberIn? (base : Nat) (digits : List Char) : Option Nat :=
  (digits.mapM (digitIn? base)).map fun ns => ns.foldl (fun n d => n * base + d) 0

/-- The number that a part stands for. A bare `0x` is zero. -/
def number? : List Char → Option Nat
  | [] => none
  | '0' :: 'x' :: digits => numberIn? 16 digits
  | '0' :: 'X' :: digits => numberIn? 16 digits
  | '0' :: c :: digits => numberIn? 8 (c :: digits)
  | digits => numberIn? 10 digits

/-- Whether the last label is a number; an empty label at the end does not count. -/
def endsInNumber (host : List Char) : Bool :=
  let judge := fun (label : List Char) => Text.isNumeral label || (number? label).isSome
  match (Text.fields (· == '.') host).reverse with
  | [] => false
  | [] :: label :: _ => judge label
  | label :: _ => judge label

/-- Joins parts below 256 and a last part to one address of 32 bits. -/
def join? : List Nat → Option Nat
  | [] => none
  | parts =>
    let leading := parts.dropLast
    let last := parts.getLast?.getD 0
    if leading.length ≤ 3 ∧ leading.all (· < 256) ∧ last < Nat.pow 256 (4 - leading.length) then
      some (leading.foldl (fun n d => n * 256 + d) 0 * Nat.pow 256 (4 - leading.length) + last)
    else none

def address? (host : List Char) : Option Nat :=
  let labels := Text.fields (· == '.') host
  let labels := if labels.getLast? = some [] then labels.dropLast else labels
  (labels.mapM number?).bind join?

/-- The four bytes of an address in decimal, with dots between them. -/
def render (address : Nat) : List Char :=
  Text.joinWith ['.']
    ([address / 16777216, address / 65536 % 256, address / 256 % 256, address % 256].map
      (Nat.toDigits 10))

end KeyDirectory.Url.Ipv4
