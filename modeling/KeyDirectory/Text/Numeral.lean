/-!
# Numerals

Decimal numerals of 32-bit signed numbers, and digits in other bases.
-/

namespace KeyDirectory.Text

/-- The number that decimal digits stand for, most significant first. -/
def digitsValue (digits : List Char) : Nat :=
  digits.foldl (fun n c => n * 10 + (c.toNat - '0'.toNat)) 0

/-- A non-empty run of ASCII digits. -/
def isNumeral (text : List Char) : Bool :=
  !text.isEmpty && text.all Char.isDigit

/-- The number in `text`: an optional sign, then at least one ASCII digit, and nothing else. -/
def readInt? : List Char → Option Int
  | '+' :: digits => if isNumeral digits then some (digitsValue digits) else none
  | '-' :: digits => if isNumeral digits then some (-(digitsValue digits)) else none
  | digits => if isNumeral digits then some (digitsValue digits) else none

/-- The numbers that 32 bits hold in two's complement. -/
def fitsInt32 (n : Int) : Bool :=
  -2147483648 ≤ n && n ≤ 2147483647

def readInt32? (text : List Char) : Option Int :=
  (readInt? text).filter fitsInt32

def hexValue? (c : Char) : Option Nat :=
  if '0' ≤ c ∧ c ≤ '9' then some (c.toNat - '0'.toNat)
  else if 'a' ≤ c ∧ c ≤ 'f' then some (c.toNat - 'a'.toNat + 10)
  else if 'A' ≤ c ∧ c ≤ 'F' then some (c.toNat - 'A'.toNat + 10)
  else none

/-- The lower-case hexadecimal digits of a number, without leading zeros. -/
def hexDigits (n : Nat) : List Char :=
  Nat.toDigits 16 n

end KeyDirectory.Text
