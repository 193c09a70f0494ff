import KeyDirectory.Number.Binary64

/-!
# Shortest decimals

The text of a floating-point number: the fewest digits that read back, and of the candidates with as
many digits the one nearest to the number. Numbers from `0.00001` up to 16 digits before the point
are written out, others with an exponent.
-/

namespace KeyDirectory

/-- The number `digits * 10 ^ exponent`. -/
structure Decimal where
  digits : Nat
  exponent : Int
deriving DecidableEq, Repr

namespace Decimal

/-- The same number without zeros at the end of its digits. -/
def strip (d : Decimal) : Decimal :=
  if d.digits ≠ 0 ∧ d.digits % 10 = 0 then strip ⟨d.digits / 10, d.exponent + 1⟩ else d
termination_by d.digits
decreasing_by omega

/-! ## Choice of the digits -/

/-- The number and its neighbourhood over the unit `10 ^ place`, as fractions with one denominator:
the numerators of the number and of the two ends of the reals that round to it, and the denominator. -/
structure Scaled where
  value : Nat
  low : Nat
  high : Nat
  unit : Nat
  /-- Whether the ends round to the number too. -/
  closed : Bool

/-- A number over the unit `10 ^ place`. The neighbour below a power of two is half as far away as
the one above. -/
def scaled (x : Binary64) (place : Int) : Scaled :=
  let s := Nat.pow 2 x.exponent.toNat * Nat.pow 10 (-place).toNat
  let isNarrow := x.mantissa * 2 = Binary64.mantissaBound ∧ Binary64.leastExponent < x.exponent
  { value := 4 * x.mantissa * s
    low := (4 * x.mantissa - (if isNarrow then 1 else 2)) * s
    high := (4 * x.mantissa + 2) * s
    unit := 4 * (Nat.pow 2 (-x.exponent).toNat * Nat.pow 10 place.toNat)
    closed := x.mantissa % 2 = 0 }

/-- Whether `n` units round to the number. -/
def Scaled.holds (s : Scaled) (n : Nat) : Bool :=
  let m := n * s.unit
  if s.closed then s.low ≤ m && m ≤ s.high else s.low < m && m < s.high

/-- The count of units nearest to the number among those that round to it. -/
def Scaled.best? (s : Scaled) : Option Nat :=
  let down := s.value / s.unit
  let near := Binary64.nearest s.value s.unit
  if s.holds near then some near
  else if s.holds down then some down
  else if s.holds (down + 1) then some (down + 1)
  else none

/-- Tries `fuel` units, from `10 ^ place` on, each a tenth of the one before. -/
def search (x : Binary64) : Nat → Int → Option Decimal
  | 0, _ => none
  | fuel + 1, place =>
    match (scaled x place).best? with
    | some digits => some ⟨digits, place⟩
    | none => search x fuel (place - 1)

/-- A power of ten above the number, at most a few steps off. -/
def placeAbove (x : Binary64) : Int :=
  ((x.mantissa.log2 : Int) + x.exponent + 1) * 30103 / 100000 + 1

/-- The number itself, which is a decimal as well. -/
def exact (x : Binary64) : Decimal :=
  ⟨x.mantissa * Nat.pow 2 x.exponent.toNat * Nat.pow 5 (-x.exponent).toNat, min 0 x.exponent⟩

/-- The shortest decimal that reads back; seventeen digits always do. -/
def shortest (x : Binary64) : Decimal :=
  ((search x 20 (placeAbove x)).getD (exact x)).strip

/-! ## Layout -/

/-- The least exponent of a leading digit that is written out. -/
def leastPlain : Int := -5

/-- The greatest exponent of a leading digit that is written out. -/
def greatestPlain : Int := 15

/-- An exponent, with its sign and at least two digits. -/
def exponentText (e : Int) : List Char :=
  let digits := Nat.toDigits 10 e.natAbs
  'e' :: (if e < 0 then '-' else '+') :: (if digits.length < 2 then '0' :: digits else digits)

def render (d : Decimal) : List Char :=
  let digits := Nat.toDigits 10 d.digits
  let leading := d.exponent + digits.length - 1
  if d.digits = 0 then ['0', '.', '0']
  else if leading < leastPlain ∨ greatestPlain < leading then
    digits.take 1 ++ (if digits.length = 1 then [] else '.' :: digits.drop 1) ++
      exponentText leading
  else if 0 ≤ d.exponent then digits ++ List.replicate d.exponent.toNat '0' ++ ['.', '0']
  else if 0 ≤ leading then
    digits.take (leading + 1).toNat ++ '.' :: digits.drop (leading + 1).toNat
  else '0' :: '.' :: List.replicate (-leading - 1).toNat '0' ++ digits

end Decimal

def Binary64.toText (x : Binary64) : String :=
  String.ofList (if x.mantissa = 0 then Decimal.render ⟨0, 0⟩ else (Decimal.shortest x).render)

end KeyDirectory
