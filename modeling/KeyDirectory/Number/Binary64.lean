/-!
# Binary floating-point numbers

Numbers in double precision, without sign: 53 binary digits and an exponent. All operations compute
the exact value as a fraction and round it once, to the nearest number, a half going to the even one.
-/

namespace KeyDirectory

/-- The number `mantissa * 2 ^ exponent`. -/
structure Binary64 where
  mantissa : Nat
  exponent : Int
deriving DecidableEq, Repr

namespace Binary64

/-- Mantissas stay below this bound. -/
def mantissaBound : Nat := Nat.pow 2 53

def leastExponent : Int := -1074

def greatestExponent : Int := 971

def zero : Binary64 := ⟨0, leastExponent⟩

/-- Whether the number is not too large for the format. -/
def isFinite (x : Binary64) : Bool :=
  x.exponent ≤ greatestExponent

/-! ## Rounding -/

/-- The integer nearest to a fraction; a half goes to the even neighbour. -/
def nearest (num den : Nat) : Nat :=
  let down := num / den
  let rest := num % den
  if 2 * rest < den ∨ (2 * rest = den ∧ down % 2 = 0) then down else down + 1

/-- The fraction `num / den` over the unit `2 ^ exponent`, as numerator and denominator. -/
def inUnits (num den : Nat) (exponent : Int) : Nat × Nat :=
  (num * Nat.pow 2 (-exponent).toNat, den * Nat.pow 2 exponent.toNat)

/-- The exponent that gives a positive fraction 53 binary digits, if the format has it. -/
def exponentOf (num den : Nat) : Int :=
  let guess := (num.log2 : Int) - den.log2 - 53
  let (n, d) := inUnits num den guess
  max leastExponent (if n / d < mantissaBound then guess else guess + 1)

/-- The number nearest to a fraction, with an exponent as large as it takes. -/
def ofFraction (num den : Nat) : Binary64 :=
  if num = 0 then zero
  else
    let exponent := exponentOf num den
    let (n, d) := inUnits num den exponent
    let mantissa := nearest n d
    if mantissa = mantissaBound then ⟨mantissaBound / 2, exponent + 1⟩ else ⟨mantissa, exponent⟩

/-! ## Arithmetic -/

def mul (x y : Binary64) : Binary64 :=
  let (n, d) := inUnits (x.mantissa * y.mantissa) 1 (-(x.exponent + y.exponent))
  ofFraction n d

def div (x y : Binary64) : Binary64 :=
  let (n, d) := inUnits x.mantissa y.mantissa (y.exponent - x.exponent)
  ofFraction n d

def tenPower (n : Nat) : Binary64 :=
  ofFraction (Nat.pow 10 n) 1

/-- The exponent of the largest power of ten in the format. -/
def greatestTenPower : Nat := 308

/-- Divides by `10 ^ n`; what the format has no power of ten for takes several steps. -/
def scaleDown (x : Binary64) (n : Nat) : Binary64 :=
  if n ≤ greatestTenPower then x.div (tenPower n)
  else if x.mantissa = 0 then x
  else scaleDown (x.div (tenPower greatestTenPower)) (n - greatestTenPower)
termination_by n
decreasing_by simp only [greatestTenPower] at *; omega

/-- The number `digits * 10 ^ exponent`, where digits and power of ten are rounded each before they
are joined; none when it is too large. -/
def ofDecimal? (digits : Nat) (exponent : Int) : Option Binary64 :=
  let x := ofFraction digits 1
  if exponent < 0 then some (x.scaleDown (-exponent).toNat)
  else if digits = 0 then some zero
  else if (greatestTenPower : Int) < exponent then none
  else some (x.mul (tenPower exponent.toNat)) |>.filter isFinite

end Binary64

end KeyDirectory
