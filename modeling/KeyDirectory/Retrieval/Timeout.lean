/-!
# Timeouts

Spans of time, the one that bounds a whole lookup, and the instant at which it is over.
-/

namespace KeyDirectory

/-- A span of time, in nanoseconds. The instants of a lookup are spans since its start. -/
abbrev Duration := Nat

namespace Duration

def ofSeconds (seconds nanoseconds : Nat) : Duration :=
  seconds * 1000000000 + nanoseconds

def ofMillis (n : Nat) : Duration :=
  n * 1000000

def seconds (d : Duration) : Nat :=
  d / 1000000000

def nanoseconds (d : Duration) : Nat :=
  d % 1000000000

def millis (d : Duration) : Nat :=
  d / 1000000

/-- A quotient by a power of ten as a decimal number without trailing zeros. -/
def decimal (n places : Nat) : String :=
  let unit := Nat.pow 10 places
  let digits := Nat.toDigits 10 (unit + n % unit)
  let fraction := (digits.drop 1).reverse.dropWhile (· == '0')
  toString (n / unit) ++
    (if fraction.isEmpty then "" else "." ++ String.ofList fraction.reverse)

/-- A span as it is shown in messages, in the largest unit that it fills. -/
def describe (d : Duration) : String :=
  if 1000000000 ≤ d then decimal d 9 ++ "s"
  else if 1000000 ≤ d then decimal d 6 ++ "ms"
  else if 1000 ≤ d then decimal d 3 ++ "µs"
  else decimal d 0 ++ "ns"

end Duration

/-- The span that bounds a lookup: the smaller of the client's default and the one that the call
asks for. A default of zero is none. -/
def effectiveTimeout (default : Duration) (requested : Option Duration) : Option Duration :=
  match (if default = 0 then none else some default), requested with
  | some d, some r => some (min d r)
  | some d, none => some d
  | none, r => r

/-- The clock of a lookup. -/
structure Clock where
  /-- The last instant that it can show, counted from the start of the lookup. -/
  last : Duration
deriving DecidableEq, Repr

/-- The clock that counts its seconds in 63 bits, as it is at its origin. -/
def Clock.standard : Clock :=
  ⟨Duration.ofSeconds 9223372036854775807 999999999⟩

/-- The instant at which a timeout is over. A timeout that goes past the last instant of the clock
bounds nothing. -/
def Clock.deadline (clock : Clock) (timeout : Option Duration) : Option Duration :=
  timeout.filter (· ≤ clock.last)

end KeyDirectory
