/-!
# Punycode

A text as ASCII: its ASCII characters come first, and each other character is a number that tells
how far the pair (code point, position) moves on from the one before. The numbers are written in
base 36 with thresholds that adapt to their size.
-/

namespace KeyDirectory.Idna.Punycode

def digit (n : Nat) : Char :=
  if n < 26 then Char.ofNat ('a'.toNat + n) else Char.ofNat ('0'.toNat + (n - 26))

def digitValue? (c : Char) : Option Nat :=
  if 'a' ≤ c ∧ c ≤ 'z' then some (c.toNat - 'a'.toNat)
  else if 'A' ≤ c ∧ c ≤ 'Z' then some (c.toNat - 'A'.toNat)
  else if '0' ≤ c ∧ c ≤ '9' then some (c.toNat - '0'.toNat + 26)
  else none

/-- The first code point that is not ASCII. -/
def firstCode : Nat := 128

def firstBias : Nat := 72

/-- The threshold of the digit at `position`, which counts in steps of 36. -/
def threshold (bias position : Nat) : Nat :=
  if position ≤ bias then 1 else if bias + 26 ≤ position then 26 else position - bias

/-- Divides `delta` by 35 until it is at most 455, with `k` counting in steps of 36. -/
def settle (delta k : Nat) : Nat × Nat :=
  if 455 < delta then settle (delta / 35) (k + 36) else (delta, k)
termination_by delta
decreasing_by omega

/-- The bias after a number `delta` that made the text `length` characters long. -/
def adapt (delta length : Nat) (isFirst : Bool) : Nat :=
  let scaled := if isFirst then delta / 700 else delta / 2
  let (rest, k) := settle (scaled + scaled / length) 0
  k + 36 * rest / (rest + 38)

/-- No digit ends a number before it is read. -/
theorem threshold_pos (bias position : Nat) : 0 < threshold bias position := by
  unfold threshold; repeat' split
  all_goals omega

/-- A threshold leaves room for a digit that ends the number. -/
theorem threshold_le (bias position : Nat) : threshold bias position ≤ 26 := by
  unfold threshold; repeat' split
  all_goals omega

/-- The digits of a number, from the digit at `position` on. -/
def numeral (bias position q : Nat) : List Char :=
  let t := threshold bias position
  if t ≤ q then digit (t + (q - t) % (36 - t)) :: numeral bias (position + 36) ((q - t) / (36 - t))
  else [digit q]
termination_by q
decreasing_by
  rename_i h
  have hpos := threshold_pos bias position
  have hle := threshold_le bias position
  exact Nat.lt_of_le_of_lt (Nat.div_le_self _ _) (by omega)

/-- Where an encoder stands: the distance since the last number, the bias, and how many characters
are written. -/
structure Encoder where
  delta : Nat
  bias : Nat
  done : Nat
  basic : Nat

/-- Passes over the text for the code point `code`, writing a number at each place where it stands. -/
def encodeCode (code : Nat) (e : Encoder) : List Char → Encoder × List Char
  | [] => (e, [])
  | c :: rest =>
    if c.toNat < code then encodeCode code { e with delta := e.delta + 1 } rest
    else if c.toNat = code then
      let bias := adapt e.delta (e.done + 1) (e.done == e.basic)
      let (last, out) := encodeCode code { e with delta := 0, bias, done := e.done + 1 } rest
      (last, numeral e.bias 36 e.delta ++ out)
    else encodeCode code e rest

/-- Writes the code points `codes`, in ascending order, of which `next` is the least that may come. -/
def encodeCodes (text : List Char) (e : Encoder) (next : Nat) : List Nat → List Char
  | [] => []
  | code :: codes =>
    let delta := e.delta + (code - next) * (e.done + 1)
    let (last, out) := encodeCode code { e with delta } text
    out ++ encodeCodes text { last with delta := last.delta + 1 } (code + 1) codes

/-- The code points past ASCII in a text, each once, in ascending order. -/
def codes (text : List Char) : List Nat :=
  ((text.map Char.toNat).filter (firstCode ≤ ·)).mergeSort.eraseReps

def encode (text : List Char) : List Char :=
  let basic := text.filter (·.toNat < firstCode)
  let start : Encoder := ⟨0, firstBias, basic.length, basic.length⟩
  basic ++ (if basic.isEmpty then [] else ['-']) ++
    encodeCodes text start firstCode (codes text)

/-- Where a decoder stands: the text so far, the code point, the place after the last insertion, and
the number that is being read. -/
structure Decoder where
  text : List Char
  code : Nat
  bias : Nat
  place : Nat
  sum : Nat
  weight : Nat
  position : Nat
  isFirst : Bool

def bound : Nat := 4294967296

/-- Reads one digit. The last digit of a number inserts a character. -/
def Decoder.read (d : Decoder) (c : Char) : Option Decoder := do
  let n ← digitValue? c
  let sum := d.sum + n * d.weight
  if bound ≤ sum then none
  let t := threshold d.bias d.position
  if t ≤ n then
    let weight := d.weight * (36 - t)
    if bound ≤ weight then none
    some { d with sum, weight, position := d.position + 36 }
  else
    let length := d.text.length + 1
    let code := d.code + sum / length
    let place := sum % length
    if code.isValidChar then
      some
        { text := d.text.take place ++ Char.ofNat code :: d.text.drop place
          code
          bias := adapt (sum - d.place) length d.isFirst
          place := place + 1
          sum := place + 1
          weight := 1
          position := 36
          isFirst := false }
    else none

/-- Reads digits to the end, which must not cut a number short. -/
def Decoder.run (d : Decoder) : List Char → Option (List Char)
  | [] => if d.position = 36 then some d.text else none
  | c :: rest => (d.read c).bind (·.run rest)

/-- The ASCII characters before the last hyphen, and the digits after it. Without a character before
the hyphen all of the text is digits. -/
def cut (text : List Char) : List Char × List Char :=
  let tail := text.reverse.takeWhile (· ≠ '-')
  match text.take (text.length - tail.length - 1) with
  | [] => ([], text)
  | basic => (basic, tail.reverse)

/-- The text that a Punycode form stands for. -/
def decode? (text : List Char) : Option (List Char) :=
  let (basic, digits) := cut text
  Decoder.run ⟨basic, firstCode, firstBias, 0, 0, 1, 36, true⟩ digits

end KeyDirectory.Idna.Punycode
