import KeyDirectory.Unicode.NormalizationTable

/-!
# Normalization form C

A text is decomposed, the marks after each letter are put in order, and what composes is composed
again. Hangul syllables are taken apart and put together by arithmetic.
-/

namespace KeyDirectory.Unicode

namespace Hangul

def firstSyllable : Nat := 0xAC00

/-- The first leading consonant, the first vowel, and the code point before the first trailing
consonant. -/
def firstLead : Nat := 0x1100

@[inherit_doc firstLead]
def firstVowel : Nat := 0x1161

@[inherit_doc firstLead]
def beforeTail : Nat := 0x11A7

/-- The parts of a syllable: a leading consonant, a vowel, and perhaps a trailing consonant. -/
def decompose? (c : Char) : Option (List Char) :=
  let n := c.toNat
  if firstSyllable ≤ n ∧ n < firstSyllable + 11172 then
    let s := n - firstSyllable
    let lead := Char.ofNat (firstLead + s / 588)
    let vowel := Char.ofNat (firstVowel + s % 588 / 28)
    some (if s % 28 = 0 then [lead, vowel] else [lead, vowel, Char.ofNat (beforeTail + s % 28)])
  else none

/-- The syllable of a leading consonant and a vowel, or of a syllable and a trailing consonant. -/
def compose? (a b : Char) : Option Char :=
  let m := a.toNat
  let n := b.toNat
  if firstLead ≤ m ∧ m < firstLead + 19 ∧ firstVowel ≤ n ∧ n < firstVowel + 21 then
    some (Char.ofNat (firstSyllable + ((m - firstLead) * 21 + (n - firstVowel)) * 28))
  else if firstSyllable ≤ m ∧ m < firstSyllable + 11172 ∧ (m - firstSyllable) % 28 = 0 ∧
      beforeTail < n ∧ n < beforeTail + 28 then
    some (Char.ofNat (m + (n - beforeTail)))
  else none

end Hangul

def decomposeChar (c : Char) : List Char :=
  match Hangul.decompose? c with
  | some parts => parts
  | none => (decompositions.image? c).getD [c]

def composePair? (a b : Char) : Option Char :=
  match Hangul.compose? a b with
  | some c => some c
  | none =>
    (composites.rows.find? fun row => row.targets == [a.toNat, b.toNat]).map fun row =>
      Char.ofNat row.first

/-- The combining class of a character; zero for all that starts anew. -/
def combiningClass (c : Char) : Nat :=
  (combiningClasses.value? c).getD 0

/-- A character with its combining class. -/
structure Mark where
  char : Char
  rank : Nat
deriving DecidableEq, Repr

/-- Adds a character to an ordered text held last character first: a mark moves before marks of a
higher class, but never past one of its own class or past a starter. -/
def place (m : Mark) : List Mark → List Mark
  | [] => [m]
  | n :: rest => if m.rank ≠ 0 ∧ m.rank < n.rank then n :: place m rest else m :: n :: rest

/-- The decomposition of a text with its marks in order. -/
def decompose (text : List Char) : List Mark :=
  ((text.flatMap decomposeChar).foldl (fun done c => place ⟨c, combiningClass c⟩ done) []).reverse

/-- Whether a mark of the class `rank` is cut off from the starter by the marks after it, the last of
which comes first. -/
def isBlocked (marks : List Mark) (rank : Nat) : Bool :=
  match marks with
  | [] => false
  | last :: _ => rank ≤ last.rank

/-- Composes an ordered text. The starter is the last character of class zero; `marks` follow it,
the last one first, and have not composed with it. -/
def composeFrom (starter : Option Char) (marks : List Mark) : List Mark → List Char
  | [] => starter.toList ++ (marks.map Mark.char).reverse
  | m :: rest =>
    let composed := if isBlocked marks m.rank then none else starter.bind (composePair? · m.char)
    match composed with
    | some c => composeFrom (some c) marks rest
    | none =>
      if m.rank = 0 then
        starter.toList ++ (marks.map Mark.char).reverse ++ composeFrom (some m.char) [] rest
      else composeFrom starter (m :: marks) rest

def isAscii (text : List Char) : Bool :=
  text.all (·.toNat < 128)

/-- Normalization form C. ASCII text is in it already. -/
def normalize (text : List Char) : List Char :=
  if isAscii text then text else composeFrom none [] (decompose text)

end KeyDirectory.Unicode
