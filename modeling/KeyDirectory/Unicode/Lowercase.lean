import KeyDirectory.Unicode.CaseTable

/-!
# Lower case

Lower-casing of whole texts. Every character has a form of its own, except that a capital sigma at
the end of a word becomes the final sigma. Whether a word ends there is seen from the letters around
it, passing over characters that may stand inside a word.
-/

namespace KeyDirectory.Unicode

/-- The lower-case form of a code point of the run. -/
def CaseRun.image? (run : CaseRun) (n : Nat) : Option Nat :=
  if run.first ≤ n ∧ n ≤ run.last ∧ (n - run.first) % run.step = 0 then
    some (run.target + (n - run.first))
  else none

def lowerChar (c : Char) : List Char :=
  if c.toNat < 128 then [c.toLower]
  else if c = 'İ' then ['i', '\u0307']
  else
    match lowerRuns.findSome? (·.image? c.toNat) with
    | some n => [Char.ofNat n]
    | none => [c]

/-- A letter with case. -/
def isCased (c : Char) : Bool :=
  if c.toNat < 128 then c.isAlpha else casedTable.contains c

/-- A character that is passed over in search of a letter with case. In ASCII these are the
apostrophe, the full stop, the colon, the circumflex and the grave accent. -/
def isCaseIgnorable (c : Char) : Bool :=
  if c.toNat < 128 then [0x27, 0x2E, 0x3A, 0x5E, 0x60].contains c.toNat
  else caseIgnorableTable.contains c

/-- Whether the first character that is not passed over is a letter with case. -/
def meetsCased (text : List Char) : Bool :=
  match text.dropWhile isCaseIgnorable with
  | [] => false
  | c :: _ => isCased c

/-- The form of a capital sigma: final when a letter stands before it, nearest first in `before`,
and none after it. -/
def lowerSigma (before after : List Char) : Char :=
  if meetsCased before && !meetsCased after then 'ς' else 'σ'

/-- Lower-cases a text that `before` precedes, its last character first. -/
def lowerFrom (before : List Char) : List Char → List Char
  | [] => []
  | c :: rest =>
    (if c = 'Σ' then [lowerSigma before rest] else lowerChar c) ++ lowerFrom (c :: before) rest

def lower (text : List Char) : List Char :=
  lowerFrom [] text

end KeyDirectory.Unicode
