import KeyDirectory.Idna.Label
import KeyDirectory.Text.Split

/-!
# International domain names

The ASCII form of a domain name: its characters are mapped and normalized, it is cut at the dots, and
each label is turned to ASCII. Neither the length of labels nor the place of hyphens is checked.
-/

namespace KeyDirectory.Idna

open KeyDirectory.Unicode

/-- ASCII characters that may not occur in the host of a URL: controls, the blank, and those with a
meaning in URLs. -/
def isForbidden (c : Char) : Bool :=
  c.toNat ≤ 32 || c.toNat == 127 || "%#/:<>?@[\\]^|".toList.contains c

/-- A domain name with all of its characters mapped, in normal form; none when a character may not
occur. -/
def mapText? (text : List Char) : Option (List Char) :=
  (text.mapM mapChar?).map fun parts => normalize parts.flatten

/-- Whether the labels keep the rules on direction. These bind all labels as soon as one of them holds
a letter written from right to left, or an Arabic digit. -/
def directionsFit (labels : List Label) : Bool :=
  let classes := labels.map fun label => label.shown.map Direction.ofChar
  !(classes.any (·.any Direction.isBidi)) || classes.all Direction.fits

def toAscii? (domain : List Char) : Option (List Char) := do
  let text ← mapText? domain
  if text.any isForbidden then none
  let labels ← (Text.fields (· == '.') text).mapM Label.ofText?
  if directionsFit labels then some (Text.joinWith ['.'] (labels.map Label.ascii)) else none

end KeyDirectory.Idna
