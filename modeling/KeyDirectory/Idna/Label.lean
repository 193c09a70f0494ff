import KeyDirectory.Idna.MappingTable
import KeyDirectory.Idna.Punycode
import KeyDirectory.Unicode.BidiTable
import KeyDirectory.Unicode.JoiningTable
import KeyDirectory.Unicode.Normalization

/-!
# Labels of domain names

What a label between two dots must satisfy once it is mapped and normalized, and its ASCII form.
-/

namespace KeyDirectory.Idna

open KeyDirectory.Unicode

/-- What becomes of a character of a domain name: capital ASCII letters turn small, other ASCII
characters stay, and past ASCII the mapping table decides. -/
def mapChar? (c : Char) : Option (List Char) :=
  if c.toNat < 128 then some [c.toLower]
  else if disallowed.contains c then none
  else some ((mapped.image? c).getD [c])

/-- A text that is mapped and normalized already. -/
def isStable (text : List Char) : Bool :=
  text.all (fun c => mapChar? c == some [c]) && normalize text == text

/-! ## Joiners -/

/-- The combining class of the signs that silence a vowel. -/
def viramaClass : Nat := 9

/-- Whether the first character that letters do not join across is in `table`. -/
def meets (table : Table) (text : List Char) : Bool :=
  match text.dropWhile joinTransparent.contains with
  | [] => false
  | c :: _ => table.contains c

/-- Whether joiners stand only where they have an effect: after a virama, or, for the one that keeps
letters apart, between letters that would join. The text before comes last character first. -/
def joinersFit (before : List Char) : List Char → Bool
  | [] => true
  | c :: rest =>
    let afterVirama := before.head?.any (combiningClass · == viramaClass)
    let fits :=
      if c = '\u200D' then afterVirama
      else if c = '\u200C' then
        afterVirama || (meets joinsForward before && meets joinsBackward rest)
      else true
    fits && joinersFit (c :: before) rest

/-! ## Direction -/

/-- The classes of characters that the rules on direction tell apart. -/
inductive Direction where
  /-- A letter written from left to right. -/
  | ltr
  /-- A letter written from right to left. -/
  | rtl
  | arabicNumber
  | europeanNumber
  /-- A character that takes the direction of those around it. -/
  | neutral
  /-- A mark that takes the place of the character before it. -/
  | mark
deriving DecidableEq, Repr

def Direction.ofChar (c : Char) : Direction :=
  if c.toNat < 128 then
    if c.isAlpha then .ltr else if c.isDigit then .europeanNumber else .neutral
  else if rightToLeft.contains c then .rtl
  else if arabicNumbers.contains c then .arabicNumber
  else if europeanNumbers.contains c then .europeanNumber
  else if nonspacingMarks.contains c then .mark
  else if neutrals.contains c then .neutral
  else .ltr

/-- Whether one such character makes the whole domain name subject to the rules on direction. -/
def Direction.isBidi : Direction → Bool
  | .rtl | .arabicNumber => true
  | _ => false

/-- A label runs in one direction, that of its first letter. From left to right, it holds nothing of
the other direction and ends in a letter or a European digit. From right to left, it holds no letter
of the other direction, ends in a letter or a digit, and does not mix the two kinds of digits. Marks
at the end do not count. -/
def Direction.fits (classes : List Direction) : Bool :=
  match classes, classes.reverse.dropWhile (· == .mark) with
  | .ltr :: _, last :: _ =>
    classes.all (fun d => d != .rtl && d != .arabicNumber) &&
      (last == .ltr || last == .europeanNumber)
  | .rtl :: _, last :: _ =>
    classes.all (· != .ltr) && last != .neutral &&
      !(classes.contains .arabicNumber && classes.contains .europeanNumber)
  | [], _ => true
  | _, _ => false

/-! ## Labels -/

/-- The start of the ASCII form of a label that is not ASCII. -/
def encodedMark : List Char := ['x', 'n', '-', '-']

def longestEncoded : Nat := 2000

def longestDecoded : Nat := 1000

/-- A label past ASCII is not too long, does not start with a mark, and its joiners fit. -/
def isValid (label : List Char) : Bool :=
  label.length ≤ longestDecoded && !(label.head?.any combiningMarks.contains) && joinersFit [] label

/-- A label in its two forms. -/
structure Label where
  /-- The form that goes into the domain name. -/
  ascii : List Char
  /-- The characters that it stands for. -/
  shown : List Char
deriving DecidableEq, Repr

/-- The two forms of a mapped and normalized label. A label that looks encoded stays as it is when it
decodes to a valid label past ASCII; an ASCII label stays as it is; others are encoded. -/
def Label.ofText? (text : List Char) : Option Label :=
  if encodedMark.isPrefixOf text then
    let code := text.drop encodedMark.length
    if isAscii code && code.length ≤ longestEncoded then
      match Punycode.decode? code with
      | some shown =>
        if !isAscii shown && isStable shown && isValid shown then some ⟨text, shown⟩ else none
      | none => none
    else none
  else if isAscii text then some ⟨text, text⟩
  else if isValid text then some ⟨encodedMark ++ Punycode.encode text, text⟩
  else none

end KeyDirectory.Idna
