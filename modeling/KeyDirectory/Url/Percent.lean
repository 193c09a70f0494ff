import KeyDirectory.Text.Numeral
import KeyDirectory.Text.Utf8

/-!
# Percent-encoding

Characters that a part of a URL may not hold are written as `%XX`, one triple for each byte of their
UTF-8 form. Each part has a set of ASCII characters of its own that stay as they are; no other
character ever does.
-/

namespace KeyDirectory.Url.Percent

open KeyDirectory

/-- A visible ASCII character that is not among `others`. -/
def visibleExcept (others : List Char) (c : Char) : Bool :=
  0x20 < c.toNat && c.toNat < 0x7F && !others.contains c

/-- The characters that stay in a text without structure. -/
def inPlain (c : Char) : Bool :=
  0x20 ≤ c.toNat && c.toNat < 0x7F

def inFragment : Char → Bool :=
  visibleExcept ['"', '<', '>', '\x60']

def inPath : Char → Bool :=
  visibleExcept ['"', '<', '>', '\x60', '#', '?', '\x7b', '\x7d']

/-- The characters that stay in a query; the schemes with rules of their own encode the single quote
too. -/
def inQuery (isSpecial : Bool) (c : Char) : Bool :=
  visibleExcept ['"', '<', '>', '#'] c && !(isSpecial && c == '\'')

/-- The characters that stay in a user name or a password. -/
def inUserinfo : Char → Bool :=
  visibleExcept
    ['"', '<', '>', '\x60', '#', '?', '\x7b', '\x7d', '/', ':', ';', '=', '@', '[', '\\', ']', '^',
     '|']

/-- The characters with no meaning in any part: letters, digits, and `-`, `.`, `_`, `~`. -/
def isUnreserved (c : Char) : Bool :=
  c.isAlphanum || c == '-' || c == '.' || c == '_' || c == '~'

def hexDigit (n : Nat) : Char :=
  if n < 10 then Char.ofNat ('0'.toNat + n) else Char.ofNat ('A'.toNat + (n - 10))

/-- The triple that stands for a byte. -/
def triple (b : UInt8) : List Char :=
  ['%', hexDigit (b.toNat / 16), hexDigit (b.toNat % 16)]

/-- Encodes a text; the characters in `keep` stay. -/
def encode (keep : Char → Bool) (text : List Char) : List Char :=
  text.flatMap fun c => if keep c then [c] else (Text.Utf8.encode [c]).flatMap triple

/-- The bytes of a text, with each triple read as the byte that it stands for. A percent sign that
starts no triple stands for itself. -/
def decode : List Char → List UInt8
  | [] => []
  | '%' :: a :: b :: rest =>
    match Text.hexValue? a, Text.hexValue? b with
    | some m, some n => UInt8.ofNat (m * 16 + n) :: decode rest
    | _, _ => Text.Utf8.encode ['%'] ++ decode (a :: b :: rest)
  | c :: rest => Text.Utf8.encode [c] ++ decode rest

end KeyDirectory.Url.Percent
