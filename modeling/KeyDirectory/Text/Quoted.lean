import KeyDirectory.Unicode.Printable

/-!
# Quoted text

How a character or a string is shown in a message: between quotes, with the quote, the backslash and
whatever cannot be seen on its own written as an escape. A character escapes the single quote only,
a string the double quote only.
-/

namespace KeyDirectory.Text.Quoted

/-- A character inside quotes of the kind `quote`. -/
def escape (quote c : Char) : List Char :=
  if c = '\x00' then ['\\', '0']
  else if c = '\t' then ['\\', 't']
  else if c = '\n' then ['\\', 'n']
  else if c = '\r' then ['\\', 'r']
  else if c = '\\' || c = quote then ['\\', c]
  else if Unicode.isPrintable c then [c]
  else ['\\', 'u', '\x7b'] ++ Nat.toDigits 16 c.toNat ++ ['\x7d']

def char (c : Char) : String :=
  String.ofList (['\''] ++ escape '\'' c ++ ['\''])

def string (s : String) : String :=
  String.ofList (['"'] ++ s.toList.flatMap (escape '"') ++ ['"'])

end KeyDirectory.Text.Quoted
