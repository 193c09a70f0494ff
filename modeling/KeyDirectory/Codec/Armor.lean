import KeyDirectory.Codec.Crc24
import KeyDirectory.Text.Split

/-!
# Armored blocks

A public key as printable text: a begin line, an empty line in place of headers, the base64 form in
lines of 64 characters, the checksum line and an end line.
-/

namespace KeyDirectory.Codec.Armor

def lineWidth : Nat := 64

def beginLine : List Char := "-----BEGIN PGP PUBLIC KEY BLOCK-----".toList

def endLine : List Char := "-----END PGP PUBLIC KEY BLOCK-----".toList

/-- Breaks a text into lines of `width` characters, the last one possibly shorter. The line in
progress is `line`, and `room` more characters fit on it. -/
def wrapFrom (width : Nat) (line : List Char) (room : Nat) : List Char → List (List Char)
  | [] => if line.isEmpty then [] else [line]
  | c :: rest =>
    match room with
    | 0 => line :: wrapFrom width [c] (width - 1) rest
    | room + 1 => wrapFrom width (line ++ [c]) room rest

/-- Breaks a text into lines of `width` characters, the last one possibly shorter. -/
def wrap (width : Nat) (text : List Char) : List (List Char) :=
  wrapFrom width [] width text

/-- The base64 form of `bytes`, broken into lines that a newline separates. -/
def body (bytes : List UInt8) : List Char :=
  Text.joinWith ['\n'] (wrap lineWidth (Base64.encode bytes))

/-- The armored block that shows `bytes`. A block without bytes still has its body line, empty. -/
def publicKey (bytes : List UInt8) : String :=
  String.ofList (Text.joinWith ['\n'] [beginLine, [], body bytes, Crc24.line bytes, endLine])

end KeyDirectory.Codec.Armor
