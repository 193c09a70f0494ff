/-!
# z-base-32

Bytes are read as one string of bits, most significant first, and written five bits to a character.
Bits that do not fill a group are padded with zeros on the right; there is no padding character.
-/

namespace KeyDirectory.Codec.ZBase32

/-- The 32 characters, by the number that each stands for. -/
def alphabet : List Char :=
  ['y', 'b', 'n', 'd', 'r', 'f', 'g', '8', 'e', 'j', 'k', 'm', 'c', 'p', 'q', 'x',
   'o', 't', '1', 'u', 'w', 'i', 's', 'z', 'a', '3', '4', '5', 'h', '7', '6', '9']

/-- The character for a number below 32; only the low five bits count. -/
def symbol (n : Nat) : Char :=
  alphabet.getD (n % 32) 'y'

/-- Writes the low `width` bits of the buffer from the top, as long as they fill a character. -/
def writeFull (buffer : BitVec 32) : Nat → List Char
  | width + 5 => symbol (buffer >>> width).toNat :: writeFull buffer width
  | _ => []

/-- Encodes `bytes` after the low `width` bits of the buffer, which are still to be written. The bits
above them were written before; they stay in the buffer until they are pushed out of it. -/
def encodeFrom (buffer : BitVec 32) (width : Nat) : List UInt8 → List Char
  | [] => if width = 0 then [] else [symbol (buffer <<< (5 - width)).toNat]
  | b :: rest =>
    let filled := buffer <<< 8 ||| BitVec.ofNat 32 b.toNat
    writeFull filled (width + 8) ++ encodeFrom filled ((width + 8) % 5) rest

def encode (bytes : List UInt8) : String :=
  String.ofList (encodeFrom 0 0 bytes)

end KeyDirectory.Codec.ZBase32
