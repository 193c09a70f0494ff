import KeyDirectory.Codec.Base64

/-!
# CRC-24

The checksum of armored blocks. A register starts at a fixed value, takes each byte into its top
eight bits, and is shifted eight times, dividing by a polynomial of degree 24.
-/

namespace KeyDirectory.Codec.Crc24

/-- The register: 24 bits, with room for the one that a shift pushes out. -/
abbrev Register := BitVec 32

/-- What the register holds before the first byte. -/
def start : Register := 0xB704CE

/-- The generator, its leading term x²⁴ included. -/
def generator : Register := 0x1864CFB

/-- One shift. When a bit leaves the 24, the generator is subtracted. -/
def shift (r : Register) : Register :=
  let doubled := r <<< 1
  if doubled &&& 0x1000000 ≠ 0 then doubled ^^^ generator else doubled

def absorb (r : Register) (b : UInt8) : Register :=
  Nat.repeat shift 8 (r ^^^ (BitVec.ofNat 32 b.toNat <<< 16))

def checksum (bytes : List UInt8) : Register :=
  bytes.foldl absorb start &&& 0xFFFFFF

/-- The three bytes of a checksum, most significant first. -/
def octets (sum : Register) : List UInt8 :=
  [UInt8.ofNat (sum.toNat / 65536), UInt8.ofNat (sum.toNat / 256), UInt8.ofNat sum.toNat]

/-- The checksum line of a block: `=` and the base64 form of the three bytes. -/
def line (bytes : List UInt8) : List Char :=
  '=' :: Base64.encode (octets (checksum bytes))

end KeyDirectory.Codec.Crc24
