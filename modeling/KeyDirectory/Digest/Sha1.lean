/-!
# SHA-1

The message is padded to whole blocks of 64 bytes; every block drives eighty rounds over five words.
Here it maps names to names, so nothing rests on its strength.
-/

namespace KeyDirectory.Digest.Sha1

/-- The five words that the rounds transform. -/
structure State where
  a : UInt32
  b : UInt32
  c : UInt32
  d : UInt32
  e : UInt32
deriving DecidableEq, Repr

def start : State := ⟨0x67452301, 0xEFCDAB89, 0x98BADCFE, 0x10325476, 0xC3D2E1F0⟩

/-- Rotates a word to the left by `n` bits, for `n` between 1 and 31. -/
def rotate (x : UInt32) (n : UInt32) : UInt32 :=
  (x <<< n) ||| (x >>> (32 - n))

/-- The big-endian bytes of a word. -/
def octets (x : UInt32) : List UInt8 :=
  [(x >>> 24).toUInt8, (x >>> 16).toUInt8, (x >>> 8).toUInt8, x.toUInt8]

/-- The big-endian bytes of a length of 64 bits. -/
def lengthOctets (n : Nat) : List UInt8 :=
  octets (UInt32.ofNat (n / 4294967296)) ++ octets (UInt32.ofNat n)

/-- The message with the bit 1, zeros up to eight bytes short of a block, and its length in bits. -/
def pad (message : List UInt8) : List UInt8 :=
  let zeros := (119 - message.length % 64) % 64
  message ++ 0x80 :: List.replicate zeros 0 ++ lengthOctets (message.length * 8)

/-- The big-endian words of a byte sequence; bytes that fill no word are dropped. -/
def words : List UInt8 → List UInt32
  | a :: b :: c :: d :: rest =>
    ((a.toUInt32 <<< 24) ||| (b.toUInt32 <<< 16) ||| (c.toUInt32 <<< 8) ||| d.toUInt32) ::
      words rest
  | _ => []

/-- Extends a schedule by `n` words; the list holds the latest word first. -/
def extend : Nat → List UInt32 → List UInt32
  | 0, w => w
  | n + 1, w =>
    extend n (rotate (w.getD 2 0 ^^^ w.getD 7 0 ^^^ w.getD 13 0 ^^^ w.getD 15 0) 1 :: w)

/-- The eighty words that one block of sixteen drives the rounds with. -/
def schedule (block : List UInt32) : List UInt32 :=
  (extend 64 block.reverse).reverse

/-- The mixing function and the constant of round `t`. -/
def mix (t : Nat) (s : State) : UInt32 :=
  if t < 20 then ((s.b &&& s.c) ||| (~~~s.b &&& s.d)) + 0x5A827999
  else if t < 40 then (s.b ^^^ s.c ^^^ s.d) + 0x6ED9EBA1
  else if t < 60 then ((s.b &&& s.c) ||| (s.b &&& s.d) ||| (s.c &&& s.d)) + 0x8F1BBCDC
  else (s.b ^^^ s.c ^^^ s.d) + 0xCA62C1D6

def round (t : Nat) (s : State) (w : UInt32) : State :=
  ⟨rotate s.a 5 + mix t s + s.e + w, s.a, rotate s.b 30, s.c, s.d⟩

/-- The rounds from number `t` on, one for each word. -/
def rounds (t : Nat) (s : State) : List UInt32 → State
  | [] => s
  | w :: rest => rounds (t + 1) (round t s w) rest

def compress (s : State) (block : List UInt32) : State :=
  let r := rounds 0 s (schedule block)
  ⟨s.a + r.a, s.b + r.b, s.c + r.c, s.d + r.d, s.e + r.e⟩

/-- Takes in as many blocks as `n` says; words that are left over stay unread. -/
def absorb : Nat → State → List UInt32 → State
  | 0, s, _ => s
  | n + 1, s, ws => absorb n (compress s (ws.take 16)) (ws.drop 16)

def digest (message : List UInt8) : List UInt8 :=
  let ws := words (pad message)
  let s := absorb (ws.length / 16) start ws
  octets s.a ++ octets s.b ++ octets s.c ++ octets s.d ++ octets s.e

theorem length_digest (message : List UInt8) : (digest message).length = 20 := rfl

end KeyDirectory.Digest.Sha1
