/-!
# UTF-8

Bytes are read by a machine that holds the sequence it is in the middle of. A sequence that cannot
go on is given up as a whole: the bytes seen so far are the longest beginning of a well-formed
sequence, and the byte that broke it is read afresh. The reader that never fails shows each such run
as one U+FFFD; the strict reader reports the first one.
-/

namespace KeyDirectory.Text.Utf8

/-- One item of a decoded byte sequence. -/
inductive Item where
  /-- A well-formed character. -/
  | scalar (c : Char)
  /-- A run of bytes that begins no character, `length` bytes long. -/
  | malformed (length : Nat)
  /-- The input ended inside a character, after `length` bytes of it. -/
  | truncated (length : Nat)
deriving DecidableEq, Repr

/-- A character whose last bytes are still missing. -/
structure Pending where
  /-- The bits read so far. -/
  value : Nat
  /-- The number of bytes read so far. -/
  seen : Nat
  /-- The number of bytes still to come. -/
  missing : Nat
  /-- The smallest byte that may come next. -/
  low : Nat
  /-- The largest byte that may come next. -/
  high : Nat
deriving DecidableEq, Repr

/-- What a byte at the start of a character tells: the item it already is, or the sequence that it
opens. The bounds on the second byte rule out overlong forms, surrogates and values past U+10FFFF. -/
def lead (b : UInt8) : Item ⊕ Pending :=
  let n := b.toNat
  if n < 0x80 then .inl (.scalar (Char.ofNat n))
  else if 0xC2 ≤ n ∧ n ≤ 0xDF then .inr ⟨n - 0xC0, 1, 1, 0x80, 0xBF⟩
  else if n = 0xE0 then .inr ⟨0, 1, 2, 0xA0, 0xBF⟩
  else if n = 0xED then .inr ⟨n - 0xE0, 1, 2, 0x80, 0x9F⟩
  else if 0xE1 ≤ n ∧ n ≤ 0xEF then .inr ⟨n - 0xE0, 1, 2, 0x80, 0xBF⟩
  else if n = 0xF0 then .inr ⟨0, 1, 3, 0x90, 0xBF⟩
  else if n = 0xF4 then .inr ⟨n - 0xF0, 1, 3, 0x80, 0x8F⟩
  else if 0xF1 ≤ n ∧ n ≤ 0xF3 then .inr ⟨n - 0xF0, 1, 3, 0x80, 0xBF⟩
  else .inl (.malformed 1)

/-- The items finished by one byte, and the sequence that is open after it. -/
def step (state : Option Pending) (b : UInt8) : List Item × Option Pending :=
  let afresh := fun (done : List Item) =>
    match lead b with
    | .inl item => (done ++ [item], none)
    | .inr p => (done, some p)
  match state with
  | none => afresh []
  | some p =>
    if p.low ≤ b.toNat ∧ b.toNat ≤ p.high then
      let value := p.value * 64 + (b.toNat - 0x80)
      if p.missing ≤ 1 then ([.scalar (Char.ofNat value)], none)
      else ([], some ⟨value, p.seen + 1, p.missing - 1, 0x80, 0xBF⟩)
    else afresh [.malformed p.seen]

/-- The items of `bytes` when the sequence `state` is open before them. -/
def itemsFrom : Option Pending → List UInt8 → List Item
  | none, [] => []
  | some p, [] => [.truncated p.seen]
  | state, b :: rest => (step state b).1 ++ itemsFrom (step state b).2 rest

/-- The characters and the ill-formed runs of a byte sequence, in order. -/
def items (bytes : List UInt8) : List Item :=
  itemsFrom none bytes

def replacement : Char := '\uFFFD'

/-- How the reader that never fails shows an item. -/
def Item.shown : Item → Char
  | .scalar c => c
  | .malformed _ => replacement
  | .truncated _ => replacement

/-- Reads bytes as text; every ill-formed run becomes one U+FFFD. -/
def decodeLossy (bytes : List UInt8) : List Char :=
  (items bytes).map Item.shown

/-- Where bytes stop being well-formed. -/
structure Malformation where
  /-- The number of well-formed bytes before. -/
  index : Nat
  /-- The length of the ill-formed run; none when the input ended inside a character. -/
  length : Option Nat
deriving DecidableEq, Repr

def Malformation.message (m : Malformation) : String :=
  match m.length with
  | some n => s!"invalid utf-8 sequence of {n} bytes from index {m.index}"
  | none => s!"incomplete utf-8 byte sequence from index {m.index}"

/-- The characters of `items`, unless one is ill-formed; `index` counts the bytes before them. -/
def Item.chars (index : Nat) : List Item → Except Malformation (List Char)
  | [] => .ok []
  | .scalar c :: rest => (chars (index + c.utf8Size) rest).map (c :: ·)
  | .malformed n :: _ => .error ⟨index, some n⟩
  | .truncated _ :: _ => .error ⟨index, none⟩

/-- Reads bytes as text, or says where they are ill-formed. -/
def decode (bytes : List UInt8) : Except Malformation (List Char) :=
  Item.chars 0 (items bytes)

def encode (text : List Char) : List UInt8 :=
  text.flatMap String.utf8EncodeChar

end KeyDirectory.Text.Utf8
