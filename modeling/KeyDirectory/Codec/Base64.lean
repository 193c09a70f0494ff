/-!
# Base64

The standard alphabet with padding: three bytes make four characters, and an incomplete group at the
end is filled up with `=`.
-/

namespace KeyDirectory.Codec.Base64

/-- The character for a number below 64; only the low six bits count. -/
def symbol (n : Nat) : Char :=
  let k := n % 64
  if k < 26 then Char.ofNat ('A'.toNat + k)
  else if k < 52 then Char.ofNat ('a'.toNat + (k - 26))
  else if k < 62 then Char.ofNat ('0'.toNat + (k - 52))
  else if k = 62 then '+'
  else '/'

def encode : List UInt8 → List Char
  | [] => []
  | [a] =>
    let n := a.toNat * 16
    [symbol (n / 64), symbol n, '=', '=']
  | [a, b] =>
    let n := (a.toNat * 256 + b.toNat) * 4
    [symbol (n / 4096), symbol (n / 64), symbol n, '=']
  | a :: b :: c :: rest =>
    let n := (a.toNat * 256 + b.toNat) * 256 + c.toNat
    symbol (n / 262144) :: symbol (n / 4096) :: symbol (n / 64) :: symbol n :: encode rest

end KeyDirectory.Codec.Base64
