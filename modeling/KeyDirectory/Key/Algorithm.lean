/-!
# Public key algorithms

Algorithms are known by a number of one byte. Numbers without a meaning of their own are kept, those
from 100 to 110 as experimental ones.
-/

namespace KeyDirectory

inductive Algorithm where
  | rsaEncryptOrSign
  | rsaEncryptOnly
  | rsaSignOnly
  | elGamalEncryptOnly
  | dsa
  | ecdh
  | ecdsa
  | elGamalEncryptOrSign
  | diffieHellman
  | edDsa
  | aedh
  | aeDsa
  /-- An algorithm for private or experimental use. -/
  | experimental (code : UInt8)
  /-- Any other algorithm. -/
  | unknown (code : UInt8)
deriving DecidableEq, Repr

namespace Algorithm

def code : Algorithm → UInt8
  | .rsaEncryptOrSign => 1
  | .rsaEncryptOnly => 2
  | .rsaSignOnly => 3
  | .elGamalEncryptOnly => 16
  | .dsa => 17
  | .ecdh => 18
  | .ecdsa => 19
  | .elGamalEncryptOrSign => 20
  | .diffieHellman => 21
  | .edDsa => 22
  | .aedh => 23
  | .aeDsa => 24
  | .experimental code => code
  | .unknown code => code

/-- The algorithms with a number and a name of their own. -/
def named : List Algorithm :=
  [.rsaEncryptOrSign, .rsaEncryptOnly, .rsaSignOnly, .elGamalEncryptOnly, .dsa, .ecdh, .ecdsa,
   .elGamalEncryptOrSign, .diffieHellman, .edDsa, .aedh, .aeDsa]

def ofCode (n : UInt8) : Algorithm :=
  match named.find? (·.code == n) with
  | some a => a
  | none => if 100 ≤ n ∧ n ≤ 110 then .experimental n else .unknown n

/-- The name of an algorithm. Experimental ones are counted from 100 on, with two digits at least. -/
def name : Algorithm → String
  | .rsaEncryptOrSign => "RsaEncryptOrSign"
  | .rsaEncryptOnly => "RsaEncryptOnly"
  | .rsaSignOnly => "RsaSignOnly"
  | .elGamalEncryptOnly => "ElGamalEncryptOnly"
  | .dsa => "Dsa"
  | .ecdh => "Ecdh"
  | .ecdsa => "Ecdsa"
  | .elGamalEncryptOrSign => "ElGamalEncryptOrSign"
  | .diffieHellman => "DiffieHellman"
  | .edDsa => "EdDsa"
  | .aedh => "Aedh"
  | .aeDsa => "AeDsa"
  | .experimental code =>
    let n := code.toNat - 100
    if n < 10 then s!"Experimental0{n}" else s!"Experimental{n}"
  | .unknown code => s!"Unknown({code})"

end Algorithm

end KeyDirectory
