import KeyDirectory.Codec.Armor
import KeyDirectory.Key.Algorithm
import KeyDirectory.Mail

/-!
# Keys

A key as a lookup sees it: the facts that its certificate states. Instants are seconds since the
start of 1970, and may lie before it.
-/

namespace KeyDirectory

/-- The facts about a key. -/
structure Key where
  fingerprint : String := ""
  keyId : String := ""
  algorithm : Algorithm := .rsaEncryptOrSign
  /-- The size in bits. -/
  bits : Nat := 2048
  /-- The user ids whose binding to the key is verified. -/
  userIds : List String := []
  /-- The instant of creation. -/
  created : Int := 0
  /-- The instant of expiration, if the key ever expires. -/
  expires : Option Int := none
  revoked : Bool := false
  /-- The transport encoding. -/
  encoded : List UInt8 := []
  /-- The version of the format. -/
  version : Nat := 4
deriving DecidableEq, Repr

namespace Key

/-- Whether an instant lies in the life of the key: from its creation on, and before it expires. -/
def isValidAt (key : Key) (instant : Int) : Bool :=
  key.created ≤ instant && key.expires.all (instant < ·)

def isExpired (key : Key) (now : Int) : Bool :=
  key.expires.any (· < now)

/-- The user ids that are mail addresses; others are passed over. -/
def mailAddresses (key : Key) : List MailAddress :=
  key.userIds.filterMap fun uid => (MailAddress.ofText uid).toOption

/-- Whether a user id names the mailbox of an address. -/
def hasMailbox (key : Key) (m : MailAddress) : Bool :=
  key.mailAddresses.any (·.sameMailbox m)

def armored (key : Key) : String :=
  Codec.Armor.publicKey key.encoded

end Key

/-- A condition that keys are filtered by. -/
inductive KeyFilter where
  | excludeRevoked
  | excludeExpired
deriving DecidableEq, Repr

namespace KeyFilter

def passes (now : Int) : KeyFilter → Key → Bool
  | .excludeRevoked, key => !key.revoked
  | .excludeExpired, key => !key.isExpired now

/-- The keys that a filter lets through, in order. -/
def apply (now : Int) (f : KeyFilter) (keys : List Key) : List Key :=
  keys.filter (f.passes now)

/-- The keys that are left after each of the filters in turn. -/
def applyEach (now : Int) (keys : List Key) : List KeyFilter → List (List Key)
  | [] => []
  | f :: rest =>
    let left := f.apply now keys
    left :: applyEach now left rest

end KeyFilter

end KeyDirectory
