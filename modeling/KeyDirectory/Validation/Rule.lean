import KeyDirectory.Key.Basic

/-!
# Rules for discovered keys

A rule looks at one key in the light of the address that was looked up, and either has nothing to
object or rejects the key with a reason.
-/

namespace KeyDirectory

/-- Why a key is rejected. -/
inductive Rejection where
  /-- No user id of the key names the mailbox that was looked up. -/
  | missingUserId (address : MailAddress)
  /-- The key is shorter than its algorithm allows. -/
  | weak (algorithm : Algorithm) (minimum : Nat)
  /-- A reason in the words of the caller. -/
  | custom (message : String)
deriving DecidableEq, Repr

def Rejection.message : Rejection → String
  | .missingUserId m => "Key does not contain a valid user-id with email " ++ m.address
  | .weak algorithm minimum =>
    algorithm.name ++ s!" keys weaker than {minimum} bits are rejected."
  | .custom message => message

inductive Rule where
  /-- Some user id names the mailbox that is looked up. -/
  | missingUserId
  /-- Keys of this algorithm have at least so many bits. -/
  | minimumBits (algorithm : Algorithm) (bits : Nat)
  /-- A rule of the caller's own, with a name. -/
  | custom (name : String) (reject : MailAddress → Key → Option Rejection)

namespace Rule

/-- The reason why a rule rejects a key, if it does. -/
def reject? (rule : Rule) (lookup : MailAddress) (key : Key) : Option Rejection :=
  match rule with
  | .missingUserId => if key.hasMailbox lookup then none else some (.missingUserId lookup)
  | .minimumBits algorithm bits =>
    if key.algorithm ≠ algorithm ∨ bits ≤ key.bits then none
    else some (.weak key.algorithm bits)
  | .custom _ reject => reject lookup key

def name? : Rule → Option String
  | .custom name _ => some name
  | _ => none

end Rule

end KeyDirectory
