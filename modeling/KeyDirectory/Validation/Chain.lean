import KeyDirectory.Validation.Rule

/-!
# Chains of rules

The rules of a chain are asked in order, and the first rejection settles the matter: the rules after
it are not asked. A keyring is split into the keys that no rule rejects and the others, each part in
the order of the keyring.
-/

namespace KeyDirectory

/-- The rules that keys have to pass, in the order in which they are asked. -/
structure Chain where
  rules : List Rule

/-- What a chain says of one key. -/
structure Verdict where
  /-- The rules that were asked, in order. -/
  asked : List Rule
  /-- The reason of the last of them, if it rejects the key. -/
  rejection : Option Rejection

/-- What a chain says of a keyring. -/
structure Outcome where
  accepted : List Key
  rejected : List (Key × Rejection)
  /-- The rules that were asked, each with the key, in order. -/
  asked : List (Rule × Key)

namespace Chain

/-- The chain without rules, which accepts every key. -/
def acceptAll : Chain := ⟨[]⟩

def defaultRules : List Rule := [.missingUserId]

def default : Chain := ⟨defaultRules⟩

def judgeBy (lookup : MailAddress) (key : Key) : List Rule → Verdict
  | [] => ⟨[], none⟩
  | rule :: rest =>
    match rule.reject? lookup key with
    | some reason => ⟨[rule], some reason⟩
    | none =>
      let verdict := judgeBy lookup key rest
      { verdict with asked := rule :: verdict.asked }

def judge (chain : Chain) (lookup : MailAddress) (key : Key) : Verdict :=
  judgeBy lookup key chain.rules

/-- Asks the rules of a chain about each key of a keyring. -/
def validate (chain : Chain) (lookup : MailAddress) : List Key → Outcome
  | [] => ⟨[], [], []⟩
  | key :: rest =>
    let verdict := chain.judge lookup key
    let later := chain.validate lookup rest
    let asked := verdict.asked.map (·, key) ++ later.asked
    match verdict.rejection with
    | none => ⟨key :: later.accepted, later.rejected, asked⟩
    | some reason => ⟨later.accepted, (key, reason) :: later.rejected, asked⟩

def describe (chain : Chain) : String :=
  s!"KeyringValidator \x7b validators: {chain.rules.length} \x7d"

end Chain

end KeyDirectory
