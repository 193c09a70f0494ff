import KeyDirectory.Validation.Chain

/-!
# Assembling chains

A chain is put together step by step. A step adds rules at the end, or drops all that there are.
-/

namespace KeyDirectory

inductive AssemblyStep where
  /-- Adds the default rules. -/
  | addDefaults
  /-- Drops all rules. -/
  | clear
  /-- Adds the rule on user ids. -/
  | rejectMissingUserId
  /-- Adds a rule on the size of keys for each algorithm. -/
  | rejectWeak (bits : Nat) (algorithms : List Algorithm)
  /-- Adds one rule. -/
  | add (rule : Rule)

/-- A chain in the making. -/
structure Assembly where
  rules : List Rule

namespace Assembly

def empty : Assembly := ⟨[]⟩

def new : Assembly := ⟨Chain.defaultRules⟩

def step (assembly : Assembly) : AssemblyStep → Assembly
  | .addDefaults => ⟨assembly.rules ++ Chain.defaultRules⟩
  | .clear => empty
  | .rejectMissingUserId => ⟨assembly.rules ++ [.missingUserId]⟩
  | .rejectWeak bits algorithms => ⟨assembly.rules ++ algorithms.map (.minimumBits · bits)⟩
  | .add rule => ⟨assembly.rules ++ [rule]⟩

def steps (assembly : Assembly) (list : List AssemblyStep) : Assembly :=
  list.foldl step assembly

def build (assembly : Assembly) : Chain :=
  ⟨assembly.rules⟩

def describe (assembly : Assembly) : String :=
  s!"KeyringValidatorBuilder \x7b validators: {assembly.rules.length} \x7d"

end Assembly

end KeyDirectory
