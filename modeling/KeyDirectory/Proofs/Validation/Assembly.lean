import KeyDirectory.Proofs.Validation.Keyring
import KeyDirectory.Validation.Assembly
import Mathlib.Data.List.Basic

/-!
# Histories of assemblies

An assembly is known by the steps since it was last cleared: they add their rules one after the other
(`rules_steps`), and what was before does not matter (`steps_of_clear_mem`). Further steps put rules
behind the others. That makes a chain stricter and changes nothing that it has said: it keeps fewer
keys, and the keys that it rejects, it still rejects with the same reasons (`tightens_append`).
The main result, `build_steps`, is about every history.
-/

namespace KeyDirectory

/-! ## Steps -/

/-- The rules that a step adds at the end. -/
def AssemblyStep.rules : AssemblyStep → List Rule
  | .addDefaults => [.missingUserId]
  | .clear => []
  | .rejectMissingUserId => [.missingUserId]
  | .rejectWeak bits algorithms => algorithms.map fun algorithm => .minimumBits algorithm bits
  | .add rule => [rule]

namespace Assembly

/-- A step puts its rules behind the others, unless it clears them. -/
theorem rules_step (assembly : Assembly) {s : AssemblyStep} (ne : s ≠ .clear) :
    (assembly.step s).rules = assembly.rules ++ s.rules := by
  cases s with
  | clear => exact absurd rfl ne
  | addDefaults => rfl
  | rejectMissingUserId => rfl
  | rejectWeak bits algorithms => rfl
  | add rule => rfl

theorem steps_append (assembly : Assembly) (list more : List AssemblyStep) :
    assembly.steps (list ++ more) = (assembly.steps list).steps more :=
  List.foldl_append

/-- Steps without clearing put their rules behind the others, in order. -/
theorem rules_steps (assembly : Assembly) {list : List AssemblyStep} (keeps : .clear ∉ list) :
    (assembly.steps list).rules = assembly.rules ++ list.flatMap AssemblyStep.rules := by
  induction list generalizing assembly with
  | nil => exact (List.append_nil _).symm
  | cons s list ih =>
    rw [List.mem_cons, not_or] at keeps
    obtain ⟨ne, keeps⟩ := keeps
    have first := rules_step assembly (Ne.symm ne)
    have others : ((assembly.step s).steps list).rules =
        (assembly.step s).rules ++ list.flatMap AssemblyStep.rules := ih (assembly.step s) keeps
    rw [List.flatMap_cons, ← List.append_assoc, ← first]
    exact others

/-- An assembly that is cleared is as good as an empty one. -/
theorem steps_clear (assembly : Assembly) (before after : List AssemblyStep) :
    assembly.steps (before ++ .clear :: after) = empty.steps after := by
  rw [steps_append]
  rfl

/-- Only the steps after the last clearing count. -/
theorem steps_of_clear_mem (assembly : Assembly) {list : List AssemblyStep} (mem : .clear ∈ list) :
    ∃ before after, list = before ++ .clear :: after ∧ .clear ∉ after ∧
      assembly.steps list = empty.steps after := by
  -- the last clearing is the first one from behind
  obtain ⟨after, before, reversed, absent⟩ := List.eq_append_cons_of_mem (List.mem_reverse.mpr mem)
  have cut : list = before.reverse ++ .clear :: after.reverse := by
    rw [← List.reverse_reverse list, reversed]
    simp
  refine ⟨before.reverse, after.reverse, cut, ?_, ?_⟩
  · rwa [List.mem_reverse]
  · rw [cut, steps_clear]

end Assembly

/-! ## Stricter chains -/

/-- A function that has the same results, and results for more elements, leaves the others in order. -/
theorem filterMap_sublist_filterMap {α β : Type} {f g : α → Option β}
    (le : ∀ a b, f a = some b → g a = some b) (xs : List α) :
    (xs.filterMap f).Sublist (xs.filterMap g) := by
  induction xs with
  | nil => exact .slnil
  | cons x xs ih =>
    cases result : f x with
    | none =>
      rw [List.filterMap_cons_none result]
      exact ih.trans (List.Sublist.filterMap g (List.sublist_cons_self x xs))
    | some b =>
      rw [List.filterMap_cons_some result, List.filterMap_cons_some (le x b result)]
      exact ih.cons_cons b

/-- One outcome for a keyring is stricter than another by certain rules. -/
structure Outcome.Tightens (lookup : MailAddress) (added : List Rule) (old new : Outcome) : Prop where
  /-- No key is accepted anew. -/
  accepted : new.accepted.Sublist old.accepted
  /-- Rejected keys stay rejected, with their reasons. -/
  rejected : old.rejected.Sublist new.rejected
  /-- Where a key is rejected anew, one of the rules says why. -/
  reasons : ∀ key ∈ old.accepted, ∀ reason, (key, reason) ∈ new.rejected →
    ∃ rule ∈ added, rule.reject? lookup key = some reason

/-- More rules at the end make a chain stricter. -/
theorem Chain.tightens_append (rules added : List Rule) (lookup : MailAddress) (keys : List Key) :
    Outcome.Tightens lookup added (validate ⟨rules⟩ lookup keys)
      (validate ⟨rules ++ added⟩ lookup keys) := by
  constructor
  case accepted =>
    rw [accepted_validate, accepted_validate]
    apply List.monotone_filter_right
    intro key accepts
    rw [decide_eq_true_eq] at accepts ⊢
    exact (accepts_append_iff.mp accepts).1
  case rejected =>
    rw [rejected_validate, rejected_validate]
    apply filterMap_sublist_filterMap
    intro key entry rejects
    rw [Option.map_eq_some_iff] at rejects ⊢
    obtain ⟨reason, rejection, entry_eq⟩ := rejects
    refine ⟨reason, ?_, entry_eq⟩
    rw [rejection_judge_append, rejection, Option.some_or]
  case reasons =>
    intro key kept reason listed
    obtain ⟨-, accepts⟩ := mem_accepted_validate.mp kept
    obtain ⟨-, rejection⟩ := mem_rejected_validate.mp listed
    -- the rules that were there do not object, and so the objection is one of the added rules
    rw [rejection_judge_append, rejection_judge_eq_none_iff.mpr accepts, Option.none_or,
      rejection_judge] at rejection
    exact List.exists_of_findSome?_eq_some rejection

namespace Assembly

/-- The chain at the end of a history of steps. If the assembly was ever cleared, it is the one that an
empty assembly gives with the steps since then; otherwise the rules of all steps follow those from
the start, in order. Steps that are taken in addition, without clearing, only make it stricter. -/
theorem build_steps (start : Assembly) (list : List AssemblyStep) :
    (.clear ∈ list → ∃ before after, list = before ++ .clear :: after ∧ .clear ∉ after ∧
      (start.steps list).build = (empty.steps after).build) ∧
    (.clear ∉ list →
      (start.steps list).build.rules = start.build.rules ++ list.flatMap AssemblyStep.rules) ∧
    ∀ more, .clear ∉ more → ∀ lookup keys,
      Outcome.Tightens lookup (more.flatMap AssemblyStep.rules)
        ((start.steps list).build.validate lookup keys)
        ((start.steps (list ++ more)).build.validate lookup keys) := by
  refine ⟨?_, rules_steps start, ?_⟩
  · intro mem
    obtain ⟨before, after, cut, absent, same⟩ := steps_of_clear_mem start mem
    exact ⟨before, after, cut, absent, congrArg build same⟩
  · intro more keeps lookup keys
    rw [steps_append, build, build, rules_steps (start.steps list) keeps]
    exact Chain.tightens_append _ _ lookup keys

/-- An assembly that is cleared once, one that never is, and a step in addition: a key that was kept is
then rejected as too short, and the key that was rejected still is, for the same reason. -/
theorem build_steps_cleared_once :
    (∃ before after, [.rejectWeak 4096 [.dsa], .clear, .addDefaults] = before ++ .clear :: after ∧
      .clear ∉ after ∧
      (new.steps [.rejectWeak 4096 [.dsa], .clear, .addDefaults]).build = (empty.steps after).build) ∧
    (new.steps [.addDefaults, .rejectWeak 2048 [.dsa, .rsaSignOnly]]).build.rules =
      [.missingUserId, .missingUserId, .minimumBits .dsa 2048, .minimumBits .rsaSignOnly 2048] ∧
    let lookup : MailAddress := ⟨none, "a", "b"⟩
    let short : Key := { userIds := ["A <a@B>"], algorithm := .dsa, bits := 1024 }
    let nameless : Key := {}
    let old := (new.steps []).build.validate lookup [short, nameless]
    let stricter := (new.steps [.rejectWeak 2048 [.dsa]]).build.validate lookup [short, nameless]
    old.accepted = [short] ∧ old.rejected = [(nameless, .missingUserId lookup)] ∧
      stricter.accepted = [] ∧
      stricter.rejected = [(short, .weak .dsa 2048), (nameless, .missingUserId lookup)] ∧
      Outcome.Tightens lookup [.minimumBits .dsa 2048] old stricter := by
  refine ⟨(build_steps new _).1 (by simp), (build_steps new _).2.1 (by simp), ?_⟩
  intro lookup short nameless old stricter
  obtain ⟨-, -, additional⟩ := build_steps new []
  have outcomes : old.accepted = [short] ∧ old.rejected = [(nameless, .missingUserId lookup)] ∧
      stricter.accepted = [] ∧
      stricter.rejected = [(short, .weak .dsa 2048), (nameless, .missingUserId lookup)] := by
    decide +kernel
  obtain ⟨accepted, rejected, accepted', rejected'⟩ := outcomes
  exact ⟨accepted, rejected, accepted', rejected',
    additional [.rejectWeak 2048 [.dsa]] (by simp) lookup [short, nameless]⟩

end Assembly

end KeyDirectory
