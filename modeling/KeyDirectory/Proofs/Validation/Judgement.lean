import KeyDirectory.Validation.Chain

/-!
# The judgement on one key

The rules of a chain are asked about a key up to the first one that objects, and no further
(`Judgement.of_judge`). What matters of a list of rules is the first objection
(`rejection_judge`), so that rules put behind others are heard only about the keys to which the others
do not object (`rejection_judge_append`).
-/

namespace KeyDirectory

variable {lookup : MailAddress} {key : Key}

/-- No rule of a chain objects to a key. -/
def Chain.Accepts (chain : Chain) (lookup : MailAddress) (key : Key) : Prop :=
  ∀ rule ∈ chain.rules, rule.reject? lookup key = none

instance (chain : Chain) (lookup : MailAddress) (key : Key) :
    Decidable (chain.Accepts lookup key) :=
  inferInstanceAs (Decidable (∀ rule ∈ chain.rules, rule.reject? lookup key = none))

/-- How a key fares with a list of rules. -/
inductive Judgement (lookup : MailAddress) (key : Key) : List Rule → Verdict → Prop where
  /-- All rules are asked, and none objects. -/
  | accepted {rules : List Rule} (silent : ∀ rule ∈ rules, rule.reject? lookup key = none) :
    Judgement lookup key rules ⟨rules, none⟩
  /-- A rule objects after others that did not, and is the last one to be asked. -/
  | rejected {before : List Rule} {rule : Rule} {reason : Rejection} (after : List Rule)
    (silent : ∀ earlier ∈ before, earlier.reject? lookup key = none)
    (objects : rule.reject? lookup key = some reason) :
    Judgement lookup key (before ++ rule :: after) ⟨before ++ [rule], some reason⟩

namespace Judgement

variable {rules : List Rule} {rule : Rule} {verdict : Verdict}

/-- A rule without objection is asked before the others, and changes nothing else. -/
theorem cons (silent : rule.reject? lookup key = none) (later : Judgement lookup key rules verdict) :
    Judgement lookup key (rule :: rules) ⟨rule :: verdict.asked, verdict.rejection⟩ := by
  cases later with
  | accepted others => exact accepted (List.forall_mem_cons.mpr ⟨silent, others⟩)
  | rejected after others objects =>
    rw [← List.cons_append, ← List.cons_append]
    exact rejected after (List.forall_mem_cons.mpr ⟨silent, others⟩) objects

/-- The rules of a judgement are those by which a key is judged. -/
theorem of_judgeBy (lookup : MailAddress) (key : Key) (rules : List Rule) :
    Judgement lookup key rules (Chain.judgeBy lookup key rules) := by
  induction rules with
  | nil => exact accepted (List.forall_mem_nil _)
  | cons rule rules ih =>
    unfold Chain.judgeBy
    cases objection : rule.reject? lookup key with
    | none => exact cons objection ih
    | some reason =>
      rw [← List.nil_append (rule :: rules), ← List.nil_append [rule]]
      exact rejected rules (List.forall_mem_nil _) objection

theorem of_judge (chain : Chain) (lookup : MailAddress) (key : Key) :
    Judgement lookup key chain.rules (chain.judge lookup key) :=
  of_judgeBy lookup key chain.rules

/-- The verdict is the first objection, if there is one. -/
theorem rejection_eq (judgement : Judgement lookup key rules verdict) :
    verdict.rejection = rules.findSome? (·.reject? lookup key) := by
  cases judgement with
  | accepted silent => exact (List.findSome?_eq_none_iff.mpr silent).symm
  | rejected after silent objects =>
    exact (List.findSome?_eq_some_iff.mpr ⟨_, _, after, rfl, objects, silent⟩).symm

end Judgement

namespace Chain

/-- The reason is that of the first rule that objects. -/
theorem rejection_judge (chain : Chain) (lookup : MailAddress) (key : Key) :
    (chain.judge lookup key).rejection = chain.rules.findSome? (·.reject? lookup key) :=
  (Judgement.of_judge chain lookup key).rejection_eq

/-- A key is not rejected iff all rules accept it. -/
theorem rejection_judge_eq_none_iff {chain : Chain} :
    (chain.judge lookup key).rejection = none ↔ chain.Accepts lookup key := by
  rw [rejection_judge, List.findSome?_eq_none_iff, Accepts]

theorem not_accepts_of_rejection_judge {chain : Chain} {reason : Rejection}
    (rejection : (chain.judge lookup key).rejection = some reason) :
    ¬ chain.Accepts lookup key := by
  intro accepts
  rw [rejection_judge_eq_none_iff.mpr accepts] at rejection
  cases rejection

/-- A longer chain accepts what both of its parts accept. -/
theorem accepts_append_iff {rules more : List Rule} :
    Accepts ⟨rules ++ more⟩ lookup key ↔
      Accepts ⟨rules⟩ lookup key ∧ Accepts ⟨more⟩ lookup key :=
  List.forall_mem_append

/-- Rules behind those of a chain are heard only if these do not object. -/
theorem rejection_judge_append (rules more : List Rule) (lookup : MailAddress) (key : Key) :
    (judge ⟨rules ++ more⟩ lookup key).rejection =
      (judge ⟨rules⟩ lookup key).rejection.or (judge ⟨more⟩ lookup key).rejection := by
  rw [rejection_judge, rejection_judge, rejection_judge, List.findSome?_append]

end Chain

end KeyDirectory
