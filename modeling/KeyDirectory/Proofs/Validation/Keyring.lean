import KeyDirectory.Proofs.Validation.Judgement

/-!
# Keyrings

A chain keeps the keys that none of its rules rejects (`accepted_validate`), and lists the others with
the reason for each (`rejected_validate`), both in the order of the keyring. It goes through the keys
one by one (`validate_eq`), so that no key has a say in what becomes of the others
(`validate_append`). Since both parts are in order, the positions of the keys put them together again
(`mergesTo_validate`). The whole of it is `splits_validate`.
-/

namespace KeyDirectory

/-! ## Positions -/

section Merging

variable {α : Type} {le : α → α → Bool} {x y : α} {xs ys : List α}

theorem cons_merge_of_forall (first : ∀ y ∈ ys, le x y = true) :
    (x :: xs).merge ys le = x :: xs.merge ys le := by
  cases ys with
  | nil => rw [List.merge_right, List.merge_right]
  | cons y ys => exact List.cons_merge_cons_pos le xs ys (first y List.mem_cons_self)

theorem merge_cons_of_forall (later : ∀ x ∈ xs, le x y = false) :
    xs.merge (y :: ys) le = y :: xs.merge ys le := by
  cases xs with
  | nil => rw [List.nil_merge, List.nil_merge]
  | cons x xs =>
    have not_le : ¬ le x y = true := Bool.not_eq_true _ ▸ later x List.mem_cons_self
    exact List.cons_merge_cons_neg le xs ys not_le

/-- A list with its positions is cut in two by a condition and merged by position: nothing has
changed. -/
theorem merge_filter_zipIdx (p : α → Bool) (xs : List α) (n : Nat) :
    ((xs.zipIdx n).filter (p ·.1)).merge ((xs.zipIdx n).filter (!p ·.1)) (·.2 ≤ ·.2) =
      xs.zipIdx n := by
  induction xs generalizing n with
  | nil => simp
  | cons x xs ih =>
    -- the positions that follow are all behind that of the first element
    have behind : ∀ q : α × Nat → Bool, ∀ y ∈ (xs.zipIdx (n + 1)).filter q, n < y.2 := by
      intro q y mem
      exact List.le_snd_of_mem_zipIdx (List.mem_filter.mp mem).1
    rw [List.zipIdx_cons]
    cases holds : p x with
    | true =>
      rw [List.filter_cons_of_pos (by simp [holds]), List.filter_cons_of_neg (by simp [holds]),
        cons_merge_of_forall, ih]
      intro y mem
      exact decide_eq_true (Nat.le_of_lt (behind _ y mem))
    | false =>
      rw [List.filter_cons_of_neg (by simp [holds]), List.filter_cons_of_pos (by simp [holds]),
        merge_cons_of_forall, ih]
      intro y mem
      exact decide_eq_false (Nat.not_le_of_gt (behind _ y mem))

def positions (p : α → Bool) (xs : List α) : List Nat :=
  (xs.zipIdx.filter (p ·.1)).map Prod.snd

theorem filter_eq_map_fst (p : α → Bool) (xs : List α) :
    xs.filter p = (xs.zipIdx.filter (p ·.1)).map Prod.fst :=
  calc xs.filter p
    _ = (xs.zipIdx.map Prod.fst).filter p := by rw [List.zipIdx_map_fst]
    _ = (xs.zipIdx.filter (p ·.1)).map Prod.fst := List.filter_map

theorem length_positions (p : α → Bool) (xs : List α) :
    (positions p xs).length = (xs.filter p).length := by
  rw [filter_eq_map_fst, positions, List.length_map, List.length_map]

theorem filter_zip_positions (p : α → Bool) (xs : List α) :
    (xs.filter p).zip (positions p xs) = xs.zipIdx.filter (p ·.1) := by
  rw [filter_eq_map_fst, positions, List.zip_map', List.map_id']

end Merging

/-! ## Outcomes -/

/-- The outcomes of two keyrings of which one follows the other. -/
instance : Append Outcome where
  append first second :=
    ⟨first.accepted ++ second.accepted, first.rejected ++ second.rejected,
      first.asked ++ second.asked⟩

/-- The keys of both parts, put in the order of their positions, are those of a keyring. -/
def Outcome.MergesTo (outcome : Outcome) (keys : List Key) : Prop :=
  ∃ acceptedAt rejectedAt : List Nat,
    acceptedAt.length = outcome.accepted.length ∧
    rejectedAt.length = outcome.rejected.length ∧
    (outcome.accepted.zip acceptedAt).merge ((outcome.rejected.map Prod.fst).zip rejectedAt)
      (·.2 ≤ ·.2) = keys.zipIdx

/-! ## Keyrings -/

namespace Chain

variable {chain : Chain} {lookup : MailAddress}

/-- An outcome is made key by key, from the judgement on each. -/
theorem validate_eq (chain : Chain) (lookup : MailAddress) (keys : List Key) :
    chain.validate lookup keys =
      { accepted := keys.filter fun key => chain.Accepts lookup key
        rejected := keys.filterMap fun key => (chain.judge lookup key).rejection.map (key, ·)
        asked := keys.flatMap fun key => (chain.judge lookup key).asked.map (·, key) } := by
  induction keys with
  | nil => rfl
  | cons key keys ih =>
    unfold validate
    rw [ih]
    cases rejection : (chain.judge lookup key).rejection with
    | none =>
      have accepts := rejection_judge_eq_none_iff.mp rejection
      simp [rejection, accepts]
    | some reason =>
      have rejects := not_accepts_of_rejection_judge rejection
      simp [rejection, rejects]

/-- The keys that all rules accept are kept, in order. -/
theorem accepted_validate (chain : Chain) (lookup : MailAddress) (keys : List Key) :
    (chain.validate lookup keys).accepted = keys.filter fun key => chain.Accepts lookup key := by
  rw [validate_eq]

/-- The other keys are rejected, each with the first reason, in order. -/
theorem rejected_validate (chain : Chain) (lookup : MailAddress) (keys : List Key) :
    (chain.validate lookup keys).rejected =
      keys.filterMap fun key => (chain.judge lookup key).rejection.map (key, ·) := by
  rw [validate_eq]

/-- The keys that are listed as rejected are those that are not accepted. -/
theorem map_fst_rejected_validate (chain : Chain) (lookup : MailAddress) (keys : List Key) :
    (chain.validate lookup keys).rejected.map Prod.fst =
      keys.filter fun key => !decide (chain.Accepts lookup key) := by
  rw [rejected_validate, List.map_filterMap, ← List.filterMap_eq_filter]
  apply congrArg (keys.filterMap ·)
  funext key
  cases rejection : (chain.judge lookup key).rejection with
  | none =>
    have accepts := rejection_judge_eq_none_iff.mp rejection
    simp [Option.guard, accepts]
  | some reason =>
    have rejects := not_accepts_of_rejection_judge rejection
    simp [Option.guard, rejects]

theorem mem_accepted_validate {keys : List Key} {key : Key} :
    key ∈ (chain.validate lookup keys).accepted ↔ key ∈ keys ∧ chain.Accepts lookup key := by
  rw [accepted_validate, List.mem_filter, decide_eq_true_eq]

theorem mem_rejected_validate {keys : List Key} {key : Key} {reason : Rejection} :
    (key, reason) ∈ (chain.validate lookup keys).rejected ↔
      key ∈ keys ∧ (chain.judge lookup key).rejection = some reason := by
  rw [rejected_validate, List.mem_filterMap]
  constructor
  · rintro ⟨key', mem, entry⟩
    obtain ⟨reason', rejection, pair⟩ := Option.map_eq_some_iff.mp entry
    obtain ⟨rfl, rfl⟩ := Prod.mk.inj pair
    exact ⟨mem, rejection⟩
  · rintro ⟨mem, rejection⟩
    exact ⟨key, mem, by rw [rejection, Option.map_some]⟩

/-- Where every key is rejected, none is kept and all are listed. -/
theorem validate_of_all_rejected {keys : List Key}
    (all : ∀ key ∈ keys, (chain.judge lookup key).rejection ≠ none) :
    (chain.validate lookup keys).accepted = [] ∧
      (chain.validate lookup keys).rejected.map Prod.fst = keys := by
  have rejects : ∀ key ∈ keys, ¬ chain.Accepts lookup key := by
    intro key mem accepts
    exact all key mem (rejection_judge_eq_none_iff.mpr accepts)
  constructor
  · rw [accepted_validate, List.filter_eq_nil_iff]
    simpa using rejects
  · rw [map_fst_rejected_validate, List.filter_eq_self]
    simpa using rejects

/-- The outcome of a keyring is made of those of its parts. -/
theorem validate_append (chain : Chain) (lookup : MailAddress) (keys keys' : List Key) :
    chain.validate lookup (keys ++ keys') =
      chain.validate lookup keys ++ chain.validate lookup keys' := by
  rw [validate_eq, validate_eq, validate_eq, List.filter_append, List.filterMap_append,
    List.flatMap_append]
  rfl

/-- No key gets lost or doubled, and none overtakes another. -/
theorem mergesTo_validate (chain : Chain) (lookup : MailAddress) (keys : List Key) :
    (chain.validate lookup keys).MergesTo keys := by
  let accepts : Key → Bool := fun key => chain.Accepts lookup key
  have accepted := accepted_validate chain lookup keys
  have others := map_fst_rejected_validate chain lookup keys
  refine ⟨positions accepts keys, positions (!accepts ·) keys, ?_, ?_, ?_⟩
  · rw [length_positions, accepted]
  · rw [length_positions, ← others, List.length_map]
  · rw [accepted, others, filter_zip_positions, filter_zip_positions]
    exact merge_filter_zipIdx accepts keys 0

/-- What a chain makes of a keyring. -/
structure Splits (chain : Chain) (lookup : MailAddress) (keys : List Key) (outcome : Outcome) :
    Prop where
  /-- Kept are the keys to which no rule objects, -/
  accepted : outcome.accepted = keys.filter fun key => chain.Accepts lookup key
  /-- and listed are the others, -/
  others : outcome.rejected.map Prod.fst = keys.filter fun key => ¬ chain.Accepts lookup key
  /-- each with what the first rule says that objects to it. -/
  rejected : outcome.rejected =
    keys.filterMap fun key => (chain.judge lookup key).rejection.map (key, ·)
  /-- The positions of the keys put both parts together again. -/
  mergesTo : outcome.MergesTo keys
  /-- The rules are asked about one key after the other. -/
  asked : outcome.asked = keys.flatMap fun key => (chain.judge lookup key).asked.map (·, key)

/-- A chain asks its rules about a key up to the first objection, and splits every keyring by the
judgements on its keys, of which none depends on the other keys. -/
theorem splits_validate (chain : Chain) (lookup : MailAddress) :
    (∀ key, Judgement lookup key chain.rules (chain.judge lookup key)) ∧
    ∀ keys,
      chain.Splits lookup keys (chain.validate lookup keys) ∧
      ∀ keys', chain.validate lookup (keys ++ keys') =
        chain.validate lookup keys ++ chain.validate lookup keys' := by
  refine ⟨Judgement.of_judge chain lookup, fun keys => ⟨?_, validate_append chain lookup keys⟩⟩
  constructor
  case accepted => exact accepted_validate chain lookup keys
  case others => simpa using map_fst_rejected_validate chain lookup keys
  case rejected => exact rejected_validate chain lookup keys
  case mergesTo => exact mergesTo_validate chain lookup keys
  case asked => rw [validate_eq]

end Chain

end KeyDirectory
