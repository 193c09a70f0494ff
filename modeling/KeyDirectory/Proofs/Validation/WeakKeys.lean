import KeyDirectory.Proofs.Validation.Assembly

/-!
# Demands on the size of keys

A chain may hold several rules on the size of keys for one algorithm, one for each demand that lists
it. What one demand says of a key (`SizeDemand.objection?`) makes what all say: the first objection
counts (`rejection_demanding`). So the largest of the demanded sizes decides which keys are kept
(`keeps_iff_max`), and the order of the demands decides only which size a rejection names
(`demands_decide`).
-/

namespace KeyDirectory

/-- A demand for a size in bits that the keys of some algorithms have to reach. -/
structure SizeDemand where
  bits : Nat
  algorithms : List Algorithm

namespace SizeDemand

def step (demand : SizeDemand) : AssemblyStep :=
  .rejectWeak demand.bits demand.algorithms

/-- The sizes that are demanded of the keys of an algorithm. -/
def sizes (algorithm : Algorithm) (demands : List SizeDemand) : List Nat :=
  (demands.filter fun demand => algorithm ∈ demand.algorithms).map (·.bits)

/-- The same demands up to order and repetition. -/
inductive Rearranged : List SizeDemand → List SizeDemand → Prop where
  /-- The demands are made in another order. -/
  | permuted {demands demands' : List SizeDemand} (permutation : demands.Perm demands') :
    Rearranged demands demands'
  /-- A demand is made once more. -/
  | repeated {demand : SizeDemand} {demands : List SizeDemand} (mem : demand ∈ demands) :
    Rearranged demands (demand :: demands)
  /-- A demand lists its algorithms in another order. -/
  | relisted (before after : List SizeDemand) (bits : Nat) {algorithms algorithms' : List Algorithm}
    (permutation : algorithms.Perm algorithms') :
    Rearranged (before ++ ⟨bits, algorithms⟩ :: after) (before ++ ⟨bits, algorithms'⟩ :: after)
  | trans {demands demands' demands'' : List SizeDemand} (first : Rearranged demands demands')
    (second : Rearranged demands' demands'') : Rearranged demands demands''

end SizeDemand

/-- The chain that an empty assembly gives with certain demands. -/
def Chain.demanding (demands : List SizeDemand) : Chain :=
  (Assembly.empty.steps (demands.map SizeDemand.step)).build

/-! ## Objections -/

/-- A rule on sizes objects to shorter keys of its algorithm. -/
theorem Rule.reject?_minimumBits (algorithm : Algorithm) (bits : Nat) (lookup : MailAddress)
    (key : Key) :
    (minimumBits algorithm bits).reject? lookup key =
      if key.algorithm = algorithm ∧ key.bits < bits then some (.weak key.algorithm bits)
      else none := by
  by_cases same : key.algorithm = algorithm
  · by_cases small : key.bits < bits
    · simp [reject?, same, small, Nat.not_le_of_gt small]
    · simp [reject?, same, small, Nat.le_of_not_lt small]
  · simp [reject?, same]

namespace SizeDemand

def objection? (demand : SizeDemand) (key : Key) : Option Rejection :=
  if key.algorithm ∈ demand.algorithms ∧ key.bits < demand.bits then
    some (.weak key.algorithm demand.bits)
  else none

/-- A demand has no objection to a key of another algorithm, or of sufficient size. -/
theorem objection?_eq_none_iff {demand : SizeDemand} {key : Key} :
    demand.objection? key = none ↔ (key.algorithm ∈ demand.algorithms → demand.bits ≤ key.bits) := by
  rw [objection?]
  by_cases listed : key.algorithm ∈ demand.algorithms
  · simp [listed]
  · simp [listed]

/-- A demand objects with its own minimum. -/
theorem objection?_eq_some_iff {demand : SizeDemand} {key : Key} {reason : Rejection} :
    demand.objection? key = some reason ↔
      (key.algorithm ∈ demand.algorithms ∧ key.bits < demand.bits) ∧
        reason = .weak key.algorithm demand.bits := by
  rw [objection?]
  by_cases objects : key.algorithm ∈ demand.algorithms ∧ key.bits < demand.bits
  · simp [objects, eq_comm]
  · simp [objects]

/-- The rules of one demand say together what it says. -/
theorem findSome?_rules_step (demand : SizeDemand) (lookup : MailAddress) (key : Key) :
    demand.step.rules.findSome? (·.reject? lookup key) = demand.objection? key := by
  obtain ⟨bits, algorithms⟩ := demand
  rw [step, AssemblyStep.rules, objection?]
  induction algorithms with
  | nil => simp
  | cons algorithm algorithms ih =>
    rw [List.map_cons, List.findSome?_cons, Rule.reject?_minimumBits, ih]
    by_cases first : key.algorithm = algorithm
    · by_cases small : key.bits < bits
      · simp [first, small]
      · simp [first, small]
    · simp [first]

end SizeDemand

namespace Chain

open SizeDemand

theorem rules_demanding (demands : List SizeDemand) :
    (demanding demands).rules = (demands.map SizeDemand.step).flatMap AssemblyStep.rules := by
  have keeps : AssemblyStep.clear ∉ demands.map SizeDemand.step := by
    intro mem
    obtain ⟨demand, -, isClear⟩ := List.mem_map.mp mem
    cases isClear
  exact Assembly.rules_steps Assembly.empty keeps

/-- The first demand that objects to a key decides. -/
theorem rejection_demanding (demands : List SizeDemand) (lookup : MailAddress) (key : Key) :
    ((demanding demands).judge lookup key).rejection =
      demands.findSome? (·.objection? key) := by
  rw [rejection_judge, rules_demanding]
  induction demands with
  | nil => rfl
  | cons demand demands ih =>
    rw [List.map_cons, List.flatMap_cons, List.findSome?_append, ih, findSome?_rules_step,
      List.findSome?_cons]
    cases demand.objection? key with
    | none => rw [Option.none_or]
    | some reason => rw [Option.some_or]

/-- A key is accepted iff it meets every demand on its algorithm. -/
theorem accepts_demanding_iff {demands : List SizeDemand} {lookup : MailAddress} {key : Key} :
    (demanding demands).Accepts lookup key ↔
      ∀ demand ∈ demands, key.algorithm ∈ demand.algorithms → demand.bits ≤ key.bits := by
  rw [← rejection_judge_eq_none_iff, rejection_demanding, List.findSome?_eq_none_iff]
  simp only [objection?_eq_none_iff]

/-- A size reaches the largest of those demanded exactly if it reaches each of them. -/
theorem forall_mem_sizes_iff {demands : List SizeDemand} {algorithm : Algorithm} {bits : Nat} :
    (∀ largest ∈ (sizes algorithm demands).max?, largest ≤ bits) ↔
      ∀ demand ∈ demands, algorithm ∈ demand.algorithms → demand.bits ≤ bits := by
  have each : (∀ size ∈ sizes algorithm demands, size ≤ bits) ↔
      ∀ demand ∈ demands, algorithm ∈ demand.algorithms → demand.bits ≤ bits := by
    rw [sizes, List.forall_mem_map, List.forall_mem_filter]
    simp only [decide_eq_true_eq]
  rw [← each]
  cases largest : (sizes algorithm demands).max? with
  | none =>
    rw [List.max?_eq_none_iff] at largest
    simp [largest]
  | some size =>
    rw [← List.max?_le_iff largest]
    simp

/-- A key is kept iff it meets the largest of the demands on its algorithm. -/
theorem keeps_iff_max {demands : List SizeDemand} {lookup : MailAddress} {key : Key} :
    ((demanding demands).judge lookup key).rejection = none ↔
      ∀ largest ∈ (sizes key.algorithm demands).max?, largest ≤ key.bits := by
  rw [rejection_judge_eq_none_iff, accepts_demanding_iff, forall_mem_sizes_iff]

/-- The reason is that of the first demand that the key falls short of. -/
theorem rejects_iff_first {demands : List SizeDemand} {lookup : MailAddress} {key : Key}
    {reason : Rejection} :
    ((demanding demands).judge lookup key).rejection = some reason ↔
      ∃ before demand after, demands = before ++ demand :: after ∧
        key.algorithm ∈ demand.algorithms ∧ key.bits < demand.bits ∧
        reason = .weak key.algorithm demand.bits ∧
        ∀ earlier ∈ before, key.algorithm ∈ earlier.algorithms → earlier.bits ≤ key.bits := by
  rw [rejection_demanding, List.findSome?_eq_some_iff]
  simp only [objection?_eq_some_iff, objection?_eq_none_iff, and_assoc]

/-! ## Rearranged demands -/

/-- The order and the repetition of demands make no difference to a key. -/
theorem accepts_rearranged {demands demands' : List SizeDemand} (same : Rearranged demands demands')
    (lookup : MailAddress) (key : Key) :
    (demanding demands).Accepts lookup key ↔ (demanding demands').Accepts lookup key := by
  induction same with
  | permuted permutation =>
    rw [accepts_demanding_iff, accepts_demanding_iff]
    simp only [permutation.mem_iff]
  | repeated mem =>
    rw [accepts_demanding_iff, accepts_demanding_iff, List.forall_mem_cons]
    exact ⟨fun all => ⟨all _ mem, all⟩, fun all => all.2⟩
  | relisted before after bits permutation =>
    rw [accepts_demanding_iff, accepts_demanding_iff, List.forall_mem_append,
      List.forall_mem_append, List.forall_mem_cons, List.forall_mem_cons, permutation.mem_iff]
  | trans first second ih ih' => exact ih.trans ih'

/-- The order and the repetition of demands make no difference to a keyring. -/
theorem accepted_rearranged {demands demands' : List SizeDemand}
    (same : Rearranged demands demands') (lookup : MailAddress) (keys : List Key) :
    ((demanding demands).validate lookup keys).accepted =
      ((demanding demands').validate lookup keys).accepted := by
  rw [accepted_validate, accepted_validate]
  simp only [accepts_rearranged same]

/-- What demands on size make of a key. It is kept if it has the largest of the sizes that are
demanded of its algorithm, or if there is none. Otherwise the reason names its algorithm and the size
of the first demand that it falls short of. Which keys of a keyring are kept depends neither on the
order of the demands, nor on their repetition, nor on the order in which they list algorithms. -/
theorem demands_decide (demands : List SizeDemand) (lookup : MailAddress) :
    (∀ key,
      (((demanding demands).judge lookup key).rejection = none ↔
        ∀ largest ∈ (sizes key.algorithm demands).max?, largest ≤ key.bits) ∧
      ∀ reason, ((demanding demands).judge lookup key).rejection = some reason ↔
        ∃ before demand after, demands = before ++ demand :: after ∧
          key.algorithm ∈ demand.algorithms ∧ key.bits < demand.bits ∧
          reason = .weak key.algorithm demand.bits ∧
          ∀ earlier ∈ before, key.algorithm ∈ earlier.algorithms → earlier.bits ≤ key.bits) ∧
    ∀ demands', Rearranged demands demands' → ∀ keys,
      ((demanding demands).validate lookup keys).accepted =
        ((demanding demands').validate lookup keys).accepted := by
  refine ⟨fun key => ⟨keeps_iff_max, fun reason => rejects_iff_first⟩, ?_⟩
  intro demands' same keys
  exact accepted_rearranged same lookup keys

/-- Of two demands on one algorithm a key meets the first and falls short of the second. Made the other
way round they keep the same keys. -/
theorem demands_decide_overlapping :
    ((demanding [⟨2048, [.dsa, .rsaSignOnly]⟩, ⟨3072, [.dsa]⟩]).judge ⟨none, "a", "b"⟩
      { algorithm := .dsa, bits := 2500 }).rejection = some (.weak .dsa 3072) ∧
    Rearranged [⟨2048, [.dsa, .rsaSignOnly]⟩, ⟨3072, [.dsa]⟩]
      [⟨3072, [.dsa]⟩, ⟨2048, [.rsaSignOnly, .dsa]⟩] ∧
    ((demanding [⟨2048, [.dsa, .rsaSignOnly]⟩, ⟨3072, [.dsa]⟩]).validate ⟨none, "a", "b"⟩
        [{ algorithm := .dsa, bits := 1024 },
          { algorithm := .rsaSignOnly, bits := 2048 }]).accepted =
      ((demanding [⟨3072, [.dsa]⟩, ⟨2048, [.rsaSignOnly, .dsa]⟩]).validate ⟨none, "a", "b"⟩
        [{ algorithm := .dsa, bits := 1024 },
          { algorithm := .rsaSignOnly, bits := 2048 }]).accepted := by
  have rearranged : Rearranged [⟨2048, [.dsa, .rsaSignOnly]⟩, ⟨3072, [.dsa]⟩]
      [⟨3072, [.dsa]⟩, ⟨2048, [.rsaSignOnly, .dsa]⟩] :=
    .trans (.permuted (.swap _ _ _)) (.relisted [⟨3072, [.dsa]⟩] [] 2048 (.swap _ _ _))
  refine ⟨?_, rearranged, (demands_decide _ _).2 _ rearranged _⟩
  apply ((demands_decide _ _).1 _).2 _ |>.mpr
  exact ⟨[⟨2048, [.dsa, .rsaSignOnly]⟩], ⟨3072, [.dsa]⟩, [], rfl, by decide, by decide, rfl,
    by decide⟩

end Chain

end KeyDirectory
