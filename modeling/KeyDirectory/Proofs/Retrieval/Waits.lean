import KeyDirectory.Proofs.Retrieval.Steps

/-!
# How a wait ends

`wait_eq_some` says once what the end of a wait can look like (`Woken`), and `wait_eq_ready_iff` and
`wait_eq_none_iff` say exactly when the other side goes on and when nothing ever happens again. A wait
that ends consists of steps of a retrieval (`steps_of_wait`).
-/

namespace KeyDirectory

variable {terms : Terms} {m later : Moment} {resume : Option Duration} {wake : Wake}

/-! ## The first of two instants -/

section Sooner

variable {a b : Option (Duration × Wake)} {x : Duration × Wake}

theorem sooner_eq_none_iff : sooner a b = none ↔ a = none ∧ b = none := by
  cases a with
  | none => simp [sooner]
  | some a =>
    cases b with
    | none => simp [sooner]
    | some b =>
      simp only [sooner]
      split <;> simp

/-- The first of two instants is one of them. -/
theorem mem_of_mem_sooner (h : x ∈ sooner a b) : x ∈ a ∨ x ∈ b := by
  cases a with
  | none => exact .inr h
  | some a =>
    cases b with
    | none => exact .inl h
    | some b =>
      simp only [sooner] at h
      split at h
      · exact .inr h
      · exact .inl h

/-- An instant comes before the first of two iff it comes before both. -/
theorem le_sooner_iff {t : Duration} :
    (∀ y ∈ sooner a b, t ≤ y.1) ↔ (∀ y ∈ a, t ≤ y.1) ∧ (∀ y ∈ b, t ≤ y.1) := by
  cases a with
  | none => simp [sooner]
  | some a =>
    cases b with
    | none => simp [sooner]
    | some b =>
      simp only [sooner, Option.mem_def, Option.some.injEq, forall_eq']
      split
      · case isTrue earlier =>
        simp only [Option.some.injEq, forall_eq']
        exact ⟨fun h => ⟨Nat.le_trans h (Nat.le_of_lt earlier), h⟩, And.right⟩
      · case isFalse notEarlier =>
        simp only [Option.some.injEq, forall_eq']
        exact ⟨fun h => ⟨h, Nat.le_trans h (Nat.le_of_not_lt notEarlier)⟩, And.left⟩

/-- Of equal instants, the one on the left comes first. -/
theorem sooner_eq_left (h : ∀ y ∈ b, x.1 ≤ y.1) : sooner (some x) b = some x := by
  cases b with
  | none => rfl
  | some b =>
    have notEarlier : ¬ b.1 < x.1 := Nat.not_lt_of_le (h b rfl)
    simp only [sooner, if_neg notEarlier]

end Sooner

/-! ## The end of a wait -/

/-- A bound is reached once its instant has come. -/
theorem bound_reached_iff {bound : Option Duration} {now : Duration} :
    bound.any (· ≤ now) = true ↔ ∃ d ∈ bound, d ≤ now := by
  cases bound <;> simp

theorem bound_not_reached_iff {bound : Option Duration} {now : Duration} :
    bound.any (· ≤ now) = false ↔ ∀ d ∈ bound, now < d := by
  cases bound <;> simp

/-- Time can pass: no bound is reached and the token is good. -/
structure Moment.Open (terms : Terms) (m : Moment) : Prop where
  good : m.cancelled = false
  deadline : ∀ d ∈ terms.deadline, m.now < d
  outside : ∀ n ∈ terms.outside, m.now < n

/-- What the end of a wait can look like. -/
inductive Woken (terms : Terms) (m : Moment) (resume : Option Duration) : Wake → Moment → Prop where
  /-- The deadline was reached before the wait. -/
  | tooLate {d : Duration} (deadline : d ∈ terms.deadline) (reached : d ≤ m.now) :
    Woken terms m resume .timeout m
  /-- The token was cancelled before the wait, or someone outside cancels it at once. -/
  | calledOff (cause : m.cancelled = true ∨ ∃ n ∈ terms.outside, n ≤ m.now) :
    Woken terms m resume .cancelled { m with cancelled := true }
  /-- Time passes up to the first instant that brings something. -/
  | inTime {wake : Wake} {instant : Duration} (isOpen : m.Open terms)
    (cause : (wake = .ready ∧ instant ∈ resume) ∨ (wake = .timeout ∧ instant ∈ terms.deadline) ∨
      (wake = .cancelled ∧ instant ∈ terms.outside))
    (deadline : ∀ d ∈ terms.deadline, instant ≤ d) (outside : ∀ n ∈ terms.outside, instant ≤ n) :
    Woken terms m resume wake { m with now := instant, cancelled := wake = .cancelled }

/-- What a wait from an open moment looks forward to. -/
def nextWake (terms : Terms) (resume : Option Duration) : Option (Duration × Wake) :=
  sooner (sooner (resume.map (·, .ready)) (terms.deadline.map (·, .timeout)))
    (terms.outside.map (·, .cancelled))

/-- An open moment waits for the first of the instants that can end the wait. -/
theorem wait_of_open (h : m.Open terms) :
    wait terms m resume = (nextWake terms resume).map fun (instant, wake) =>
      (wake, { m with now := instant, cancelled := wake = .cancelled }) := by
  have deadline := bound_not_reached_iff.mpr h.deadline
  have outside := bound_not_reached_iff.mpr h.outside
  simp only [wait, deadline, outside, h.good, Bool.or_self, Bool.false_eq_true, if_false, nextWake]

/-- An instant comes before the wait ends iff it comes before all that can end it. -/
theorem le_nextWake_iff {t : Duration} :
    (∀ y ∈ nextWake terms resume, t ≤ y.1) ↔
      (∀ r ∈ resume, t ≤ r) ∧ (∀ d ∈ terms.deadline, t ≤ d) ∧ (∀ n ∈ terms.outside, t ≤ n) := by
  rw [nextWake, le_sooner_iff, le_sooner_iff, and_assoc]
  simp [Option.mem_def]

/-- A wait is ended by the other side, by the deadline or from outside. -/
theorem mem_nextWake {instant : Duration} (h : (instant, wake) ∈ nextWake terms resume) :
    (wake = .ready ∧ instant ∈ resume) ∨ (wake = .timeout ∧ instant ∈ terms.deadline) ∨
      (wake = .cancelled ∧ instant ∈ terms.outside) := by
  rcases mem_of_mem_sooner h with h | h
  · rcases mem_of_mem_sooner h with h | h
    · obtain ⟨t, ht, same⟩ := Option.map_eq_some_iff.mp h
      obtain ⟨rfl, rfl⟩ := Prod.mk.inj same
      exact .inl ⟨rfl, ht⟩
    · obtain ⟨d, hd, same⟩ := Option.map_eq_some_iff.mp h
      obtain ⟨rfl, rfl⟩ := Prod.mk.inj same
      exact .inr (.inl ⟨rfl, hd⟩)
  · obtain ⟨n, hn, same⟩ := Option.map_eq_some_iff.mp h
    obtain ⟨rfl, rfl⟩ := Prod.mk.inj same
    exact .inr (.inr ⟨rfl, hn⟩)

/-- A wait that is not from an open moment ends at once. -/
theorem wait_of_not_open (resume : Option Duration) (h : ¬ m.Open terms) :
    ((∃ d ∈ terms.deadline, d ≤ m.now) ∧ wait terms m resume = some (.timeout, m)) ∨
      ((m.cancelled = true ∨ ∃ n ∈ terms.outside, n ≤ m.now) ∧
        wait terms m resume = some (.cancelled, { m with cancelled := true })) := by
  by_cases deadline : terms.deadline.any (· ≤ m.now) = true
  · left
    exact ⟨bound_reached_iff.mp deadline, by simp only [wait, deadline, if_true]⟩
  by_cases called : (m.cancelled || terms.outside.any (· ≤ m.now)) = true
  · right
    refine ⟨?_, by simp only [wait, deadline, called, if_true]; rfl⟩
    rwa [Bool.or_eq_true, bound_reached_iff] at called
  · exfalso
    rw [Bool.not_eq_true] at deadline called
    rw [Bool.or_eq_false_iff] at called
    exact h ⟨called.1, bound_not_reached_iff.mp deadline, bound_not_reached_iff.mp called.2⟩

/-- The end of a wait is one of those that `Woken` lists. -/
theorem wait_eq_some (h : wait terms m resume = some (wake, later)) :
    Woken terms m resume wake later := by
  by_cases isOpen : m.Open terms
  · rw [wait_of_open isOpen] at h
    obtain ⟨⟨instant, wake'⟩, first, same⟩ := Option.map_eq_some_iff.mp h
    obtain ⟨rfl, rfl⟩ := Prod.mk.inj same
    have least : ∀ y ∈ nextWake terms resume, instant ≤ y.1 := by
      intro y hy
      obtain rfl := Option.mem_unique hy first
      exact Nat.le_refl _
    obtain ⟨-, deadline, outside⟩ := le_nextWake_iff.mp least
    exact .inTime isOpen (mem_nextWake first) deadline outside
  · rcases wait_of_not_open resume isOpen with ⟨⟨d, hd, reached⟩, ends⟩ | ⟨cause, ends⟩
    · obtain ⟨rfl, rfl⟩ := Prod.mk.inj (Option.some.inj (ends.symm.trans h))
      exact .tooLate hd reached
    · obtain ⟨rfl, rfl⟩ := Prod.mk.inj (Option.some.inj (ends.symm.trans h))
      exact .calledOff cause

/-- The other side goes on iff time can pass up to the instant at which it does, which neither bound
comes before. -/
theorem wait_eq_ready_iff :
    wait terms m resume = some (.ready, later) ↔
      m.Open terms ∧ ∃ t ∈ resume, (∀ d ∈ terms.deadline, t ≤ d) ∧ (∀ n ∈ terms.outside, t ≤ n) ∧
        later = { m with now := t } := by
  constructor
  · intro h
    cases wait_eq_some h with
    | @inTime _ instant isOpen cause deadline outside =>
      rcases cause with ⟨-, ht⟩ | ⟨wrong, -⟩ | ⟨wrong, -⟩
      · exact ⟨isOpen, instant, ht, deadline, outside, by simp [isOpen.good]⟩
      · cases wrong
      · cases wrong
  · rintro ⟨isOpen, t, ht, deadline, outside, rfl⟩
    have first : nextWake terms resume = some (t, .ready) := by
      rw [Option.mem_def] at ht
      simp only [nextWake, ht, Option.map_some]
      rw [sooner_eq_left, sooner_eq_left]
      · simpa using outside
      · simpa using deadline
    simp [wait_of_open isOpen, first, isOpen.good]

/-- Nothing ever happens again iff there is nothing to wait for. -/
theorem wait_eq_none_iff :
    wait terms m resume = none ↔
      m.cancelled = false ∧ terms.deadline = none ∧ terms.outside = none ∧ resume = none := by
  by_cases isOpen : m.Open terms
  · rw [wait_of_open isOpen, Option.map_eq_none_iff, nextWake, sooner_eq_none_iff,
      sooner_eq_none_iff]
    simp only [Option.map_eq_none_iff, isOpen.good, true_and]
    constructor
    · rintro ⟨⟨resumed, deadline⟩, outside⟩
      exact ⟨deadline, outside, resumed⟩
    · rintro ⟨deadline, outside, resumed⟩
      exact ⟨⟨resumed, deadline⟩, outside⟩
  · constructor
    · intro h
      rcases wait_of_not_open resume isOpen with ⟨-, ends⟩ | ⟨-, ends⟩
      · rw [h] at ends
        cases ends
      · rw [h] at ends
        cases ends
    · rintro ⟨good, deadline, outside, -⟩
      exact absurd ⟨good, by simp [deadline], by simp [outside]⟩ isOpen

/-! ## What a wait leaves behind -/

/-- A wait that ends by the deadline ends at a moment at which the deadline is reached. -/
theorem reached_of_wait_timeout (h : wait terms m resume = some (.timeout, later)) :
    ∃ d ∈ terms.deadline, d ≤ later.now := by
  cases wait_eq_some h with
  | tooLate hd reached => exact ⟨_, hd, reached⟩
  | inTime _ cause _ _ =>
    rcases cause with ⟨wrong, -⟩ | ⟨-, hd⟩ | ⟨wrong, -⟩
    · cases wrong
    · exact ⟨_, hd, Nat.le_refl _⟩
    · cases wrong

/-- A wait that a cancellation ends leaves the token cancelled. -/
theorem cancelled_of_wait_cancelled (h : wait terms m resume = some (.cancelled, later)) :
    later.cancelled = true := by
  cases wait_eq_some h with
  | calledOff => rfl
  | inTime => rfl

/-- Without a change of the token, there is no cancellation to tell of. -/
theorem cancelledBetween_eq_nil {before after : Moment}
    (h : after.cancelled = before.cancelled) : cancelledBetween before after = [] := by
  simp [cancelledBetween, h]

/-- A token that went bad was cancelled at the later moment. -/
theorem cancelledBetween_eq_singleton {before after : Moment} (good : before.cancelled = false)
    (h : after.cancelled = true) : cancelledBetween before after = [(after.now, .cancelled)] := by
  simp [cancelledBetween, good, h]

/-- A wait that ends is made of steps: time passes, and the token may be cancelled then. -/
theorem steps_of_wait (resumed : ∀ t ∈ resume, m.now ≤ t)
    (h : wait terms m resume = some (wake, later)) :
    Steps terms m (cancelledBetween m later) later := by
  cases wait_eq_some h with
  | tooLate =>
    rw [cancelledBetween_eq_nil rfl]
    exact .refl m
  | calledOff cause =>
    cases good : m.cancelled with
    | true =>
      have same : { m with cancelled := true } = m := by rw [← good]
      rw [same, cancelledBetween_eq_nil rfl]
      exact .refl m
    | false =>
      rw [cancelledBetween_eq_singleton good rfl]
      refine .single (.cancel good (.inr ?_))
      rcases cause with wrong | ⟨n, hn, -⟩
      · rw [good] at wrong
        cases wrong
      · simp [Option.mem_def.mp hn]
  | @inTime _ instant isOpen cause deadline outside =>
    have forward : m.now ≤ instant := by
      rcases cause with ⟨-, ht⟩ | ⟨-, hd⟩ | ⟨-, hn⟩
      · exact resumed instant ht
      · exact Nat.le_of_lt (isOpen.deadline instant hd)
      · exact Nat.le_of_lt (isOpen.outside instant hn)
    have elapse : Step terms m none { m with now := instant } :=
      .elapse isOpen.good forward deadline outside
    by_cases byOutside : wake = .cancelled
    · -- someone outside cancels the token when time has passed
      have token : instant ∈ terms.outside := by
        rcases cause with ⟨wrong, -⟩ | ⟨wrong, -⟩ | ⟨-, hn⟩
        · simp [byOutside] at wrong
        · simp [byOutside] at wrong
        · exact hn
      have cancel : Step terms { m with now := instant } (some (instant, .cancelled))
          { m with now := instant, cancelled := true } :=
        .cancel isOpen.good (.inr (by simp [Option.mem_def.mp token]))
      simpa [cancelledBetween, isOpen.good, byOutside] using
        Steps.head elapse (Steps.single cancel)
    · simpa [cancelledBetween, isOpen.good, byOutside] using Steps.single elapse

/-- While the other side is waited for, nothing is left in the trace. -/
theorem steps_of_wait_ready (resumed : ∀ t ∈ resume, m.now ≤ t)
    (h : wait terms m resume = some (.ready, later)) : Steps terms m [] later := by
  have steps := steps_of_wait resumed h
  have same : later.cancelled = m.cancelled := by
    obtain ⟨-, t, -, -, -, rfl⟩ := wait_eq_ready_iff.mp h
    rfl
  rwa [cancelledBetween_eq_nil same] at steps

end KeyDirectory
