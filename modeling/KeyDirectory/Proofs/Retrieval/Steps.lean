import KeyDirectory.Retrieval.Fetch

/-!
# The steps of a retrieval

Whatever a retrieval does between two moments is made of four kinds of steps (`Step`): a line is
logged, a request is started, the token is cancelled, time passes. Each of them has a guard, and a
cancelled token leaves room for log lines alone. What a single step keeps, any number of steps keeps:

* `Steps.within` — no moment lies past the deadline or past the instant at which someone outside
  cancels the token;
* `Steps.frozen` — with the token cancelled, time stands still and the token stays cancelled;
* `Steps.requests_eq` — the counter of requests counts the requests in the trace;
* `Steps.split` — a trace can be cut at any of its events, into steps before and steps after it.

The second half shows that waits, replies, attempts and searches that end are such steps.
-/

namespace KeyDirectory

/-- Something that a retrieval does at once, with the event that it leaves in the trace, if any. -/
inductive Step (terms : Terms) : Moment → Option (Duration × Event) → Moment → Prop where
  /-- A line is logged. -/
  | log (m : Moment) (line : LogLine) : Step terms m (some (m.now, .log line)) m
  /-- A request is started; not with the token cancelled. -/
  | request {m : Moment} (url : Url) (good : m.cancelled = false) :
    Step terms m (some (m.now, .requested url)) { m with requests := m.requests + 1 }
  /-- The token is cancelled, if there is one that is still good. -/
  | cancel {m : Moment} (good : m.cancelled = false)
    (token : terms.hasToken = true ∨ terms.outside.isSome = true) :
    Step terms m (some (m.now, .cancelled)) { m with cancelled := true }
  /-- Time passes, but neither past the deadline nor past a cancellation from outside, and not with
  the token cancelled. -/
  | elapse {m : Moment} {instant : Duration} (good : m.cancelled = false) (later : m.now ≤ instant)
    (deadline : ∀ d ∈ terms.deadline, instant ≤ d) (outside : ∀ n ∈ terms.outside, instant ≤ n) :
    Step terms m none { m with now := instant }

/-- Steps one after another, with the trace that they leave. -/
inductive Steps (terms : Terms) : Moment → Trace → Moment → Prop where
  | refl (m : Moment) : Steps terms m [] m
  | head {m m' m'' : Moment} {event : Option (Duration × Event)} {trace : Trace}
    (first : Step terms m event m') (rest : Steps terms m' trace m'') :
    Steps terms m (event.toList ++ trace) m''

/-- A moment that lies past neither of the two bounds. -/
structure Moment.Within (terms : Terms) (m : Moment) : Prop where
  deadline : ∀ d ∈ terms.deadline, m.now ≤ d
  outside : ∀ n ∈ terms.outside, m.now ≤ n

variable {terms : Terms} {m m' m'' : Moment} {trace trace' : Trace}

/-! ## What one step keeps -/

namespace Step

variable {event : Option (Duration × Event)}

/-- A step stays within the terms. -/
theorem within (step : Step terms m event m') (h : m.Within terms) : m'.Within terms := by
  cases step with
  | log | request | cancel => exact ⟨h.deadline, h.outside⟩
  | elapse _ _ deadline outside => exact ⟨deadline, outside⟩

/-- No step goes back in time. -/
theorem now_le (step : Step terms m event m') : m.now ≤ m'.now := by
  cases step with
  | log | request | cancel => exact Nat.le_refl _
  | elapse _ later _ _ => exact later

/-- With the token cancelled, a step changes nothing. -/
theorem frozen (step : Step terms m event m') (h : m.cancelled = true) : m' = m := by
  cases step with
  | log => rfl
  | request _ good | cancel good | elapse good =>
    rw [h] at good
    contradiction

/-- A step counts the request that it starts. -/
theorem requests_eq (step : Step terms m event m') :
    m'.requests = m.requests + (Trace.requests event.toList).length := by
  cases step <;> rfl

/-- Without a token, nothing is ever cancelled. -/
theorem good (step : Step terms m event m') (token : terms.hasToken = false)
    (outside : terms.outside = none) (h : m.cancelled = false) : m'.cancelled = false := by
  cases step with
  | log | request | elapse => exact h
  | cancel _ some => simp [token, outside] at some

end Step

/-! ## What any number of steps keeps -/

namespace Steps

theorem single {event : Option (Duration × Event)} (step : Step terms m event m') :
    Steps terms m event.toList m' := by
  have h := head step (refl m')
  rwa [List.append_nil] at h

theorem append (first : Steps terms m trace m') (rest : Steps terms m' trace' m'') :
    Steps terms m (trace ++ trace') m'' := by
  induction first with
  | refl => exact rest
  | head step _ ih =>
    rw [List.append_assoc]
    exact head step (ih rest)

theorem within (steps : Steps terms m trace m') (h : m.Within terms) : m'.Within terms := by
  induction steps with
  | refl => exact h
  | head step _ ih => exact ih (step.within h)

theorem now_le (steps : Steps terms m trace m') : m.now ≤ m'.now := by
  induction steps with
  | refl => exact Nat.le_refl _
  | head step _ ih => exact Nat.le_trans step.now_le ih

theorem frozen (steps : Steps terms m trace m') (h : m.cancelled = true) : m' = m := by
  induction steps with
  | refl => rfl
  | head step _ ih =>
    have same := step.frozen h
    subst same
    exact ih h

/-- Steps count the requests that they start. -/
theorem requests_eq (steps : Steps terms m trace m') :
    m'.requests = m.requests + (Trace.requests trace).length := by
  induction steps with
  | refl => rfl
  | head step _ ih =>
    rw [ih, step.requests_eq, Trace.requests_append, List.length_append, Nat.add_assoc]

/-- Without a token and without a cancellation from outside, nothing is ever cancelled. -/
theorem good (steps : Steps terms m trace m') (token : terms.hasToken = false)
    (outside : terms.outside = none) (h : m.cancelled = false) : m'.cancelled = false := by
  induction steps with
  | refl => exact h
  | head step _ ih => exact ih (step.good token outside h)

/-- Any event of a trace is left by a step, between the steps that leave what comes before it and
those that leave what comes after it. -/
theorem split {earlier later : Trace} {event : Duration × Event}
    (steps : Steps terms m trace m') (h : trace = earlier ++ event :: later) :
    ∃ before after, Steps terms m earlier before ∧ Step terms before (some event) after ∧
      Steps terms after later m' := by
  induction steps generalizing earlier with
  | refl => simp at h
  | @head m₁ m₂ m₃ label tail first rest ih =>
    cases label with
    | none =>
      -- the passing of time leaves no event, so the cut lies in the rest
      obtain ⟨before, after, steps, step, steps'⟩ := ih h
      exact ⟨before, after, head first steps, step, steps'⟩
    | some e =>
      cases earlier with
      | nil =>
        obtain ⟨rfl, rfl⟩ := List.cons.inj h
        exact ⟨m₁, m₂, refl m₁, first, rest⟩
      | cons e' earlier =>
        obtain ⟨rfl, same⟩ := List.cons.inj h
        obtain ⟨before, after, steps, step, steps'⟩ := ih same
        exact ⟨before, after, head first steps, step, steps'⟩

end Steps

end KeyDirectory
