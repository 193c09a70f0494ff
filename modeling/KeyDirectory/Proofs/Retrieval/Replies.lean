import KeyDirectory.Proofs.Retrieval.Waits

/-!
# What becomes of a request

`Followed` lists the ways in which a reply can go on, one rule each, and `followed` says that
`followSteps` takes one of these ways. From the rules: a reply that ends is made of steps of a
retrieval, it leaves nothing but cancellations in the trace, its body is the one that the transport
answers with, and it goes on for ever only with nothing that could end it. The same is then said of an
attempt, which puts the start of a request in front of the reply.
-/

namespace KeyDirectory

variable {terms : Terms} {m later : Moment} {ending : Ending} {steps : List ReplyStep}
  {e : Episode Response} {response : Response} {failure : Failure} {body : List UInt8}

/-- How a wait fails that the other side does not end. -/
def Wake.failure? : Wake → Option Failure
  | .ready => none
  | .timeout => some .timeout
  | .cancelled => some .cancelled

/-- How a reply goes on. -/
inductive Followed (terms : Terms) (ending : Ending) :
    Moment → List ReplyStep → Episode Response → Prop where
  | answered {m : Moment} {body : List UInt8} (h : ending = .answer body) :
    Followed terms ending m [] (.ofValue m (.ok body))
  | failed {m : Moment} {failure : Failure} (h : ending = .fail failure) :
    Followed terms ending m [] (.ofValue m (.error failure))
  | endless {m : Moment} (h : ending = .hang) (waits : wait terms m none = none) :
    Followed terms ending m [] ⟨[], none⟩
  | hung {m later : Moment} {wake : Wake} {failure : Failure} (h : ending = .hang)
    (waits : wait terms m none = some (wake, later)) (cause : wake.failure? = some failure) :
    Followed terms ending m [] (interrupted m later failure)
  | cancel {m : Moment} {rest : List ReplyStep} {e : Episode Response}
    (others : Followed terms ending { m with cancelled := m.cancelled || terms.hasToken } rest e) :
    Followed terms ending m (.cancel :: rest)
      (e.after (cancelledBetween m { m with cancelled := m.cancelled || terms.hasToken }))
  | skip {m : Moment} {rest : List ReplyStep} {e : Episode Response}
    (others : Followed terms ending m rest e) : Followed terms ending m (.sleep 0 :: rest) e
  | slept {m later : Moment} {span : Duration} {rest : List ReplyStep} {e : Episode Response}
    (long : span ≠ 0) (waits : wait terms m (some (m.now + span)) = some (.ready, later))
    (others : Followed terms ending later rest e) : Followed terms ending m (.sleep span :: rest) e
  | roused {m later : Moment} {span : Duration} {rest : List ReplyStep} {wake : Wake}
    {failure : Failure} (long : span ≠ 0)
    (waits : wait terms m (some (m.now + span)) = some (wake, later))
    (cause : wake.failure? = some failure) :
    Followed terms ending m (.sleep span :: rest) (interrupted m later failure)

/-- The rules say what `followSteps` does. -/
theorem followed (terms : Terms) (ending : Ending) (m : Moment) (steps : List ReplyStep) :
    Followed terms ending m steps (followSteps terms ending m steps) := by
  fun_induction followSteps terms ending m steps with
  | case1 m body h => exact .answered h
  | case2 m failure h => exact .failed h
  | case3 m h waits => exact .endless h waits
  | case4 m h later waits =>
    -- without an instant at which it goes on, the other side never ends a wait
    obtain ⟨-, t, ht, -⟩ := wait_eq_ready_iff.mp waits
    cases ht
  | case5 m h later waits => exact .hung h waits rfl
  | case6 m h later waits => exact .hung h waits rfl
  | case7 m rest later ih => exact .cancel ih
  | case8 m rest ih => exact .skip ih
  | case9 m span rest long waits =>
    obtain ⟨-, -, -, never⟩ := wait_eq_none_iff.mp waits
    cases never
  | case10 m span rest long later waits ih => exact .slept long waits ih
  | case11 m span rest long later waits => exact .roused long waits rfl
  | case12 m span rest long later waits => exact .roused long waits rfl

/-! ## Failures that stop a search -/

/-- What stops a search is an interruption, at the deadline or with the token cancelled. -/
theorem stopsSearch_iff :
    stopsSearch terms m failure = true ↔
      (failure = .timeout ∨ failure = .cancelled) ∧
        (m.cancelled = true ∨ ∃ d ∈ terms.deadline, d ≤ m.now) := by
  rw [stopsSearch, Bool.and_eq_true, Bool.or_eq_true, Bool.or_eq_true, decide_eq_true_eq,
    decide_eq_true_eq, Terms.deadlineReached, bound_reached_iff]

/-- A wait that the other side does not end stops the search. -/
theorem stopsSearch_of_wait {resume : Option Duration} {wake : Wake}
    (waits : wait terms m resume = some (wake, later)) (cause : wake.failure? = some failure) :
    stopsSearch terms later failure = true := by
  rw [stopsSearch_iff]
  cases wake with
  | ready => cases cause
  | timeout =>
    obtain rfl := Option.some.inj cause
    exact ⟨.inl rfl, .inr (reached_of_wait_timeout waits)⟩
  | cancelled =>
    obtain rfl := Option.some.inj cause
    exact ⟨.inr rfl, .inl (cancelled_of_wait_cancelled waits)⟩

/-- A response after which a search is not stopped: a body, or a failure that leads on. -/
def Uninterrupted (terms : Terms) (later : Moment) (response : Response) : Prop :=
  ∀ failure, response = .error failure → stopsSearch terms later failure = false

theorem uninterrupted_of_error (goesOn : stopsSearch terms later failure = false) :
    Uninterrupted terms later (.error failure) := by
  rintro _ ⟨⟩
  exact goesOn

/-! ## Replies -/

/-- Between two moments nothing but a cancellation is told of. -/
theorem mem_cancelledBetween {before after : Moment} {event : Duration × Event}
    (h : event ∈ cancelledBetween before after) : event.2 = .cancelled := by
  rw [cancelledBetween] at h
  split at h
  · rw [List.mem_singleton.mp h]
  · cases h

/-- A reply that cancels the token takes a step, unless there is none that is still good. -/
theorem steps_of_cancel (terms : Terms) (m : Moment) :
    let later := { m with cancelled := m.cancelled || terms.hasToken }
    Steps terms m (cancelledBetween m later) later := by
  intro later
  by_cases same : later.cancelled = m.cancelled
  · have unchanged : later = m := by
      show { m with cancelled := later.cancelled } = m
      rw [same]
    rw [cancelledBetween_eq_nil same, unchanged]
    exact .refl m
  · have good : m.cancelled = false := by
      cases h : m.cancelled with
      | true => simp [later, h] at same
      | false => rfl
    have token : terms.hasToken = true := by simpa [later, good] using same
    have cancelled : later = { m with cancelled := true } := by simp [later, token]
    rw [cancelledBetween_eq_singleton good (by rw [cancelled]), cancelled]
    exact .single (.cancel good (.inl token))

namespace Followed

/-- A reply that ends is made of steps. -/
theorem steps_of_ending (h : Followed terms ending m steps e)
    (ends : e.ending = some (later, response)) : Steps terms m e.trace later := by
  induction h with
  | answered | failed =>
    obtain ⟨rfl, -⟩ := Prod.mk.inj (Option.some.inj ends)
    exact .refl _
  | endless => cases ends
  | hung _ waits _ =>
    obtain ⟨rfl, -⟩ := Prod.mk.inj (Option.some.inj ends)
    exact steps_of_wait (by simp) waits
  | @cancel m _ _ _ ih => exact (steps_of_cancel terms m).append (ih ends)
  | skip _ ih => exact ih ends
  | slept _ waits _ ih => exact (steps_of_wait_ready (by simp) waits).append (ih ends)
  | roused _ waits _ =>
    obtain ⟨rfl, -⟩ := Prod.mk.inj (Option.some.inj ends)
    exact steps_of_wait (by simp) waits

/-- A reply leaves nothing but cancellations in the trace. -/
theorem trace_cancelled (h : Followed terms ending m steps e) :
    ∀ event ∈ e.trace, event.2 = .cancelled := by
  induction h with
  | answered | failed | endless => simp [Episode.ofValue]
  | hung | roused =>
    intro event h
    exact mem_cancelledBetween h
  | cancel _ ih =>
    intro event h
    rcases List.mem_append.mp h with h | h
    · exact mem_cancelledBetween h
    · exact ih event h
  | skip _ ih | slept _ _ _ ih => exact ih

/-- A body is the one that the transport answers with. -/
theorem eq_answer (h : Followed terms ending m steps e)
    (ends : e.ending = some (later, .ok body)) : ending = .answer body := by
  induction h with
  | answered h =>
    obtain ⟨-, same⟩ := Prod.mk.inj (Option.some.inj ends)
    rw [h, Except.ok.inj same]
  | failed | hung | roused =>
    obtain ⟨-, wrong⟩ := Prod.mk.inj (Option.some.inj ends)
    cases wrong
  | endless => cases ends
  | cancel _ ih | skip _ ih | slept _ _ _ ih => exact ih ends

/-- A reply that never ends has nothing that could end it, and leaves no event. -/
theorem unbounded_of_endless (h : Followed terms ending m steps e) (ends : e.ending = none) :
    m.cancelled = false ∧ terms.deadline = none ∧ terms.outside = none ∧ e.trace = [] := by
  induction h with
  | answered | failed | hung | roused => cases ends
  | endless _ waits =>
    obtain ⟨good, deadline, outside, -⟩ := wait_eq_none_iff.mp waits
    exact ⟨good, deadline, outside, rfl⟩
  | cancel _ ih =>
    obtain ⟨good, deadline, outside, nothing⟩ := ih ends
    obtain ⟨good', -⟩ := Bool.or_eq_false_iff.mp good
    refine ⟨good', deadline, outside, ?_⟩
    rw [Episode.after, nothing, cancelledBetween_eq_nil (good.trans good'.symm)]
    rfl
  | skip _ ih => exact ih ends
  | slept _ waits _ ih =>
    obtain ⟨isOpen, -⟩ := wait_eq_ready_iff.mp waits
    obtain ⟨-, others⟩ := ih ends
    exact ⟨isOpen.good, others⟩

end Followed

/-! ## Attempts -/

variable {transport : Transport} {c : Candidate}

/-- With the token cancelled, an attempt is called off before it starts. -/
@[simp] theorem attempt_of_cancelled (h : m.cancelled = true) :
    attempt transport terms c m = .ofValue m (.error .cancelled) := by
  rw [attempt, if_pos h]

/-- With the token good, an attempt is a request and its reply. -/
theorem attempt_of_good (h : m.cancelled = false) :
    attempt transport terms c m =
      (followSteps terms (transport m.requests c.url).ending
        { m with requests := m.requests + 1 } (transport m.requests c.url).steps).after
          [(m.now, .requested c.url)] := by
  simp [attempt, h]

/-- An attempt that ends is made of steps. -/
theorem steps_of_attempt (ends : (attempt transport terms c m).ending = some (later, response)) :
    Steps terms m (attempt transport terms c m).trace later := by
  cases good : m.cancelled with
  | true =>
    rw [attempt_of_cancelled good] at ends ⊢
    obtain ⟨rfl, -⟩ := Prod.mk.inj (Option.some.inj ends)
    exact .refl m
  | false =>
    rw [attempt_of_good good] at ends ⊢
    exact .head (.request c.url good) ((followed ..).steps_of_ending ends)

/-- Cancellations are neither requests nor lines of the log. -/
theorem views_of_cancelled {trace : Trace} (h : ∀ event ∈ trace, event.2 = .cancelled) :
    Trace.requests trace = [] ∧ Trace.log trace = [] := by
  induction trace with
  | nil => exact ⟨rfl, rfl⟩
  | cons event trace ih =>
    obtain ⟨instant, what⟩ := event
    obtain rfl : what = .cancelled := h _ (List.mem_cons_self ..)
    exact ih fun event later => h event (List.mem_cons_of_mem _ later)

/-- An attempt starts one request, or none with the token cancelled. -/
theorem requests_attempt (transport : Transport) (terms : Terms) (c : Candidate) (m : Moment) :
    Trace.requests (attempt transport terms c m).trace = if m.cancelled then [] else [c.url] := by
  cases good : m.cancelled with
  | true => rw [attempt_of_cancelled good]; rfl
  | false =>
    obtain ⟨nothing, -⟩ := views_of_cancelled (followed terms (transport m.requests c.url).ending
      { m with requests := m.requests + 1 } (transport m.requests c.url).steps).trace_cancelled
    rw [attempt_of_good good, Episode.after, Trace.requests_append, nothing]
    rfl

/-- An attempt leaves no line in the log. -/
theorem log_attempt (transport : Transport) (terms : Terms) (c : Candidate) (m : Moment) :
    Trace.log (attempt transport terms c m).trace = [] := by
  cases good : m.cancelled with
  | true => rw [attempt_of_cancelled good]; rfl
  | false =>
    obtain ⟨-, nothing⟩ := views_of_cancelled (followed terms (transport m.requests c.url).ending
      { m with requests := m.requests + 1 } (transport m.requests c.url).steps).trace_cancelled
    rw [attempt_of_good good, Episode.after, Trace.log_append, nothing]
    rfl

/-- A body comes from a request that was started, and is what the transport answers it with. -/
theorem answer_of_attempt (ends : (attempt transport terms c m).ending = some (later, .ok body)) :
    m.cancelled = false ∧ (transport m.requests c.url).ending = .answer body := by
  cases good : m.cancelled with
  | true =>
    rw [attempt_of_cancelled good] at ends
    obtain ⟨-, wrong⟩ := Prod.mk.inj (Option.some.inj ends)
    cases wrong
  | false =>
    rw [attempt_of_good good] at ends
    exact ⟨rfl, (followed ..).eq_answer ends⟩

/-- An attempt that finds the token cancelled stops the search. -/
theorem Uninterrupted.good (goesOn : Uninterrupted terms later response)
    (ends : (attempt transport terms c m).ending = some (later, response)) :
    m.cancelled = false := by
  cases good : m.cancelled with
  | false => rfl
  | true =>
    rw [attempt_of_cancelled good] at ends
    obtain ⟨rfl, rfl⟩ := Prod.mk.inj (Option.some.inj ends)
    have stops : stopsSearch terms m .cancelled = true := stopsSearch_iff.mpr ⟨.inr rfl, .inl good⟩
    rw [goesOn _ rfl] at stops
    cases stops

/-- An attempt that never ends has nothing that could end it. -/
theorem unbounded_of_endless_attempt (ends : (attempt transport terms c m).ending = none) :
    m.cancelled = false ∧ terms.deadline = none ∧ terms.outside = none ∧
      (attempt transport terms c m).trace = [(m.now, .requested c.url)] := by
  cases good : m.cancelled with
  | true =>
    rw [attempt_of_cancelled good] at ends
    cases ends
  | false =>
    rw [attempt_of_good good] at ends ⊢
    obtain ⟨-, deadline, outside, nothing⟩ := (followed ..).unbounded_of_endless ends
    exact ⟨rfl, deadline, outside, by rw [Episode.after, nothing]; rfl⟩

end KeyDirectory
