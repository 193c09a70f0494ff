import KeyDirectory.Proofs.Retrieval.History

/-!
# The bounds of a retrieval

Time moves only while everything waits, and every wait ends at the deadline or at a cancellation from
outside at the latest. `steps_of_search` says that whatever a search does is made of steps, and that it
goes on for ever only with nothing that could end it; what `Step` allows then bounds it in time.
`fetch_withinBounds` puts this together: a retrieval returns by its timeout and by the cancellation of
its token, starts no request after either, and does return if there is one of them.

All of that holds as far as the clock goes. A timeout that ends past the last instant of the clock is
none (`fetch_of_last_lt`), and a retrieval with no other bound need not return then.
-/

namespace KeyDirectory

variable {transport : Transport} {terms : Terms} {m last : Moment} {trace earlier later : Trace}
  {instant : Duration} {url : Url}

/-! ## Events and moments -/

namespace Step

/-- An event is left at the instant of its step, and no time passes in it. -/
theorem instant_eq {event : Duration × Event} (step : Step terms m (some event) last) :
    event.1 = m.now ∧ last.now = m.now := by
  cases step <;> exact ⟨rfl, rfl⟩

end Step

namespace Steps

/-- With the token cancelled for good, time stands still: the end comes at the same instant. -/
theorem end_of_cancelled
    (steps : Steps terms m (earlier ++ (instant, .cancelled) :: later) last) :
    last.cancelled = true ∧ last.now = instant := by
  obtain ⟨before, after, -, step, rest⟩ := steps.split rfl
  cases step with
  | cancel =>
    obtain rfl := rest.frozen rfl
    exact ⟨rfl, rfl⟩

/-- Once the token is cancelled, that is the end. -/
theorem cancelled_of_mem (steps : Steps terms m trace last)
    (h : (instant, Event.cancelled) ∈ trace) : last.cancelled = true ∧ last.now = instant := by
  obtain ⟨earlier, later, rfl⟩ := List.append_of_mem h
  exact steps.end_of_cancelled

/-- A request is started at a moment with the token good, after the steps that come before it. -/
theorem before_request
    (steps : Steps terms m (earlier ++ (instant, .requested url) :: later) last) :
    ∃ before, Steps terms m earlier before ∧ before.cancelled = false ∧ before.now = instant := by
  obtain ⟨before, after, first, step, -⟩ := steps.split rfl
  cases step with
  | request _ good => exact ⟨before, first, good, rfl⟩

/-- What happens lies between the start and the end. -/
theorem between_of_mem {event : Duration × Event} (steps : Steps terms m trace last)
    (h : event ∈ trace) : m.now ≤ event.1 ∧ event.1 ≤ last.now := by
  obtain ⟨earlier, later, rfl⟩ := List.append_of_mem h
  obtain ⟨before, after, first, step, rest⟩ := steps.split rfl
  obtain ⟨start, finish⟩ := step.instant_eq
  exact ⟨start ▸ first.now_le, start ▸ finish ▸ rest.now_le⟩

/-- Events are left in the order of their instants. -/
theorem chronological (steps : Steps terms m trace last) :
    trace.Pairwise fun event event' => event.1 ≤ event'.1 := by
  induction steps with
  | refl => exact .nil
  | @head _ _ _ label _ first rest ih =>
    cases label with
    | none => exact ih
    | some event =>
      refine List.pairwise_cons.mpr ⟨?_, ih⟩
      intro event' h
      obtain ⟨start, finish⟩ := first.instant_eq
      rw [start, ← finish]
      exact (rest.between_of_mem h).1

end Steps

/-! ## Searches that end and searches that do not -/

/-- Nothing could end a wait: there is no deadline, and the token is neither cancelled nor going to be
from outside. -/
structure Moment.Unbounded (terms : Terms) (m : Moment) : Prop where
  good : m.cancelled = false
  deadline : terms.deadline = none
  outside : terms.outside = none

/-- Whatever a search does is made of steps, up to its end, or for ever with nothing to end it. -/
theorem steps_of_search (transport : Transport) (terms : Terms) (m : Moment)
    (candidates : List Candidate) :
    ∃ last, Steps terms m (search transport terms m candidates).trace last ∧
      ((∃ result, (search transport terms m candidates).ending = some (last, result)) ∨
        (search transport terms m candidates).ending = none ∧ last.Unbounded terms) := by
  induction candidates generalizing m with
  | nil => exact ⟨m, .refl m, .inl ⟨_, rfl⟩⟩
  | cons c rest ih =>
    have opening : Step terms m (some (m.now, .log (.requesting c.method c.url))) m := .log m _
    cases tried : (attempt transport terms c m).ending with
    | none =>
      obtain ⟨good, deadline, outside, trace⟩ := unbounded_of_endless_attempt tried
      have request : Step terms m (some (m.now, .requested c.url))
          { m with requests := m.requests + 1 } := .request c.url good
      refine ⟨{ m with requests := m.requests + 1 }, ?_, .inr ⟨?_, good, deadline, outside⟩⟩
      · simpa [search, tried, trace] using Steps.head opening (.single request)
      · simp [search, tried]
    | some reached =>
      obtain ⟨final, response⟩ := reached
      -- the two lines of the log stand around what the attempt leaves
      have closed (line : LogLine) := Steps.head opening
        ((steps_of_attempt tried).append (.single (.log final line)))
      cases response with
      | ok body =>
        refine ⟨final, ?_, .inl ?_⟩
        · simpa [search, tried] using closed (.retrieved c.method c.url body.length)
        · simp [search, tried]
      | error failure =>
        have failed := closed (.failed c.fallbackMessage c.url failure)
        cases stops : stopsSearch terms final failure with
        | true =>
          refine ⟨final, ?_, .inl ?_⟩
          · simpa [search, tried, stops] using failed
          · simp [search, tried, stops]
        | false =>
          obtain ⟨last, steps, ending⟩ := ih final
          refine ⟨last, ?_, ?_⟩
          · simpa [search, tried, stops] using failed.append steps
          · rcases ending with ⟨result, ends⟩ | ⟨endless, unbounded⟩
            · left
              simp [search, tried, stops, ends]
            · right
              simp [search, tried, stops, endless, unbounded]

/-! ## Retrievals -/

variable {options : LookupOptions} {defaultTimeout : Duration}

/-- Whatever a retrieval does is made of steps from its start. -/
theorem steps_of_fetch (clock : Clock) (transport : Transport) (candidates : List Candidate)
    (options : LookupOptions) (defaultTimeout : Duration) :
    ∃ last, Steps (options.termsWithin clock defaultTimeout) (Moment.start options.token)
        (fetch clock transport candidates options defaultTimeout).trace last ∧
      ((∃ result, (fetch clock transport candidates options defaultTimeout).result =
          some (last.now, result)) ∨
        (fetch clock transport candidates options defaultTimeout).result = none ∧
          last.Unbounded (options.termsWithin clock defaultTimeout)) := by
  obtain ⟨last, steps, ending⟩ := steps_of_search transport
    (options.termsWithin clock defaultTimeout) (Moment.start options.token) candidates
  refine ⟨last, steps, ?_⟩
  rw [LookupOptions.termsWithin] at ending
  rcases ending with ⟨result, ends⟩ | ⟨endless, unbounded⟩
  · exact .inl ⟨result, by simp only [fetch, ends, Option.map_some]⟩
  · exact .inr ⟨by simp only [fetch, endless, Option.map_none], unbounded⟩

/-- Before anything has happened, nothing is overdue. -/
theorem Moment.within_start (terms : Terms) (token : Token) : (Moment.start token).Within terms :=
  ⟨fun _ _ => Nat.zero_le _, fun _ _ => Nat.zero_le _⟩

/-- A token that is cancelled beforehand is cancelled from the start. -/
theorem Moment.cancelled_start {token : Token} (h : token = .cancelled) :
    (Moment.start token).cancelled = true := by
  rw [h]
  rfl

/-- What comes no later than the deadline comes no later than the timeout, if the clock can show it or
the end of the timeout. -/
theorem Clock.le_of_le_deadline {clock : Clock} {timeout : Option Duration} {t d : Duration}
    (before : ∀ d ∈ clock.deadline timeout, t ≤ d) (hd : d ∈ timeout)
    (shown : d ≤ clock.last ∨ t ≤ clock.last) : t ≤ d := by
  by_cases fits : d ≤ clock.last
  · exact before d (mem_deadline_iff.mpr ⟨hd, fits⟩)
  · exact Nat.le_trans (shown.resolve_left fits) (Nat.le_of_lt (Nat.lt_of_not_le fits))

/-- What the timeout and the token promise about a retrieval. -/
structure Run.WithinBounds (run : Run SearchResult) (clock : Clock) (options : LookupOptions)
    (defaultTimeout : Duration) : Prop where
  /-- Time never goes back. -/
  chronological : run.trace.Pairwise fun event event' => event.1 ≤ event'.1
  /-- It returns no later than its timeout, if the clock can show the end of the timeout or the
  instant at which it returns. -/
  elapsed_le_timeout : ∀ elapsed result, run.result = some (elapsed, result) →
    ∀ d ∈ effectiveTimeout defaultTimeout options.timeout,
      d ≤ clock.last ∨ elapsed ≤ clock.last → elapsed ≤ d
  /-- It returns no later than the instant for which someone outside planned to cancel the token. -/
  elapsed_le_outside : ∀ elapsed result, run.result = some (elapsed, result) →
    ∀ n, options.token = .live (some n) → elapsed ≤ n
  /-- It returns no later than the instant at which the token was cancelled, by whomever. -/
  elapsed_le_cancelled : ∀ elapsed result, run.result = some (elapsed, result) →
    ∀ t, (t, .cancelled) ∈ run.trace → elapsed ≤ t
  /-- With the token cancelled beforehand, it returns at once. -/
  elapsed_eq_zero : ∀ elapsed result, run.result = some (elapsed, result) →
    options.token = .cancelled → elapsed = 0
  /-- No request is started with the token cancelled. -/
  request_good : ∀ earlier t url later, run.trace = earlier ++ (t, .requested url) :: later →
    options.token ≠ .cancelled ∧ ∀ s, (s, .cancelled) ∉ earlier
  /-- No request is started after the instant for which someone outside planned to cancel the token,
  or after the timeout as far as the clock can show it. -/
  request_le : ∀ t url, (t, .requested url) ∈ run.trace →
    (∀ n, options.token = .live (some n) → t ≤ n) ∧
      ∀ d ∈ effectiveTimeout defaultTimeout options.timeout,
        d ≤ clock.last ∨ t ≤ clock.last → t ≤ d
  /-- It returns, if there is a timeout whose end the clock can show, or the token is cancelled at some
  time. -/
  returns : (∃ d ∈ effectiveTimeout defaultTimeout options.timeout, d ≤ clock.last) ∨
      options.token = .cancelled ∨ (∃ n, options.token = .live (some n)) ∨
      (∃ t, (t, .cancelled) ∈ run.trace) →
    ∃ elapsed result, run.result = some (elapsed, result)

/-- Every retrieval keeps to its timeout and to its token, and returns if either bounds it. -/
theorem fetch_withinBounds (clock : Clock) (transport : Transport) (candidates : List Candidate)
    (options : LookupOptions) (defaultTimeout : Duration) :
    (fetch clock transport candidates options defaultTimeout).WithinBounds clock options
      defaultTimeout := by
  obtain ⟨last, steps, ending⟩ := steps_of_fetch clock transport candidates options defaultTimeout
  have start := Moment.within_start (options.termsWithin clock defaultTimeout) options.token
  have within := steps.within start
  -- the instant of the result is that of the last moment
  have elapsed_eq : ∀ elapsed result,
      (fetch clock transport candidates options defaultTimeout).result = some (elapsed, result) →
      elapsed = last.now := by
    intro elapsed result returned
    rcases ending with ⟨result', ends⟩ | ⟨endless, -⟩
    · rw [ends] at returned
      exact (congrArg Prod.fst (Option.some.inj returned)).symm
    · rw [endless] at returned
      cases returned
  constructor
  case chronological => exact steps.chronological
  case elapsed_le_timeout =>
    intro elapsed result returned d hd
    rw [elapsed_eq elapsed result returned]
    exact Clock.le_of_le_deadline (deadline_termsWithin ▸ within.deadline) hd
  case elapsed_le_outside =>
    intro elapsed result returned n token
    rw [elapsed_eq elapsed result returned]
    exact within.outside n (outside_termsWithin token)
  case elapsed_le_cancelled =>
    intro elapsed result returned t cancelled
    obtain ⟨-, last_eq⟩ := steps.cancelled_of_mem cancelled
    exact Nat.le_of_eq ((elapsed_eq elapsed result returned).trans last_eq)
  case elapsed_eq_zero =>
    intro elapsed result returned token
    rw [elapsed_eq elapsed result returned, steps.frozen (Moment.cancelled_start token)]
    rfl
  case request_good =>
    intro earlier t url later trace
    rw [trace] at steps
    obtain ⟨before, first, good, -⟩ := steps.before_request
    -- either way nothing moves after the cancellation, so the request would not have started
    constructor
    · intro token
      have cancelled := Moment.cancelled_start token
      rw [first.frozen cancelled, cancelled] at good
      cases good
    · intro s cancelled
      rw [(first.cancelled_of_mem cancelled).1] at good
      cases good
  case request_le =>
    intro t url request
    obtain ⟨earlier, later, trace⟩ := List.append_of_mem request
    rw [trace] at steps
    obtain ⟨before, first, -, rfl⟩ := steps.before_request
    have within := first.within start
    refine ⟨fun n token => within.outside n (outside_termsWithin token), fun d hd => ?_⟩
    exact Clock.le_of_le_deadline (deadline_termsWithin ▸ within.deadline) hd
  case returns =>
    intro cause
    rcases ending with ⟨result, ends⟩ | ⟨-, unbounded⟩
    · exact ⟨last.now, result, ends⟩
    · -- each cause contradicts what a retrieval without end is known to lack
      exfalso
      obtain ⟨good, deadline, outside⟩ := unbounded
      rcases cause with ⟨d, timeout, shown⟩ | token | ⟨n, token⟩ | ⟨t, cancelled⟩
      · have mem := Clock.mem_deadline_iff.mpr ⟨timeout, shown⟩
        rw [← deadline_termsWithin, deadline] at mem
        cases mem
      · have cancelled := Moment.cancelled_start token
        rw [steps.frozen cancelled, cancelled] at good
        cases good
      · rw [outside_termsWithin token] at outside
        cases outside
      · rw [(steps.cancelled_of_mem cancelled).1] at good
        cases good

/-- Where nobody answers, the first attempt lasts up to the deadline. -/
example :
    (fetch .standard (.ofReplies []) [advancedPlace, directPlace] { timeout := some 5 } 7).result =
      some (5, .error [.ofCandidate advancedPlace .timeout]) := rfl

/-- A timeout that goes past the last instant of the clock is none. -/
theorem fetch_of_last_lt {clock : Clock} {d : Duration}
    (timeout : effectiveTimeout defaultTimeout options.timeout = some d) (past : clock.last < d)
    (candidates : List Candidate) :
    fetch clock transport candidates options defaultTimeout =
      fetch clock transport candidates { options with timeout := none } 0 := by
  have noDeadline : clock.deadline (some d) = none := by
    simpa [Clock.deadline] using past
  have noTimeout : clock.deadline (effectiveTimeout 0 none) = none := rfl
  simp only [fetch, timeout, noDeadline, noTimeout]

/-- The clock counts its seconds in 63 bits. With the longest span of 64-bit seconds as its timeout, a
retrieval does not return where nobody answers. -/
theorem endless_past_last_instant :
    let longest := Duration.ofSeconds 18446744073709551615 999999999
    effectiveTimeout 0 (some longest) = some longest ∧
      (fetch .standard (.ofReplies []) [advancedPlace, directPlace]
        { timeout := some longest } 0).result = none := by
  intro longest
  have timeout : effectiveTimeout 0 (some longest) = some longest := rfl
  have past : Clock.standard.last < longest := by decide
  refine ⟨timeout, ?_⟩
  rw [fetch_of_last_lt timeout past]
  rfl

end KeyDirectory
