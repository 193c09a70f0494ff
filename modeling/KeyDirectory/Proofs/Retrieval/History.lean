import KeyDirectory.Proofs.Retrieval.Replies

/-!
# The attempts of a retrieval

A retrieval is known by the attempts that it makes: to which candidate, from which moment to which,
and with what response. `History` ties a list of attempts to a trace: they follow one another, they
go to the candidates in order, and the trace holds what they leave and nothing else.

`Course` gives the rules by which a search goes from attempt to attempt. A search that ends takes a
course (`exists_course`), and its trace and its result are those of the course (`Course.search_eq`).
A search that does not end makes attempts that fail, and waits for ever after one more request
(`exists_pending`).

`Attempted` covers both: every retrieval has such a list of attempts (`exists_attempted`), and has
only one (`Attempted.unique`).
-/

namespace KeyDirectory

/-- One attempt, from its start to its end. -/
structure Attempt where
  candidate : Candidate
  start : Moment
  finish : Moment
  response : Response

namespace Attempt

/-- The line of the log that says how the attempt ended. -/
def closing (a : Attempt) : LogLine :=
  match a.response with
  | .ok body => .retrieved a.candidate.method a.candidate.url body.length
  | .error failure => .failed a.candidate.fallbackMessage a.candidate.url failure

/-- What the attempt leaves in the trace. -/
def events (transport : Transport) (terms : Terms) (a : Attempt) : Trace :=
  (a.start.now, .log (.requesting a.candidate.method a.candidate.url)) ::
    ((attempt transport terms a.candidate a.start).trace ++ [(a.finish.now, .log a.closing)])

/-- The attempt timed out or was called off, and at its end the token is cancelled or the deadline is
reached. -/
def Interrupts (terms : Terms) (a : Attempt) : Prop :=
  (a.response = .error .timeout ∨ a.response = .error .cancelled) ∧
    (a.finish.cancelled = true ∨ ∃ d ∈ terms.deadline, d ≤ a.finish.now)

end Attempt

def LookupOptions.termsWithin (options : LookupOptions) (clock : Clock)
    (defaultTimeout : Duration) : Terms :=
  Terms.of (clock.deadline (effectiveTimeout defaultTimeout options.timeout)) options.token

/-- The moment at which attempts from a moment on are over. -/
def Moment.afterAttempts (m : Moment) (attempts : List Attempt) : Moment :=
  attempts.foldl (fun _ a => a.finish) m

variable {transport : Transport} {terms : Terms} {m final : Moment} {candidates : List Candidate}
  {attempts attempts' : List Attempt} {trace : Trace} {result : SearchResult}

/-- The attempts happen, each from the moment at which the one before it ended. -/
inductive Consecutive (transport : Transport) (terms : Terms) : Moment → List Attempt → Prop where
  | nil (m : Moment) : Consecutive transport terms m []
  | cons {c : Candidate} {m later : Moment} {response : Response} {rest : List Attempt}
    (ends : (attempt transport terms c m).ending = some (later, response))
    (others : Consecutive transport terms later rest) :
    Consecutive transport terms m (⟨c, m, later, response⟩ :: rest)

/-- What happens from a moment on is these attempts, which go to the candidates in order. -/
structure History (transport : Transport) (terms : Terms) (m : Moment)
    (candidates : List Candidate) (trace : Trace) (attempts : List Attempt) : Prop where
  consecutive : Consecutive transport terms m attempts
  inOrder : attempts.map (·.candidate) <+: candidates
  trace_eq : trace = attempts.flatMap (·.events transport terms)

/-! ## Attempts that follow one another -/

namespace Consecutive

/-- Attempts from one moment on that go to the same candidates are the same as far as both lists go. -/
theorem prefix_or_prefix (h : Consecutive transport terms m attempts)
    (h' : Consecutive transport terms m attempts')
    (inOrder : attempts.map (·.candidate) <+: candidates)
    (inOrder' : attempts'.map (·.candidate) <+: candidates) :
    attempts <+: attempts' ∨ attempts' <+: attempts := by
  induction h generalizing candidates attempts' with
  | nil => exact .inl List.nil_prefix
  | @cons c m later response rest ends _ ih =>
    cases h' with
    | nil => exact .inr List.nil_prefix
    | @cons c' _ later' response' rest' ends' others' =>
      -- the first attempts go to the same candidate from the same moment, so they end alike
      cases candidates with
      | nil => simp at inOrder
      | cons first candidates =>
        simp only [List.map_cons, List.cons_prefix_cons] at inOrder inOrder'
        obtain ⟨rfl, inOrder⟩ := inOrder
        obtain ⟨rfl, inOrder'⟩ := inOrder'
        obtain ⟨rfl, rfl⟩ := Prod.mk.inj (Option.some.inj (ends.symm.trans ends'))
        simpa only [List.cons_prefix_cons, true_and] using ih others' inOrder inOrder'

/-- An attempt begins where those before it are over, and ends as it says. -/
theorem ending_of_split {earlier later : List Attempt} {a : Attempt}
    (h : Consecutive transport terms m (earlier ++ a :: later)) :
    a.start = m.afterAttempts earlier ∧
      (attempt transport terms a.candidate a.start).ending = some (a.finish, a.response) := by
  induction earlier generalizing m with
  | nil =>
    cases h with
    | cons ends => exact ⟨rfl, ends⟩
  | cons first earlier ih =>
    cases h with
    | cons _ others => exact ih others

/-- Each of the attempts ends as it says. -/
theorem ending_of_mem {a : Attempt} (h : Consecutive transport terms m attempts)
    (ha : a ∈ attempts) :
    (attempt transport terms a.candidate a.start).ending = some (a.finish, a.response) := by
  obtain ⟨earlier, later, rfl⟩ := List.append_of_mem ha
  exact h.ending_of_split.2

end Consecutive

/-- No history of a trace goes on where another one ends. -/
theorem History.eq_of_prefix (h : History transport terms m candidates trace attempts)
    (h' : History transport terms m candidates trace attempts') (sooner : attempts <+: attempts') :
    attempts = attempts' := by
  obtain ⟨rest, rfl⟩ := sooner
  have same := h.trace_eq.symm.trans h'.trace_eq
  cases rest with
  | nil => simp
  | cons a rest => simp [Attempt.events] at same

/-- A trace is the trace of one list of attempts at most. -/
theorem History.unique (h : History transport terms m candidates trace attempts)
    (h' : History transport terms m candidates trace attempts') : attempts = attempts' := by
  rcases h.consecutive.prefix_or_prefix h'.consecutive h.inOrder h'.inOrder with sooner | later
  · exact h.eq_of_prefix h' sooner
  · exact (h'.eq_of_prefix h later).symm

/-! ## Moments between attempts -/

/-- What an attempt leaves in the trace is left by steps from its start to its end. -/
theorem Attempt.steps_events {a : Attempt}
    (ends : (attempt transport terms a.candidate a.start).ending = some (a.finish, a.response)) :
    Steps terms a.start (a.events transport terms) a.finish := by
  have opening : Step terms a.start
      (some (a.start.now, .log (.requesting a.candidate.method a.candidate.url))) a.start :=
    .log a.start _
  have closing : Step terms a.finish (some (a.finish.now, .log a.closing)) a.finish :=
    .log a.finish _
  exact .head opening ((steps_of_attempt ends).append (.single closing))

namespace Consecutive

/-- What is done up to one of the attempts is made of steps. -/
theorem steps_to {earlier later : List Attempt} {a : Attempt}
    (h : Consecutive transport terms m (earlier ++ a :: later)) :
    Steps terms m (earlier.flatMap (·.events transport terms)) a.start := by
  induction earlier generalizing m with
  | nil =>
    cases h with
    | cons => exact .refl _
  | cons first earlier ih =>
    cases h with
    | @cons c m later response rest ends others =>
      rw [List.flatMap_cons]
      exact (Attempt.steps_events (a := ⟨c, m, later, response⟩) ends).append (ih others)

end Consecutive

/-! ## The course of a search -/

/-- How a search goes from attempt to attempt, and the moment at which it ends. -/
inductive Course (transport : Transport) (terms : Terms) :
    Moment → List Candidate → List Attempt → Moment → Prop where
  /-- There is nothing left to try. -/
  | exhausted (m : Moment) : Course transport terms m [] [] m
  /-- A body ends the search. -/
  | answered {c : Candidate} {m later : Moment} {body : List UInt8} {rest : List Candidate}
    (ends : (attempt transport terms c m).ending = some (later, .ok body)) :
    Course transport terms m (c :: rest) [⟨c, m, later, .ok body⟩] later
  /-- An interruption ends the search. -/
  | stopped {c : Candidate} {m later : Moment} {failure : Failure} {rest : List Candidate}
    (ends : (attempt transport terms c m).ending = some (later, .error failure))
    (stops : stopsSearch terms later failure = true) :
    Course transport terms m (c :: rest) [⟨c, m, later, .error failure⟩] later
  /-- Any other failure leads on to the candidates that are left. -/
  | failed {c : Candidate} {m later final : Moment} {failure : Failure} {rest : List Candidate}
    {attempts : List Attempt}
    (ends : (attempt transport terms c m).ending = some (later, .error failure))
    (goesOn : stopsSearch terms later failure = false)
    (others : Course transport terms later rest attempts final) :
    Course transport terms m (c :: rest) (⟨c, m, later, .error failure⟩ :: attempts) final

/-- The result to which attempts add up: the first body, or all failures. -/
def outcome : List Attempt → SearchResult
  | [] => .error []
  | a :: rest =>
    match a.response with
    | .ok body => .ok ⟨a.candidate.method, body⟩
    | .error failure =>
      (outcome rest).mapError fun errors => NetworkError.ofCandidate a.candidate failure :: errors

/-- A failure in front does not hide a body that is found later. -/
theorem outcome_cons_eq_ok_iff {a : Attempt} {failure : Failure} {found : Retrieved (List UInt8)}
    (h : a.response = .error failure) :
    outcome (a :: attempts) = .ok found ↔ outcome attempts = .ok found := by
  simp only [outcome, h]
  cases outcome attempts with
  | ok => exact .rfl
  | error => exact ⟨nofun, nofun⟩

/-- A failure in front is the first of the errors. -/
theorem outcome_cons_eq_error_iff {a : Attempt} {failure : Failure} {errors : List NetworkError}
    (h : a.response = .error failure) :
    outcome (a :: attempts) = .error errors ↔
      ∃ others, outcome attempts = .error others ∧
        NetworkError.ofCandidate a.candidate failure :: others = errors := by
  simp only [outcome, h]
  cases outcome attempts with
  | ok => exact ⟨nofun, nofun⟩
  | error others =>
    constructor
    · intro same
      exact ⟨others, rfl, Except.error.inj same⟩
    · rintro ⟨_, ⟨⟩, rfl⟩
      rfl

/-- A search that takes a course leaves its trace and has its result. -/
theorem Course.search_eq (h : Course transport terms m candidates attempts final) :
    search transport terms m candidates =
      ⟨attempts.flatMap (·.events transport terms), some (final, outcome attempts)⟩ := by
  induction h with
  | exhausted m => rfl
  | answered ends => simp [search, ends, Attempt.events, Attempt.closing, outcome]
  | @stopped c m later failure rest ends stops =>
    have result : outcome [⟨c, m, later, .error failure⟩] = .error [.ofCandidate c failure] := rfl
    simp [search, ends, stops, Attempt.events, Attempt.closing, result]
  | failed ends goesOn _ ih =>
    simp [search, ends, goesOn, ih, Attempt.events, Attempt.closing, outcome]

/-- With the token good, a search begins with a request to the first candidate. -/
theorem requests_search_cons {c : Candidate} (good : m.cancelled = false) :
    ∃ later, Trace.requests (search transport terms m (c :: candidates)).trace = c.url :: later := by
  have first : Trace.requests (attempt transport terms c m).trace = [c.url] := by
    rw [requests_attempt, good]
    rfl
  simp only [search]
  split
  · exact ⟨[], by simp [first]⟩
  · exact ⟨[], by simp [first]⟩
  next later failure _ =>
    split
    · exact ⟨[], by simp [first]⟩
    · exact ⟨Trace.requests (search transport terms later candidates).trace, by simp [first]⟩

/-- A search that ends takes a course. -/
theorem exists_course (ends : (search transport terms m candidates).ending = some (final, result)) :
    ∃ attempts, Course transport terms m candidates attempts final := by
  induction candidates generalizing m result with
  | nil =>
    obtain ⟨rfl, -⟩ := Prod.mk.inj (Option.some.inj ends)
    exact ⟨[], .exhausted m⟩
  | cons c rest ih =>
    cases tried : (attempt transport terms c m).ending with
    | none => simp [search, tried] at ends
    | some reached =>
      obtain ⟨later, response⟩ := reached
      cases response with
      | ok body =>
        simp only [search, tried, Option.some.injEq, Prod.mk.injEq] at ends
        obtain ⟨rfl, -⟩ := ends
        exact ⟨_, .answered tried⟩
      | error failure =>
        cases stops : stopsSearch terms later failure with
        | true =>
          simp only [search, tried, stops, if_true, Option.some.injEq, Prod.mk.injEq] at ends
          obtain ⟨rfl, -⟩ := ends
          exact ⟨_, .stopped tried stops⟩
        | false =>
          simp only [search, tried, stops, Bool.false_eq_true, if_false] at ends
          obtain ⟨⟨final', result'⟩, ends', same⟩ := Option.map_eq_some_iff.mp ends
          obtain ⟨rfl, -⟩ := Prod.mk.inj same
          obtain ⟨attempts, course⟩ := ih ends'
          exact ⟨_, .failed tried stops course⟩

/-- What happens from a moment on are these attempts, which fail without ending the search, and then
a request to one more candidate, after which nothing ever happens. -/
structure Pending (transport : Transport) (terms : Terms) (m : Moment) (candidates : List Candidate)
    (trace : Trace) (attempts : List Attempt) : Prop where
  consecutive : Consecutive transport terms m attempts
  failures : ∀ a ∈ attempts, ∃ failure, a.response = .error failure ∧
    stopsSearch terms a.finish failure = false
  request : ∃ c, attempts.map (·.candidate) ++ [c] <+: candidates ∧
    (attempt transport terms c (m.afterAttempts attempts)).ending = none ∧
    trace = attempts.flatMap (·.events transport terms) ++
      [((m.afterAttempts attempts).now, .log (.requesting c.method c.url)),
        ((m.afterAttempts attempts).now, .requested c.url)]

theorem Pending.inOrder (h : Pending transport terms m candidates trace attempts) :
    attempts.map (·.candidate) <+: candidates := by
  obtain ⟨c, inOrder, -⟩ := h.request
  exact (List.prefix_append _ [c]).trans inOrder

/-- What waits for ever after some attempts makes no more of them. -/
theorem Pending.eq_of_prefix {trace' : Trace}
    (h : Pending transport terms m candidates trace attempts)
    (h' : Pending transport terms m candidates trace' attempts')
    (sooner : attempts <+: attempts') : attempts = attempts' := by
  obtain ⟨c, inOrder, hangs, -⟩ := h.request
  obtain ⟨c', inOrder', -, -⟩ := h'.request
  obtain ⟨rest, rfl⟩ := sooner
  cases rest with
  | nil => simp
  | cons a rest =>
    -- the attempt after these would be the one that has no end
    obtain ⟨start, ends⟩ := h'.consecutive.ending_of_split
    obtain ⟨others, rfl⟩ := inOrder
    obtain ⟨next, -⟩ : a.candidate = c ∧ rest.map (·.candidate) ++ [c'] <+: others := by
      simpa using inOrder'
    rw [start, next, hangs] at ends
    cases ends

/-- What never ends has one list of attempts at most. -/
theorem Pending.unique {trace' : Trace}
    (h : Pending transport terms m candidates trace attempts)
    (h' : Pending transport terms m candidates trace' attempts') : attempts = attempts' := by
  rcases h.consecutive.prefix_or_prefix h'.consecutive h.inOrder h'.inOrder with sooner | later
  · exact h.eq_of_prefix h' sooner
  · exact (h'.eq_of_prefix h later).symm

/-- A search that never ends waits for ever for the answer to its last request. -/
theorem exists_pending (endless : (search transport terms m candidates).ending = none) :
    ∃ attempts, Pending transport terms m candidates (search transport terms m candidates).trace
      attempts := by
  induction candidates generalizing m with
  | nil => cases endless
  | cons c rest ih =>
    cases tried : (attempt transport terms c m).ending with
    | none =>
      obtain ⟨-, -, -, trace⟩ := unbounded_of_endless_attempt tried
      refine ⟨[], .nil m, by simp, c, by simp, tried, ?_⟩
      simp [search, tried, trace, Moment.afterAttempts]
    | some reached =>
      obtain ⟨later, response⟩ := reached
      cases response with
      | ok body => simp [search, tried] at endless
      | error failure =>
        cases stops : stopsSearch terms later failure with
        | true => simp [search, tried, stops] at endless
        | false =>
          have others : (search transport terms later rest).ending = none := by
            simpa [search, tried, stops] using endless
          obtain ⟨attempts, consecutive, failures, pending, inOrder, hangs, trace⟩ := ih others
          refine ⟨⟨c, m, later, .error failure⟩ :: attempts, .cons tried consecutive, ?_, pending,
            List.cons_prefix_cons.mpr ⟨rfl, inOrder⟩, hangs, ?_⟩
          · intro a ha
            rcases List.mem_cons.mp ha with rfl | ha
            · exact ⟨failure, rfl, stops⟩
            · exact failures a ha
          · simp [search, tried, stops, trace, Attempt.events, Attempt.closing,
              Moment.afterAttempts]

namespace Course

/-- The attempts of a course follow one another. -/
theorem consecutive (h : Course transport terms m candidates attempts final) :
    Consecutive transport terms m attempts := by
  induction h with
  | exhausted m => exact .nil m
  | answered ends | stopped ends => exact .cons ends (.nil _)
  | failed ends _ _ ih => exact .cons ends ih

/-- A course takes the candidates in order. -/
theorem inOrder (h : Course transport terms m candidates attempts final) :
    attempts.map (·.candidate) <+: candidates := by
  induction h with
  | exhausted => exact List.nil_prefix
  | answered | stopped => exact List.cons_prefix_cons.mpr ⟨rfl, List.nil_prefix⟩
  | failed _ _ _ ih => exact List.cons_prefix_cons.mpr ⟨rfl, ih⟩

/-- What happens on a course is its attempts. -/
theorem history (h : Course transport terms m candidates attempts final) :
    History transport terms m candidates (attempts.flatMap (·.events transport terms)) attempts :=
  ⟨h.consecutive, h.inOrder, rfl⟩

/-- A course ends where its last attempt does. -/
theorem final_eq (h : Course transport terms m candidates attempts final) :
    final = m.afterAttempts attempts := by
  induction h with
  | exhausted | answered | stopped => rfl
  | failed _ _ _ ih => exact ih

end Course

/-! ## The attempts of a run -/

/-- These are the attempts of a run from a moment on, and all that happens in it. -/
structure Attempted (transport : Transport) (terms : Terms) (m : Moment)
    (candidates : List Candidate) (run : Run SearchResult) (attempts : List Attempt) : Prop where
  /-- A run that returns consists of the attempts. They take a course, at the end of which it returns
  what they add up to. -/
  returned : ∀ elapsed result, run.result = some (elapsed, result) →
    History transport terms m candidates run.trace attempts ∧
      Course transport terms m candidates attempts (m.afterAttempts attempts) ∧
      elapsed = (m.afterAttempts attempts).now ∧ result = outcome attempts
  /-- A run that never returns waits after the attempts for the answer to one more request. -/
  endless : run.result = none → Pending transport terms m candidates run.trace attempts

/-- A run has one list of attempts at most. -/
theorem Attempted.unique {run : Run SearchResult}
    (h : Attempted transport terms m candidates run attempts)
    (h' : Attempted transport terms m candidates run attempts') : attempts = attempts' := by
  cases ending : run.result with
  | none => exact (h.endless ending).unique (h'.endless ending)
  | some reached =>
    obtain ⟨history, -⟩ := h.returned reached.1 reached.2 ending
    obtain ⟨history', -⟩ := h'.returned reached.1 reached.2 ending
    exact history.unique history'

/-! ## Retrievals -/

variable {clock : Clock} {options : LookupOptions} {defaultTimeout elapsed : Duration}

/-- The deadline is the timeout, if the clock can show it. -/
theorem Clock.mem_deadline_iff {timeout : Option Duration} {d : Duration} :
    d ∈ clock.deadline timeout ↔ d ∈ timeout ∧ d ≤ clock.last := by
  cases timeout <;> simp [deadline, Option.filter_eq_some_iff]

/-- The deadline of a retrieval is that of its effective timeout. -/
@[simp] theorem deadline_termsWithin :
    (options.termsWithin clock defaultTimeout).deadline =
      clock.deadline (effectiveTimeout defaultTimeout options.timeout) := by
  rw [LookupOptions.termsWithin]
  cases options.token <;> rfl

theorem outside_termsWithin {n : Option Duration} (h : options.token = .live n) :
    (options.termsWithin clock defaultTimeout).outside = n := by
  rw [LookupOptions.termsWithin, h]
  rfl

/-- A retrieval that takes a course returns at its end. -/
theorem fetch_eq_of_course
    (h : Course transport (options.termsWithin clock defaultTimeout) (Moment.start options.token)
      candidates attempts final) :
    fetch clock transport candidates options defaultTimeout =
      ⟨attempts.flatMap (·.events transport (options.termsWithin clock defaultTimeout)),
        some (final.now, outcome attempts)⟩ := by
  have search := h.search_eq
  rw [LookupOptions.termsWithin] at search ⊢
  simp only [fetch, search, Option.map_some]

/-- Unless the token is cancelled beforehand, a retrieval begins with a request to the first
candidate. -/
theorem requests_fetch_cons {c : Candidate} (good : options.token ≠ .cancelled) :
    ∃ later, Trace.requests (fetch clock transport (c :: candidates) options defaultTimeout).trace =
      c.url :: later := by
  have start : (Moment.start options.token).cancelled = false := by
    simpa [Moment.start] using good
  unfold fetch
  exact requests_search_cons start

/-- A retrieval that returns takes a course. -/
theorem exists_course_of_fetch
    (returned : fetch clock transport candidates options defaultTimeout =
      ⟨trace, some (elapsed, result)⟩) :
    ∃ attempts final,
      Course transport (options.termsWithin clock defaultTimeout) (Moment.start options.token)
        candidates attempts final ∧
      trace = attempts.flatMap (·.events transport (options.termsWithin clock defaultTimeout)) ∧
      elapsed = final.now ∧ result = outcome attempts := by
  have ends := congrArg Run.result returned
  obtain ⟨⟨final, result'⟩, ends, -⟩ := Option.map_eq_some_iff.mp ends
  obtain ⟨attempts, course⟩ := exists_course ends
  have same := returned.symm.trans (fetch_eq_of_course course)
  obtain ⟨rfl, ending⟩ := Run.mk.inj same
  obtain ⟨rfl, rfl⟩ := Prod.mk.inj (Option.some.inj ending)
  exact ⟨attempts, final, course, rfl, rfl, rfl⟩

/-- A retrieval that never returns waits for ever for the answer to its last request. -/
theorem exists_pending_of_fetch
    (endless : (fetch clock transport candidates options defaultTimeout).result = none) :
    ∃ attempts, Pending transport (options.termsWithin clock defaultTimeout)
      (Moment.start options.token) candidates
      (fetch clock transport candidates options defaultTimeout).trace attempts := by
  apply exists_pending
  simpa [fetch, LookupOptions.termsWithin] using endless

/-- These are the attempts of a retrieval. -/
abbrev FetchAttempts (clock : Clock) (transport : Transport) (candidates : List Candidate)
    (options : LookupOptions) (defaultTimeout : Duration) (attempts : List Attempt) : Prop :=
  Attempted transport (options.termsWithin clock defaultTimeout) (Moment.start options.token)
    candidates (fetch clock transport candidates options defaultTimeout) attempts

/-- The attempts of a course are those of the retrieval. -/
theorem Course.attempted
    (h : Course transport (options.termsWithin clock defaultTimeout) (Moment.start options.token)
      candidates attempts final) :
    FetchAttempts clock transport candidates options defaultTimeout attempts := by
  obtain rfl := h.final_eq
  rw [FetchAttempts, fetch_eq_of_course h]
  constructor
  case returned =>
    rintro elapsed result ⟨⟩
    exact ⟨h.history, h, rfl, rfl⟩
  case endless => nofun

/-- Every retrieval makes attempts, whether or not it returns. -/
theorem exists_attempted (clock : Clock) (transport : Transport) (candidates : List Candidate)
    (options : LookupOptions) (defaultTimeout : Duration) :
    ∃ attempts, FetchAttempts clock transport candidates options defaultTimeout attempts := by
  cases ending : (fetch clock transport candidates options defaultTimeout).result with
  | none =>
    obtain ⟨attempts, pending⟩ := exists_pending_of_fetch ending
    refine ⟨attempts, .mk ?_ fun _ => pending⟩
    intro elapsed result returned
    exact nomatch ending.symm.trans returned
  | some reached =>
    have fetched : fetch clock transport candidates options defaultTimeout =
        ⟨(fetch clock transport candidates options defaultTimeout).trace, some reached⟩ := by
      rw [← ending]
    obtain ⟨attempts, final, course, -⟩ := exists_course_of_fetch fetched
    exact ⟨attempts, course.attempted⟩

/-! ## Two places -/

def policyAt (method : Method) (host : String) : Candidate where
  method := method
  url := {
    scheme := .https
    username := ""
    password := none
    host := some (.domain host)
    port := none
    path := [".well-known", "openpgpkey", "policy"]
    isRooted := true
    query := none
    fragment := none }
  fallbackMessage := method.fallbackMessage

def advancedPlace : Candidate := policyAt .advanced "openpgpkey.example.org"

def directPlace : Candidate := policyAt .direct "example.org"

/-- A transport that gives these replies in order, and after them says nothing any more. -/
def Transport.ofReplies (replies : List Reply) : Transport :=
  fun n _ => replies.getD n ⟨[], .hang⟩

end KeyDirectory
