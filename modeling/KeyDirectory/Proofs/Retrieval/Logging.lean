import KeyDirectory.Proofs.Retrieval.Fallback

/-!
# The log of a retrieval

The log tells of every attempt in two lines that follow one another: that it begins, and how it ended
(`log_flatMap_events`). The end of a failed attempt is a warning, and warnings are told of nothing else
(`warnings_flatMap_lines`). From this:

* a retrieval that fails has warned of each of its errors, in order;
* a retrieval that finds a body ends with the line that tells of it, and has warned of the failures
  before it, which its result no longer shows;
* a retrieval that never ends has begun one more attempt, and the line that says so is the last.

`fetch_log` says all of this about every retrieval.
-/

namespace KeyDirectory

variable {transport : Transport} {terms : Terms} {m final : Moment} {candidates : List Candidate}
  {attempts : List Attempt} {errors : List NetworkError}

/-! ## Lines -/

def Attempt.lines (a : Attempt) : List LogLine :=
  [.requesting a.candidate.method a.candidate.url, a.closing]

def NetworkError.warning (e : NetworkError) : LogLine :=
  .failed e.fallbackMessage e.url e.source

def warnings (log : List LogLine) : List LogLine :=
  log.filter (·.isWarning)

/-- The lines of the log are those that the attempts leave. -/
theorem log_flatMap_events (attempts : List Attempt) :
    Trace.log (attempts.flatMap (·.events transport terms)) = attempts.flatMap (·.lines) := by
  induction attempts with
  | nil => rfl
  | cons a rest ih =>
    rw [List.flatMap_cons, List.flatMap_cons, Trace.log_append, ih]
    simp [Attempt.events, Attempt.lines, log_attempt]

/-- An attempt warns of its error, if it has one. -/
theorem warnings_lines (a : Attempt) : warnings a.lines = a.error?.toList.map (·.warning) := by
  cases response : a.response with
  | ok body =>
    simp [warnings, Attempt.lines, Attempt.closing, Attempt.error?, response, LogLine.isWarning]
  | error failure =>
    rw [Attempt.error?_of_error response]
    simp [warnings, Attempt.lines, Attempt.closing, response, LogLine.isWarning,
      NetworkError.warning, NetworkError.ofCandidate]

/-- The warnings are those of the errors, in order. -/
theorem warnings_flatMap_lines (attempts : List Attempt) :
    warnings (attempts.flatMap (·.lines)) = (attempts.filterMap (·.error?)).map (·.warning) := by
  induction attempts with
  | nil => rfl
  | cons a rest ih =>
    have both : warnings ((a :: rest).flatMap (·.lines)) =
        warnings a.lines ++ warnings (rest.flatMap (·.lines)) :=
      List.filter_append _ _
    rw [both, warnings_lines, ih, ← List.map_append, List.filterMap_cons]
    cases a.error? <;> rfl

/-! ## Errors -/

/-- Attempts that all failed have an error each. -/
theorem exists_errors_of_failures (h : ∀ a ∈ attempts, ∃ failure, a.response = .error failure) :
    ∃ errors : List NetworkError, attempts.map (·.error?) = errors.map some := by
  induction attempts with
  | nil => exact ⟨[], rfl⟩
  | cons a rest ih =>
    rw [List.forall_mem_cons] at h
    rcases h with ⟨⟨failure, response⟩, others⟩
    rcases ih others with ⟨errors, same⟩
    refine ⟨NetworkError.ofCandidate a.candidate failure :: errors, ?_⟩
    rw [List.map_cons, List.map_cons, Attempt.error?_of_error response, same]

/-- Where every attempt has an error, there is a warning of each. -/
theorem warnings_of_errors (each : attempts.map (·.error?) = errors.map some) :
    warnings (attempts.flatMap (·.lines)) = errors.map (·.warning) := by
  have all : attempts.filterMap (·.error?) = errors := by
    have same := congrArg (List.filterMap id) each
    simpa [List.filterMap_map] using same
  rw [warnings_flatMap_lines, all]

/-! ## Retrievals -/

/-- How a log tells of the attempts of a retrieval. -/
structure Logged (candidates : List Candidate) (run : Run SearchResult) (attempts : List Attempt) :
    Prop where
  /-- A retrieval that returns has two lines for each attempt, and no others. -/
  returned : ∀ elapsed result, run.result = some (elapsed, result) →
    Trace.log run.trace = attempts.flatMap (·.lines)
  /-- One that never returns has begun one more attempt, which has no end to tell of. -/
  endless : run.result = none → ∃ c, candidates[attempts.length]? = some c ∧
    Trace.log run.trace = attempts.flatMap (·.lines) ++ [.requesting c.method c.url]
  /-- After a failure the warnings are those of the errors, of which each attempt has one. -/
  failed : ∀ elapsed errors, run.result = some (elapsed, .error errors) →
    attempts.map (·.error?) = errors.map some ∧
      warnings (Trace.log run.trace) = errors.map (·.warning)
  /-- A body is told of by the last line, with its size. The attempts before it failed, and there is
  a warning of each of their errors. -/
  found : ∀ elapsed found, run.result = some (elapsed, .ok found) →
    ∃ (earlier : List Attempt) (last : Attempt) (errors : List NetworkError),
      attempts = earlier ++ [last] ∧ last.response = .ok found.value ∧
      (Trace.log run.trace).getLast? =
        some (.retrieved last.candidate.method last.candidate.url found.value.length) ∧
      earlier.map (·.error?) = errors.map some ∧
      warnings (Trace.log run.trace) = errors.map (·.warning)

/-- The log of a search that ends tells of each attempt. -/
theorem logged_of_course (course : Course transport terms m candidates attempts final) :
    Logged candidates ⟨attempts.flatMap (·.events transport terms),
      some (final.now, outcome attempts)⟩ attempts := by
  have told : Trace.log (attempts.flatMap (·.events transport terms)) =
      attempts.flatMap (·.lines) := log_flatMap_events attempts
  constructor
  case returned =>
    intro elapsed result _
    exact told
  case endless =>
    intro endless
    cases endless
  case failed =>
    intro elapsed errors ending
    obtain ⟨-, failed⟩ := Prod.mk.inj (Option.some.inj ending)
    have each := map_error?_of_outcome failed
    show _ ∧ warnings (Trace.log (attempts.flatMap (·.events transport terms))) = _
    rw [told]
    exact ⟨each, warnings_of_errors each⟩
  case found =>
    intro elapsed found ending
    obtain ⟨-, ok⟩ := Prod.mk.inj (Option.some.inj ending)
    rcases course.last_of_ok ok with ⟨earlier, last, rfl, failures, body, -⟩
    rcases exists_errors_of_failures failures with ⟨errors, each⟩
    have line : last.closing =
        .retrieved last.candidate.method last.candidate.url found.value.length := by
      simp only [Attempt.closing, body]
    have noWarning : last.error? = none := by
      simp only [Attempt.error?, body]
    refine ⟨earlier, last, errors, rfl, body, ?_, each, ?_⟩
    · show (Trace.log ((earlier ++ [last]).flatMap (·.events transport terms))).getLast? = _
      rw [told, ← line]
      simp [Attempt.lines]
    · show warnings (Trace.log ((earlier ++ [last]).flatMap (·.events transport terms))) = _
      rw [told, warnings_flatMap_lines, List.filterMap_append, List.map_append,
        ← warnings_flatMap_lines, warnings_of_errors each]
      simp [noWarning]

/-- The log of a search that never ends breaks off in the attempt that has no end. -/
theorem logged_of_pending {trace : Trace}
    (pending : Pending transport terms m candidates trace attempts) :
    Logged candidates ⟨trace, none⟩ attempts := by
  rcases pending.request with ⟨c, inOrder, -, rfl⟩
  constructor
  case endless =>
    intro _
    refine ⟨c, ?_, ?_⟩
    · rcases inOrder with ⟨rest, rfl⟩
      simp
    · show Trace.log (_ ++ _) = _
      rw [Trace.log_append, log_flatMap_events]
      rfl
  -- it does not return, so there is nothing to say of results
  case returned => nofun
  case failed => nofun
  case found => nofun

/-- The log of a run tells of its attempts, whether or not it returns. -/
theorem logged_of_attempted {run : Run SearchResult}
    (attempted : Attempted transport terms m candidates run attempts) :
    Logged candidates run attempts := by
  rcases run with ⟨trace, _ | ⟨elapsed, result⟩⟩
  · exact logged_of_pending (attempted.endless rfl)
  · obtain ⟨history, course, rfl, rfl⟩ := attempted.returned elapsed result rfl
    obtain rfl : trace = _ := history.trace_eq
    exact logged_of_course course

/-- The log of every retrieval, whatever the candidates, the transport, the timeouts and the token,
tells of its attempts, of which there is one list. Of each attempt that ended, in the order of the
candidates, it tells in two lines. After a failure the warnings are one to one those of the errors;
after a success they are those of the failures before the body. Only an attempt that never ends has a
single line. -/
theorem fetch_log (clock : Clock) (transport : Transport) (candidates : List Candidate)
    (options : LookupOptions) (defaultTimeout : Duration) :
    ∃ attempts, FetchAttempts clock transport candidates options defaultTimeout attempts ∧
      (∀ attempts', FetchAttempts clock transport candidates options defaultTimeout attempts' →
        attempts' = attempts) ∧
      Logged candidates (fetch clock transport candidates options defaultTimeout) attempts := by
  obtain ⟨attempts, attempted⟩ :=
    exists_attempted clock transport candidates options defaultTimeout
  exact ⟨attempts, attempted, fun _ attempted' => attempted'.unique attempted,
    logged_of_attempted attempted⟩

/-- The first request times out and leaves a warning; the second has a body of three bytes. -/
example :
    Trace.log (fetch .standard (.ofReplies [⟨[], .fail .timeout⟩, ⟨[], .answer [1, 2, 3]⟩])
      [advancedPlace, directPlace] {} 0).trace =
      [.requesting .advanced advancedPlace.url,
        .failed Method.advanced.fallbackMessage advancedPlace.url .timeout,
        .requesting .direct directPlace.url, .retrieved .direct directPlace.url 3] := rfl

end KeyDirectory
