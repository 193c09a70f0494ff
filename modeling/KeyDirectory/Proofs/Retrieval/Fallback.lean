import KeyDirectory.Proofs.Retrieval.History

/-!
# Falling back from candidate to candidate

What a retrieval that returns has done. Two statements carry the module:

* `fetch_first_body_or_every_error` — the result is the first body, or one error for each attempt,
  and the requests are those of the attempts; only an attempt that found the token cancelled comes
  without a request;
* `fetch_goes_on_unless_interrupted` — one attempt leads to the next iff it failed without an
  interruption (`FallsBack` says what this means for the errors and for the requests).
-/

namespace KeyDirectory

variable {transport : Transport} {terms : Terms} {m final : Moment} {candidates : List Candidate}
  {attempts : List Attempt} {errors : List NetworkError} {found : Retrieved (List UInt8)}

/-! ## The errors of failed attempts -/

/-- The error that an attempt adds to the result, if it failed. -/
def Attempt.error? (a : Attempt) : Option NetworkError :=
  match a.response with
  | .ok _ => none
  | .error failure => some (NetworkError.ofCandidate a.candidate failure)

theorem Attempt.error?_of_error {a : Attempt} {failure : Failure}
    (h : a.response = .error failure) :
    a.error? = some (NetworkError.ofCandidate a.candidate failure) := by
  simp only [error?, h]

/-- The error of an attempt is about its candidate, and has its failure as the source. -/
theorem Attempt.error?_eq_some_iff {a : Attempt} {e : NetworkError} :
    a.error? = some e ↔
      a.response = .error e.source ∧ e.method = a.candidate.method ∧ e.url = a.candidate.url ∧
        e.fallbackMessage = a.candidate.fallbackMessage := by
  obtain ⟨method, url, fallbackMessage, source⟩ := e
  cases h : a.response with
  | ok body => simp [error?, h]
  | error failure =>
    simp only [error?, h, NetworkError.ofCandidate, Option.some.injEq, NetworkError.mk.injEq,
      Except.error.injEq]
    grind

/-- A result without a body has one error for each attempt. -/
theorem map_error?_of_outcome (h : outcome attempts = .error errors) :
    attempts.map (·.error?) = errors.map some := by
  induction attempts generalizing errors with
  | nil =>
    obtain rfl := Except.error.inj h
    rfl
  | cons a rest ih =>
    cases response : a.response with
    | ok body =>
      simp only [outcome, response] at h
      cases h
    | error failure =>
      obtain ⟨others, failed, rfl⟩ := (outcome_cons_eq_error_iff response).mp h
      rw [List.map_cons, List.map_cons, Attempt.error?_of_error response, ih failed]

/-- The errors are about the URLs of the attempts. -/
theorem map_url_of_map_error? (h : attempts.map (·.error?) = errors.map some) :
    attempts.map (·.candidate.url) = errors.map (·.url) := by
  induction attempts generalizing errors with
  | nil =>
    cases errors with
    | nil => rfl
    | cons => cases h
  | cons a rest ih =>
    cases errors with
    | nil => cases h
    | cons e errors =>
      obtain ⟨same, others⟩ := List.cons.inj h
      obtain ⟨-, -, url, -⟩ := Attempt.error?_eq_some_iff.mp same
      rw [List.map_cons, List.map_cons, url, ih others]

/-- Attempts that go to the candidates in order go to that of the same index. -/
theorem candidate_of_inOrder {i : Nat} {a : Attempt}
    (inOrder : attempts.map (·.candidate) <+: candidates) (ha : attempts[i]? = some a) :
    candidates[i]? = some a.candidate := by
  obtain ⟨rest, rfl⟩ := inOrder
  have bound : i < attempts.length := (List.getElem?_eq_some_iff.mp ha).1
  rw [List.getElem?_append_left (by simpa using bound), List.getElem?_map, ha, Option.map_some]

/-- A result with a body is due to the last attempt, and all others failed. -/
theorem Course.last_of_ok (h : Course transport terms m candidates attempts final)
    (ok : outcome attempts = .ok found) :
    ∃ earlier last, attempts = earlier ++ [last] ∧
      (∀ a ∈ earlier, ∃ failure, a.response = .error failure) ∧
      last.response = .ok found.value ∧ found.method = last.candidate.method := by
  induction h with
  | exhausted => cases ok
  | @answered c m later body rest ends =>
    obtain rfl := Except.ok.inj ok
    exact ⟨[], _, rfl, by simp, rfl, rfl⟩
  | stopped => cases ok
  | @failed c m later final failure rest attempts ends goesOn others ih =>
    rw [outcome_cons_eq_ok_iff rfl] at ok
    obtain ⟨earlier, last, rfl, failures, body, method⟩ := ih ok
    refine ⟨_ :: earlier, last, rfl, ?_, body, method⟩
    intro a ha
    rcases List.mem_cons.mp ha with rfl | ha
    · exact ⟨failure, rfl⟩
    · exact failures a ha

/-- An attempt that brought a body is the last, and its body is the result. -/
theorem Course.outcome_of_body (h : Course transport terms m candidates attempts final)
    {a : Attempt} (ha : a ∈ attempts) {body : List UInt8} (response : a.response = .ok body) :
    attempts.getLast? = some a ∧ outcome attempts = .ok ⟨a.candidate.method, body⟩ := by
  induction h with
  | exhausted => cases ha
  | answered =>
    obtain rfl := List.mem_singleton.mp ha
    obtain rfl := Except.ok.inj response
    exact ⟨rfl, rfl⟩
  | stopped =>
    obtain rfl := List.mem_singleton.mp ha
    cases response
  | @failed c m later final failure rest attempts ends goesOn others ih =>
    rcases List.mem_cons.mp ha with rfl | ha
    · cases response
    · obtain ⟨last, ok⟩ := ih ha
      refine ⟨?_, (outcome_cons_eq_ok_iff rfl).mpr ok⟩
      rw [List.getLast?_cons, last]
      rfl

/-! ## Requests -/

/-- An attempt that finds the token good starts the one request to its candidate. -/
theorem Attempt.requests_events (a : Attempt) :
    Trace.requests (a.events transport terms) =
      if a.start.cancelled then [] else [a.candidate.url] := by
  simp [Attempt.events, requests_attempt]

/-- The attempts that found the token good are those that started requests. -/
theorem requests_flatMap_events (attempts : List Attempt) :
    Trace.requests (attempts.flatMap (·.events transport terms)) =
      (attempts.filter (!·.start.cancelled)).map (·.candidate.url) := by
  induction attempts with
  | nil => rfl
  | cons a rest ih =>
    rw [List.flatMap_cons, Trace.requests_append, ih, Attempt.requests_events]
    cases h : a.start.cancelled <;> simp [h]

/-- If every attempt starts its request, the requests are those of the attempts. -/
theorem requests_of_started (h : ∀ a ∈ attempts, a.start.cancelled = false) :
    Trace.requests (attempts.flatMap (·.events transport terms)) =
      attempts.map (·.candidate.url) := by
  rw [requests_flatMap_events, List.filter_eq_self.mpr]
  intro a ha
  simp [h a ha]

/-- Only the last attempt can find the token cancelled, and then it is called off at once. -/
theorem Course.started (h : Course transport terms m candidates attempts final) :
    (∀ a ∈ attempts, a.start.cancelled = false) ∨
      ∃ earlier last, attempts = earlier ++ [last] ∧
        (∀ a ∈ earlier, a.start.cancelled = false) ∧
        last.start.cancelled = true ∧ last.response = .error .cancelled := by
  induction h with
  | exhausted => exact .inl (by simp)
  | @answered c m later body rest ends =>
    obtain ⟨good, -⟩ := answer_of_attempt ends
    exact .inl (by simpa using good)
  | @stopped c m later failure rest ends stops =>
    cases good : m.cancelled with
    | false => exact .inl (by simpa using good)
    | true =>
      rw [attempt_of_cancelled good] at ends
      obtain ⟨-, same⟩ := Prod.mk.inj (Option.some.inj ends)
      obtain rfl := Except.error.inj same
      exact .inr ⟨[], _, rfl, by simp, good, rfl⟩
  | @failed c m later final failure rest attempts ends goesOn others ih =>
    have good := (uninterrupted_of_error goesOn).good ends
    rcases ih with started | ⟨earlier, last, rfl, started, cancelled, response⟩
    · left
      intro a ha
      rcases List.mem_cons.mp ha with rfl | ha
      · exact good
      · exact started a ha
    · right
      refine ⟨_ :: earlier, last, rfl, ?_, cancelled, response⟩
      intro a ha
      rcases List.mem_cons.mp ha with rfl | ha
      · exact good
      · exact started a ha

/-- If the last attempt brought a body, every attempt started its request. -/
theorem Course.started_of_ok (h : Course transport terms m candidates attempts final)
    (ok : outcome attempts = .ok found) : ∀ a ∈ attempts, a.start.cancelled = false := by
  rcases h.started with started | ⟨earlier, last, rfl, -, -, calledOff⟩
  · exact started
  · -- the one attempt that may start no request is called off, but the last one found a body
    obtain ⟨earlier', last', same, -, body, -⟩ := h.last_of_ok ok
    obtain ⟨-, same⟩ := List.append_inj' same rfl
    obtain rfl := List.singleton_inj.mp same
    exact nomatch calledOff.symm.trans body

/-! ## Results -/

/-- The first body is that of candidate `k`, and nothing was asked of the candidates after it. -/
structure FirstBody (transport : Transport) (candidates : List Candidate) (requests : List Url)
    (attempts : List Attempt) (found : Retrieved (List UInt8)) (k : Nat) : Prop where
  requests_eq : requests = (candidates.take (k + 1)).map (·.url)
  length_eq : attempts.length = k + 1
  /-- The attempts before it failed. -/
  failures : ∀ a ∈ attempts.take k, ∃ failure, a.response = .error failure
  /-- The attempt at it ended with the body. -/
  body : ∃ a, attempts[k]? = some a ∧ a.response = .ok found.value
  /-- The transport answered its request with the body. -/
  answer : ∃ c, candidates[k]? = some c ∧ found.method = c.method ∧
    (transport k c.url).ending = .answer found.value

/-- There is one error for each attempt, about the candidate and the failure of the attempt. -/
structure EveryError (candidates : List Candidate) (requests : List Url) (attempts : List Attempt)
    (errors : List NetworkError) : Prop where
  length_eq : errors.length = attempts.length
  faithful : ∀ (i : Nat) (e : NetworkError), errors[i]? = some e →
    ∃ (c : Candidate) (a : Attempt), candidates[i]? = some c ∧ attempts[i]? = some a ∧
      e.method = c.method ∧ e.url = c.url ∧ e.fallbackMessage = c.fallbackMessage ∧
      a.response = .error e.source
  /-- The errors come with one request each, except that the last attempt may have found the token
  cancelled. -/
  requests_eq : requests = errors.map (·.url) ∨
    ∃ (earlier : List NetworkError) (last : NetworkError) (a : Attempt),
      errors = earlier ++ [last] ∧ requests = earlier.map (·.url) ∧ last.source = .cancelled ∧
      attempts.getLast? = some a ∧ a.start.cancelled = true

/-- A search that finds a body has asked the candidates up to the one that has it. -/
theorem Course.firstBody (h : Course transport terms m candidates attempts final)
    (first : m.requests = 0) (ok : outcome attempts = .ok found) :
    ∃ k, FirstBody transport candidates
      (Trace.requests (attempts.flatMap (·.events transport terms))) attempts found k := by
  obtain ⟨earlier, last, rfl, failures, body, method⟩ := h.last_of_ok ok
  have started := h.started_of_ok ok
  -- the transport numbers requests, not attempts; up to here there is one for each
  have number : last.start.requests = earlier.length := by
    rw [h.consecutive.steps_to.requests_eq, first, requests_of_started, List.length_map,
      Nat.zero_add]
    intro a ha
    exact started a (List.mem_append_left _ ha)
  have isLast : last ∈ earlier ++ [last] := List.mem_append_right earlier (List.mem_singleton_self last)
  have ends := h.consecutive.ending_of_mem isLast
  rw [body] at ends
  obtain ⟨-, answer⟩ := answer_of_attempt ends
  obtain ⟨rest, rfl⟩ := h.inOrder
  refine ⟨earlier.length, ?_, by simp, by simpa using failures, ⟨last, by simp, body⟩,
    ⟨last.candidate, by simp, method, number ▸ answer⟩⟩
  have upTo : ((earlier ++ [last]).map (·.candidate) ++ rest).take (earlier.length + 1) =
      (earlier ++ [last]).map (·.candidate) :=
    List.take_left' (by simp)
  rw [requests_of_started started, upTo, List.map_map]
  rfl

/-- A search that fails has one error for each of its attempts. -/
theorem Course.everyError (h : Course transport terms m candidates attempts final)
    (failed : outcome attempts = .error errors) :
    EveryError candidates (Trace.requests (attempts.flatMap (·.events transport terms))) attempts
      errors := by
  have each := map_error?_of_outcome failed
  refine ⟨by simpa using (congrArg List.length each).symm, ?_, ?_⟩
  · intro i e he
    have at_i : (attempts.map (·.error?))[i]? = some (some e) := by
      rw [each, List.getElem?_map, he, Option.map_some]
    rw [List.getElem?_map, Option.map_eq_some_iff] at at_i
    obtain ⟨a, ha, same⟩ := at_i
    obtain ⟨response, method, url, message⟩ := Attempt.error?_eq_some_iff.mp same
    exact ⟨a.candidate, a, candidate_of_inOrder h.inOrder ha, ha, method, url, message, response⟩
  · rcases h.started with started | ⟨earlier, last, rfl, started, cancelled, response⟩
    · left
      rw [requests_of_started started]
      exact map_url_of_map_error? each
    · right
      -- cut the errors before that of the attempt without a request
      rw [List.map_append] at each
      obtain ⟨earlierErrors, lastErrors, rfl, before, one⟩ := List.map_eq_append_iff.mp each.symm
      obtain ⟨lastError, rfl, same⟩ := List.map_eq_singleton_iff.mp one
      obtain ⟨source, -⟩ := Attempt.error?_eq_some_iff.mp same.symm
      rw [response] at source
      refine ⟨earlierErrors, lastError, last, rfl, ?_, (Except.error.inj source).symm, by simp,
        cancelled⟩
      rw [List.flatMap_append, Trace.requests_append, requests_of_started started,
        map_url_of_map_error? before.symm]
      simp [Attempt.requests_events, cancelled]

/-- The attempt that brought a body is the last, and every attempt made its request. The body is the
result. -/
theorem Attempted.of_body {run : Run SearchResult}
    (h : Attempted transport terms m candidates run attempts) {a : Attempt} (ha : a ∈ attempts)
    {body : List UInt8} (response : a.response = .ok body) :
    attempts.getLast? = some a ∧ Trace.requests run.trace = attempts.map (·.candidate.url) ∧
      ∃ instant, run.result = some (instant, .ok ⟨a.candidate.method, body⟩) := by
  cases ending : run.result with
  | none =>
    -- of a run that never returns, all attempts failed
    obtain ⟨failure, failed, -⟩ := (h.endless ending).failures a ha
    exact nomatch failed.symm.trans response
  | some reached =>
    obtain ⟨history, course, -, result_eq⟩ := h.returned reached.1 reached.2 ending
    obtain ⟨last, ok⟩ := course.outcome_of_body ha response
    refine ⟨last, ?_, reached.1, ?_⟩
    · rw [history.trace_eq]
      exact requests_of_started (course.started_of_ok ok)
    · rw [← ok, ← result_eq]

/-- Without a body, the result is one error for each attempt. -/
theorem Attempted.of_bodiless {run : Run SearchResult} {elapsed : Duration} {result : SearchResult}
    (h : Attempted transport terms m candidates run attempts)
    (bodiless : ∀ a ∈ attempts, ∀ body, a.response ≠ .ok body)
    (returned : run.result = some (elapsed, result)) :
    ∃ errors, result = .error errors ∧ attempts.map (·.error?) = errors.map some := by
  obtain ⟨-, course, -, rfl⟩ := h.returned elapsed result returned
  cases ends : outcome attempts with
  | ok found =>
    -- a body would be that of the last attempt
    obtain ⟨earlier, last, rfl, -, response, -⟩ := course.last_of_ok ends
    exact absurd response (bodiless last (by simp) found.value)
  | error errors => exact ⟨errors, rfl, map_error?_of_outcome ends⟩

/-! ## From one attempt to the next -/

/-- An attempt interrupts iff its failure stops the search. -/
theorem Attempt.interrupts_iff {a : Attempt} {failure : Failure}
    (h : a.response = .error failure) :
    a.Interrupts terms ↔ stopsSearch terms a.finish failure = true := by
  rw [stopsSearch_iff, Attempt.Interrupts, h, Except.error.injEq, Except.error.injEq]

/-- A status, a lost connection, or a failure before the deadline with the token good is no
interruption. -/
theorem Attempt.not_interrupts_of_harmless {a : Attempt} {failure : Failure}
    (response : a.response = .error failure)
    (harmless : (∃ status text, failure = .status status text) ∨
      (∃ detail, failure = .connection detail) ∨
      (a.finish.cancelled = false ∧ ∀ d ∈ terms.deadline, a.finish.now < d)) :
    ¬ a.Interrupts terms := by
  rw [Attempt.Interrupts, response, Except.error.injEq, Except.error.injEq]
  rintro ⟨kind, cause⟩
  rcases harmless with ⟨status, text, rfl⟩ | ⟨detail, rfl⟩ | ⟨good, early⟩
  · simp at kind
  · simp at kind
  · rcases cause with cancelled | ⟨d, hd, reached⟩
    · rw [good] at cancelled
      cases cancelled
    · exact Nat.not_lt_of_le reached (early d hd)

/-- While there are candidates, a search makes an attempt. -/
theorem Course.ne_nil {c : Candidate}
    (h : Course transport terms m (c :: candidates) attempts final) : attempts ≠ [] := by
  cases h <;> simp

/-- While candidates are left, one attempt leads to the next iff it failed and does not interrupt. -/
theorem Course.next_iff (h : Course transport terms m candidates attempts final) {i : Nat}
    {a : Attempt} (ha : attempts[i]? = some a) (more : i + 1 < candidates.length) :
    i + 1 < attempts.length ↔
      (∃ failure, a.response = .error failure) ∧ ¬ a.Interrupts terms := by
  induction h generalizing i with
  | exhausted => simp at ha
  | @answered c m later body rest ends =>
    obtain ⟨rfl, rfl⟩ : i = 0 ∧ a = ⟨c, m, later, .ok body⟩ := by
      cases i <;> simp_all
    simp
  | @stopped c m later failure rest ends stops =>
    obtain ⟨rfl, rfl⟩ : i = 0 ∧ a = ⟨c, m, later, .error failure⟩ := by
      cases i <;> simp_all
    simp [Attempt.interrupts_iff, stops]
  | @failed c m later final failure rest attempts ends goesOn others ih =>
    cases i with
    | zero =>
      obtain rfl : _ = a := Option.some.inj ha
      -- there are candidates left, so another attempt is made
      have others' : attempts ≠ [] := by
        cases rest with
        | nil => simp at more
        | cons => exact others.ne_nil
      have next : 0 < attempts.length := List.length_pos_iff.mpr others'
      simp [Attempt.interrupts_iff, goesOn, next]
    | succ i =>
      simpa using ih (by simpa using ha) (by simpa using more)

/-- A search that gave up before the end of the list was interrupted by its last attempt. -/
theorem Course.interrupted_of_lt (h : Course transport terms m candidates attempts final)
    (failed : outcome attempts = .error errors) (less : errors.length < candidates.length) :
    ∃ (e : NetworkError) (a : Attempt), errors.getLast? = some e ∧ attempts.getLast? = some a ∧
      a.response = .error e.source ∧ a.Interrupts terms := by
  have each := map_error?_of_outcome failed
  have length : attempts.length = errors.length := by simpa using congrArg List.length each
  have nonempty : attempts ≠ [] := by
    cases candidates with
    | nil => simp at less
    | cons => exact h.ne_nil
  have positive : 0 < attempts.length := List.length_pos_iff.mpr nonempty
  obtain ⟨a, last⟩ : ∃ a, attempts.getLast? = some a := ⟨_, List.getLast?_eq_some_getLast nonempty⟩
  have lastError : errors.getLast?.map some = some a.error? := by
    rw [← List.getLast?_map, ← each, List.getLast?_map, last, Option.map_some]
  obtain ⟨e, he, same⟩ := Option.map_eq_some_iff.mp lastError
  obtain ⟨response, -⟩ := Attempt.error?_eq_some_iff.mp same.symm
  -- the last attempt did not lead to another one, so it interrupts
  have index : attempts[attempts.length - 1]? = some a := by
    rw [← List.getLast?_eq_getElem?, last]
  have stuck : ¬ attempts.length - 1 + 1 < attempts.length := by omega
  rw [h.next_iff index (by omega)] at stuck
  refine ⟨e, a, he, last, response, Classical.not_not.mp fun goesOn => ?_⟩
  exact stuck ⟨⟨e.source, response⟩, goesOn⟩

/-- No attempt before the last interrupts. -/
theorem Course.not_interrupts (h : Course transport terms m candidates attempts final) {i : Nat}
    {a : Attempt} (ha : attempts[i]? = some a) (next : i + 1 < attempts.length) :
    ¬ a.Interrupts terms := by
  have bound := h.inOrder.length_le
  rw [List.length_map] at bound
  exact ((h.next_iff ha (Nat.lt_of_lt_of_le next bound)).mp next).2

/-! ## Neither deadline nor token -/

/-- Without a token, every attempt starts and ends with nothing cancelled. -/
theorem Consecutive.good (h : Consecutive transport terms m attempts)
    (token : terms.hasToken = false) (outside : terms.outside = none)
    (good : m.cancelled = false) :
    ∀ a ∈ attempts, a.start.cancelled = false ∧ a.finish.cancelled = false := by
  induction h with
  | nil => simp
  | cons ends _ ih =>
    have later := (steps_of_attempt ends).good token outside good
    intro a ha
    rcases List.mem_cons.mp ha with rfl | ha
    · exact ⟨good, later⟩
    · exact ih later a ha

/-- With neither a deadline nor a token, a search that fails has made a request to each candidate. -/
theorem Course.requests_of_unbounded (h : Course transport terms m candidates attempts final)
    (deadline : terms.deadline = none) (token : terms.hasToken = false)
    (outside : terms.outside = none) (good : m.cancelled = false)
    (failed : outcome attempts = .error errors) :
    Trace.requests (attempts.flatMap (·.events transport terms)) = candidates.map (·.url) := by
  have started := h.consecutive.good token outside good
  have all : attempts.map (·.candidate) = candidates := by
    apply h.inOrder.eq_of_length
    rw [List.length_map]
    rcases Nat.lt_or_eq_of_le h.inOrder.length_le with less | same
    · -- with fewer attempts than candidates the last one interrupts, for which there is no cause
      exfalso
      have length := congrArg List.length (map_error?_of_outcome failed)
      simp only [List.length_map] at less length
      obtain ⟨-, a, -, last, -, -, cancelled | ⟨d, reached, -⟩⟩ :=
        h.interrupted_of_lt failed (length ▸ less)
      · rw [(started a (List.mem_of_getLast? last)).2] at cancelled
        cases cancelled
      · rw [deadline] at reached
        cases reached
    · simpa using same
  rw [requests_of_started fun a ha => (started a ha).1, ← all, List.map_map]
  rfl

/-! ## Retrievals -/

variable {clock : Clock} {options : LookupOptions} {defaultTimeout elapsed : Duration}
  {trace : Trace} {result : SearchResult}

/-- A retrieval that returns has made attempts at the candidates in order. Either it returns the body
of candidate `k`, with which the transport answered request `k`, after `k` failures and `k + 1`
requests. Or it returns one error for each attempt, and made a request for each of them, except that
the last attempt may have found the token cancelled. -/
theorem fetch_first_body_or_every_error
    (returned : fetch clock transport candidates options defaultTimeout =
      ⟨trace, some (elapsed, result)⟩) :
    ∃ attempts,
      History transport (options.termsWithin clock defaultTimeout) (Moment.start options.token)
        candidates trace attempts ∧
      (∀ found, result = .ok found →
        ∃ k, FirstBody transport candidates (Trace.requests trace) attempts found k) ∧
      (∀ errors, result = .error errors →
        EveryError candidates (Trace.requests trace) attempts errors) := by
  obtain ⟨attempts, final, course, rfl, rfl, rfl⟩ := exists_course_of_fetch returned
  refine ⟨attempts, course.history, ?_, ?_⟩
  · intro found ok
    exact course.firstBody rfl ok
  · intro errors failed
    exact course.everyError failed

/-- A reply that cancels the token and then breaks off leaves two errors, but one request. -/
theorem errors_of_call_off_by_reply :
    let transport := Transport.ofReplies [⟨[.sleep 3, .cancel], .fail (.connection "refused")⟩]
    let run := fetch .standard transport [advancedPlace, directPlace] { token := .live none } 0
    let errors := [.ofCandidate advancedPlace (.connection "refused"),
      .ofCandidate directPlace .cancelled]
    run = ⟨run.trace, some (3, .error errors)⟩ ∧
      Trace.requests run.trace = [advancedPlace.url] ∧
      ∃ attempts, EveryError [advancedPlace, directPlace] [advancedPlace.url] attempts errors := by
  intro transport run errors
  have returned : run = ⟨run.trace, some (3, .error errors)⟩ := rfl
  obtain ⟨attempts, -, -, everyError⟩ := fetch_first_body_or_every_error returned
  exact ⟨returned, rfl, attempts, everyError errors rfl⟩

/-- How a retrieval falls back from one candidate to the next. An attempt interrupts if it ended with a
timeout or a cancellation while the token was cancelled or the deadline reached. -/
structure FallsBack (clock : Clock) (transport : Transport) (candidates : List Candidate)
    (options : LookupOptions) (defaultTimeout : Duration) (trace : Trace) (result : SearchResult)
    (attempts : List Attempt) : Prop where
  /-- These are the attempts of which the trace tells. -/
  history : History transport (options.termsWithin clock defaultTimeout) (Moment.start options.token)
    candidates trace attempts
  /-- While candidates are left, an attempt leads to the next iff it failed and did not interrupt. -/
  next_iff : ∀ (i : Nat) (a : Attempt), attempts[i]? = some a → i + 1 < candidates.length →
    (i + 1 < attempts.length ↔ (∃ failure, a.response = .error failure) ∧
      ¬ a.Interrupts (options.termsWithin clock defaultTimeout))
  /-- With fewer errors than candidates, the last error is that of an interruption. -/
  last_of_fewer : ∀ errors, result = .error errors → errors.length < candidates.length →
    ∃ (e : NetworkError) (a : Attempt), errors.getLast? = some e ∧ attempts.getLast? = some a ∧
      a.response = .error e.source ∧ a.Interrupts (options.termsWithin clock defaultTimeout)
  /-- No error before the last is that of an interruption. -/
  before_last : ∀ errors, result = .error errors →
    ∀ (i : Nat) (a : Attempt), i + 1 < errors.length → attempts[i]? = some a →
      ¬ a.Interrupts (options.termsWithin clock defaultTimeout)
  /-- A status, a lost connection, or any failure before the deadline with the token good does not
  stop the search. -/
  goes_on : ∀ (i : Nat) (a : Attempt) (failure : Failure), attempts[i]? = some a →
    i + 1 < candidates.length → a.response = .error failure →
    (∃ status text, failure = .status status text) ∨ (∃ detail, failure = .connection detail) ∨
      (a.finish.cancelled = false ∧
        ∀ d ∈ clock.deadline (effectiveTimeout defaultTimeout options.timeout), a.finish.now < d) →
    i + 1 < attempts.length
  /-- With neither deadline nor token, the candidates are requested until one answers. -/
  all_requested : clock.deadline (effectiveTimeout defaultTimeout options.timeout) = none →
    options.token = .absent →
    (∀ found, result = .ok found →
      ∃ k, FirstBody transport candidates (Trace.requests trace) attempts found k) ∧
    (∀ errors, result = .error errors → Trace.requests trace = candidates.map (·.url))

/-- A retrieval that returns falls back in this way. -/
theorem fetch_goes_on_unless_interrupted
    (returned : fetch clock transport candidates options defaultTimeout =
      ⟨trace, some (elapsed, result)⟩) :
    ∃ attempts, FallsBack clock transport candidates options defaultTimeout trace result attempts := by
  obtain ⟨attempts, final, course, rfl, rfl, rfl⟩ := exists_course_of_fetch returned
  refine ⟨attempts, ?_⟩
  constructor
  case history => exact course.history
  case next_iff =>
    intro i a ha more
    exact course.next_iff ha more
  case last_of_fewer =>
    intro errors failed fewer
    exact course.interrupted_of_lt failed fewer
  case before_last =>
    intro errors failed i a next ha
    have length : attempts.length = errors.length := by
      simpa using congrArg List.length (map_error?_of_outcome failed)
    exact course.not_interrupts ha (length ▸ next)
  case goes_on =>
    intro i a failure ha more response harmless
    rw [← deadline_termsWithin] at harmless
    exact (course.next_iff ha more).mpr
      ⟨⟨failure, response⟩, Attempt.not_interrupts_of_harmless response harmless⟩
  case all_requested =>
    intro deadline token
    refine ⟨fun found ok => course.firstBody rfl ok, ?_⟩
    intro errors failed
    have absent : options.termsWithin clock defaultTimeout = ⟨none, false, none⟩ := by
      rw [LookupOptions.termsWithin, deadline, token, Terms.of]
    have good : (Moment.start options.token).cancelled = false := by
      rw [token]
      rfl
    exact course.requests_of_unbounded (by rw [absent]) (by rw [absent]) (by rw [absent]) good
      failed

/-- The transport's own timeout leads on to the next candidate, but that of the retrieval does not:
the last two candidates are never tried. -/
theorem interrupted_by_second_timeout :
    let transport := Transport.ofReplies [⟨[.sleep 3], .fail .timeout⟩]
    let candidates := [advancedPlace, directPlace, advancedPlace, directPlace]
    let run := fetch .standard transport candidates { timeout := some 5 } 0
    run = ⟨run.trace, some (5, .error [.ofCandidate advancedPlace .timeout,
        .ofCandidate directPlace .timeout])⟩ ∧
      ∃ attempts a, History transport ⟨some 5, false, none⟩ ⟨0, false, 0⟩ candidates run.trace
          attempts ∧
        attempts.getLast? = some a ∧ a.Interrupts ⟨some 5, false, none⟩ := by
  intro transport candidates run
  have returned : run = ⟨run.trace, some (5, .error [.ofCandidate advancedPlace .timeout,
      .ofCandidate directPlace .timeout])⟩ := rfl
  obtain ⟨attempts, fallsBack⟩ := fetch_goes_on_unless_interrupted returned
  obtain ⟨-, a, -, last, -, interrupts⟩ := fallsBack.last_of_fewer _ rfl (by decide)
  exact ⟨returned, attempts, a, fallsBack.history, last, interrupts⟩

end KeyDirectory
