import KeyDirectory.Proofs.Retrieval.Fallback

/-!
# More time never loses an answer

Terms are looser than others when their bounds come later or not at all (`Terms.Looser`). A search that
finds a body has met none of its bounds, so under looser terms it goes the same way in lock step: the
moments of the two runs agree, except that the token may be cancelled in the bounded run alone
(`Moment.Alike`). One lemma for each part of a search carries this on: `Moment.Alike.wait_ready`,
`Followed.loosen`, `attempt_loosen`, `Course.loosen`. What it means for timeouts and tokens is said by
`fetch_granted_more_time`.
-/

namespace KeyDirectory

/-- Every bound of the looser terms comes after one of the other terms. -/
structure Terms.Looser (terms loose : Terms) : Prop where
  deadline : ∀ d' ∈ loose.deadline, ∃ d ∈ terms.deadline, d ≤ d'
  outside : ∀ n' ∈ loose.outside, ∃ n ∈ terms.outside, n ≤ n'
  token : loose.hasToken = true → terms.hasToken = true

/-- The moment of a bounded run and the one of a looser run. -/
structure Moment.Alike (m m' : Moment) : Prop where
  now : m'.now = m.now
  requests : m'.requests = m.requests
  cancelled : m'.cancelled = true → m.cancelled = true

variable {transport : Transport} {terms loose : Terms} {m m' later final : Moment}
  {ending : Ending} {steps : List ReplyStep} {e : Episode Response} {response : Response}
  {failure : Failure} {c : Candidate} {candidates : List Candidate} {attempts : List Attempt}
  {found : Retrieved (List UInt8)}

/-- As long as the bounded run may go on, so may the looser one. -/
theorem Moment.Alike.good (alike : m.Alike m') (h : m.cancelled = false) :
    m'.cancelled = false := by
  cases h' : m'.cancelled with
  | false => rfl
  | true =>
    rw [alike.cancelled h'] at h
    cases h

/-! ## In lock step -/

/-- What ends before the bounds ends before the looser ones. -/
theorem Terms.Looser.le (looser : terms.Looser loose) {t : Duration}
    (deadline : ∀ d ∈ terms.deadline, t ≤ d) (outside : ∀ n ∈ terms.outside, t ≤ n) :
    (∀ d' ∈ loose.deadline, t ≤ d') ∧ (∀ n' ∈ loose.outside, t ≤ n') := by
  constructor
  · intro d' hd'
    obtain ⟨d, hd, le⟩ := looser.deadline d' hd'
    exact Nat.le_trans (deadline d hd) le
  · intro n' hn'
    obtain ⟨n, hn, le⟩ := looser.outside n' hn'
    exact Nat.le_trans (outside n hn) le

/-- A moment that can still wait can do so under looser terms. -/
theorem Moment.Alike.isOpen (alike : m.Alike m') (looser : terms.Looser loose)
    (h : m.Open terms) : m'.Open loose := by
  -- `m.now < d` is `m.now + 1 ≤ d`
  obtain ⟨deadline, outside⟩ := looser.le (t := m.now + 1) h.deadline h.outside
  exact ⟨alike.good h.good, alike.now ▸ deadline, alike.now ▸ outside⟩

/-- A wait that the other side ends is ended by it under looser terms too. -/
theorem Moment.Alike.wait_ready (alike : m.Alike m') (looser : terms.Looser loose) {span : Duration}
    (waits : wait terms m (some (m.now + span)) = some (.ready, later)) :
    ∃ later', wait loose m' (some (m'.now + span)) = some (.ready, later') ∧
      later.Alike later' := by
  obtain ⟨isOpen, t, ht, deadline, outside, rfl⟩ := wait_eq_ready_iff.mp waits
  obtain ⟨deadline', outside'⟩ := looser.le deadline outside
  refine ⟨{ m' with now := t }, ?_, rfl, alike.requests, alike.cancelled⟩
  exact wait_eq_ready_iff.mpr
    ⟨alike.isOpen looser isOpen, t, alike.now ▸ ht, deadline', outside', rfl⟩

/-- What does not stop a search does not stop it under looser terms. -/
theorem stopsSearch_loosen (looser : terms.Looser loose) (alike : m.Alike m')
    (goesOn : stopsSearch terms m failure = false) : stopsSearch loose m' failure = false := by
  cases stops : stopsSearch loose m' failure with
  | false => rfl
  | true =>
    obtain ⟨kind, cause⟩ := stopsSearch_iff.mp stops
    have stops : stopsSearch terms m failure = true := by
      refine stopsSearch_iff.mpr ⟨kind, ?_⟩
      rcases cause with cancelled | ⟨d', hd', reached⟩
      · exact .inl (alike.cancelled cancelled)
      · obtain ⟨d, hd, le⟩ := looser.deadline d' hd'
        exact .inr ⟨d, hd, Nat.le_trans le (alike.now ▸ reached)⟩
    rw [goesOn] at stops
    cases stops

/-- A reply that was not interrupted ends in the same way under looser terms. -/
theorem Followed.loosen (h : Followed terms ending m steps e) (looser : terms.Looser loose)
    (alike : m.Alike m') (ends : e.ending = some (later, response))
    (goesOn : Uninterrupted terms later response) :
    ∃ later', (followSteps loose ending m' steps).ending = some (later', response) ∧
      later.Alike later' := by
  induction h generalizing m' with
  | answered h | failed h =>
    obtain ⟨rfl, rfl⟩ := Prod.mk.inj (Option.some.inj ends)
    exact ⟨m', by simp [followSteps, h, Episode.ofValue], alike⟩
  | endless => cases ends
  | hung _ waits cause | roused _ waits cause =>
    -- the bound that ended the wait would have stopped the search
    obtain ⟨rfl, rfl⟩ := Prod.mk.inj (Option.some.inj ends)
    have goesOn := goesOn _ rfl
    rw [stopsSearch_of_wait waits cause] at goesOn
    cases goesOn
  | cancel _ ih =>
    refine ih ⟨alike.now, alike.requests, ?_⟩ ends
    simp only [Bool.or_eq_true]
    exact Or.imp alike.cancelled looser.token
  | skip _ ih =>
    obtain ⟨later', ends', alike'⟩ := ih alike ends
    exact ⟨later', by simpa [followSteps] using ends', alike'⟩
  | slept long waits _ ih =>
    obtain ⟨next, waits', alike⟩ := alike.wait_ready looser waits
    obtain ⟨later', ends', alike'⟩ := ih alike ends
    exact ⟨later', by simpa [followSteps, long, waits'] using ends', alike'⟩

/-- An attempt that was not interrupted ends in the same way under looser terms. -/
theorem attempt_loosen (looser : terms.Looser loose) (alike : m.Alike m')
    (ends : (attempt transport terms c m).ending = some (later, response))
    (goesOn : Uninterrupted terms later response) :
    ∃ later', (attempt transport loose c m').ending = some (later', response) ∧
      later.Alike later' := by
  have good := goesOn.good ends
  have started : ({ m with requests := m.requests + 1 } : Moment).Alike
      { m' with requests := m.requests + 1 } :=
    ⟨alike.now, rfl, alike.cancelled⟩
  rw [attempt_of_good good] at ends
  rw [attempt_of_good (alike.good good), alike.requests]
  exact (followed ..).loosen looser started ends goesOn

/-- A search that finds a body goes the same way under looser terms. -/
theorem Course.loosen (h : Course transport terms m candidates attempts final)
    (looser : terms.Looser loose) (alike : m.Alike m') (ok : outcome attempts = .ok found) :
    ∃ attempts' final', Course transport loose m' candidates attempts' final' ∧
      outcome attempts' = .ok found ∧ attempts'.length = attempts.length ∧
      final'.now = final.now := by
  -- the moments after an attempt are alike again, but the looser one varies with the run
  induction h generalizing m' found with
  | exhausted => cases ok
  | answered ends =>
    obtain ⟨later', ends', alike'⟩ := attempt_loosen looser alike ends nofun
    exact ⟨_, later', .answered ends', ok, rfl, alike'.now⟩
  | stopped => cases ok
  | @failed c m later final failure rest attempts ends goesOn others ih =>
    rw [outcome_cons_eq_ok_iff rfl] at ok
    obtain ⟨later', ends', alike'⟩ :=
      attempt_loosen looser alike ends (uninterrupted_of_error goesOn)
    obtain ⟨attempts', final', others', ok', length, now⟩ := ih alike' ok
    refine ⟨_, final', .failed ends' (stopsSearch_loosen looser alike' goesOn) others', ?_, ?_, now⟩
    · rwa [outcome_cons_eq_ok_iff rfl]
    · rw [List.length_cons, List.length_cons, length]

/-- A search that finds a body makes the same requests under looser terms. -/
theorem Course.requests_loosen {attempts' : List Attempt} {final' : Moment}
    (h : Course transport terms m candidates attempts final)
    (h' : Course transport loose m' candidates attempts' final') (first : m.requests = 0)
    (alike : m.Alike m') (ok : outcome attempts = .ok found) (ok' : outcome attempts' = .ok found)
    (length : attempts'.length = attempts.length) :
    Trace.requests (attempts'.flatMap (·.events transport loose)) =
      Trace.requests (attempts.flatMap (·.events transport terms)) := by
  obtain ⟨k, bounded⟩ := h.firstBody first ok
  obtain ⟨k', loosened⟩ := h'.firstBody (alike.requests.trans first) ok'
  -- as many attempts find the body at the same candidate
  obtain rfl : k' = k := by
    have same := length
    rw [loosened.length_eq, bounded.length_eq] at same
    exact Nat.succ.inj same
  rw [bounded.requests_eq, loosened.requests_eq]

/-! ## Timeouts and tokens -/

variable {options options' : LookupOptions} {defaultTimeout defaultTimeout' t : Duration}

/-- A later timeout has a later deadline, or none. -/
theorem Clock.deadline_later (clock : Clock) {timeout timeout' : Option Duration}
    (later : ∀ d' ∈ timeout', ∃ d ∈ timeout, d ≤ d') :
    ∀ d' ∈ clock.deadline timeout', ∃ d ∈ clock.deadline timeout, d ≤ d' := by
  intro d' hd'
  obtain ⟨mem, shown⟩ := Clock.mem_deadline_iff.mp hd'
  obtain ⟨d, hd, le⟩ := later d' mem
  exact ⟨d, Clock.mem_deadline_iff.mpr ⟨hd, Nat.le_trans le shown⟩, le⟩

/-- A later deadline, with the same token or without it, makes looser terms. -/
theorem Terms.Looser.of {deadline deadline' : Option Duration} {token token' : Token}
    (later : ∀ d' ∈ deadline', ∃ d ∈ deadline, d ≤ d')
    (same : token' = token ∨ token' = .absent) :
    (Terms.of deadline token).Looser (Terms.of deadline' token') := by
  rcases same with rfl | rfl
  · cases token' with
    | absent | cancelled | live => exact ⟨later, fun n hn => ⟨n, hn, Nat.le_refl n⟩, id⟩
  · cases token with
    | absent | cancelled | live => exact ⟨later, nofun, nofun⟩

/-- Two retrievals start at alike moments. -/
theorem Moment.Alike.start {token token' : Token} (same : token' = token ∨ token' = .absent) :
    (Moment.start token).Alike (Moment.start token') := by
  refine ⟨rfl, rfl, ?_⟩
  rcases same with rfl | rfl
  · exact id
  · nofun

/-- A requested timeout no shorter than the default changes nothing. -/
theorem effectiveTimeout_of_le (set : defaultTimeout ≠ 0) (le : defaultTimeout ≤ t) :
    effectiveTimeout defaultTimeout (some t) = effectiveTimeout defaultTimeout none := by
  simp [effectiveTimeout, set, Nat.min_eq_left le]

/-- A default of zero leaves what is requested. -/
@[simp] theorem effectiveTimeout_zero (requested : Option Duration) :
    effectiveTimeout 0 requested = requested := by
  simp [effectiveTimeout]

/-- More time never loses an answer. What a retrieval finds, it also finds under a later timeout or
none, and with the same token or none: the same body, after the same requests, at the same instant.
As for the settings, a requested timeout no shorter than the client's changes nothing, and a client
without one leaves what is requested. -/
theorem fetch_granted_more_time (clock : Clock) (transport : Transport)
    (candidates : List Candidate) :
    (∀ (options options' : LookupOptions) (defaultTimeout defaultTimeout' elapsed : Duration)
        (trace : Trace) (found : Retrieved (List UInt8)),
      fetch clock transport candidates options defaultTimeout = ⟨trace, some (elapsed, .ok found)⟩ →
      (∀ d' ∈ effectiveTimeout defaultTimeout' options'.timeout,
        ∃ d ∈ effectiveTimeout defaultTimeout options.timeout, d ≤ d') →
      options'.token = options.token ∨ options'.token = .absent →
      ∃ trace',
        fetch clock transport candidates options' defaultTimeout' =
          ⟨trace', some (elapsed, .ok found)⟩ ∧
        Trace.requests trace' = Trace.requests trace) ∧
    (∀ (options : LookupOptions) (defaultTimeout t : Duration),
      defaultTimeout ≠ 0 → defaultTimeout ≤ t →
      fetch clock transport candidates { options with timeout := some t } defaultTimeout =
        fetch clock transport candidates { options with timeout := none } defaultTimeout) ∧
    (∀ requested, effectiveTimeout 0 requested = requested) ∧
    (∀ (options : LookupOptions) (t : Duration), t ≠ 0 →
      fetch clock transport candidates { options with timeout := some t } 0 =
        fetch clock transport candidates { options with timeout := none } t) := by
  refine ⟨?_, ?_, effectiveTimeout_zero, ?_⟩
  · intro options options' defaultTimeout defaultTimeout' elapsed trace found returned later token
    obtain ⟨attempts, final, course, rfl, rfl, ok⟩ := exists_course_of_fetch returned
    have looser : (options.termsWithin clock defaultTimeout).Looser
        (options'.termsWithin clock defaultTimeout') := .of (clock.deadline_later later) token
    have alike := Moment.Alike.start token
    obtain ⟨attempts', final', course', ok', length, now⟩ := course.loosen looser alike ok.symm
    refine ⟨_, ?_, course.requests_loosen course' rfl alike ok.symm ok' length⟩
    rw [fetch_eq_of_course course', ok', now]
  · intro options defaultTimeout t set le
    simp only [fetch, effectiveTimeout_of_le set le]
  · intro options t set
    simp [fetch, effectiveTimeout, set]

/-- A place that fails at the very deadline, with the other place answering at once, is still passed
over with more time. -/
theorem found_at_deadline_and_later :
    let transport := Transport.ofReplies
      [⟨[.sleep 3], .fail (.connection "reset")⟩, ⟨[], .answer []⟩]
    let run := fetch .standard transport [advancedPlace, directPlace]
      { timeout := some 3, token := .live none } 0
    run = ⟨run.trace, some (3, .ok ⟨.direct, []⟩)⟩ ∧
      ∃ trace, fetch .standard transport [advancedPlace, directPlace] { timeout := some 10 } 7 =
          ⟨trace, some (3, .ok ⟨.direct, []⟩)⟩ ∧
        Trace.requests trace = [advancedPlace.url, directPlace.url] := by
  intro transport run
  have returned : run = ⟨run.trace, some (3, .ok ⟨.direct, []⟩)⟩ := rfl
  obtain ⟨moreTime, -⟩ :=
    fetch_granted_more_time .standard transport [advancedPlace, directPlace]
  exact ⟨returned, moreTime _ { timeout := some 10 } 0 7 3 run.trace ⟨.direct, []⟩ returned
    (by decide) (.inr rfl)⟩

end KeyDirectory
