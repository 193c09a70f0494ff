import KeyDirectory.Key.Basic
import Mathlib.Data.List.Infix

/-!
# Filters on keyrings

A filter looks at each key by itself. So filters that follow each other leave the keys that pass all of
them, in the order of the keyring (`left_eq_filter`), and it only matters which filters there are, not
in which order or how often they come (`left_congr`).

The filter against expired keys asks less than validity does, even of a key that was created: it lets a
key through at the instant of its expiration, when its life is over. That is the only instant at which
the two differ (`passes_iff_isValidAt_iff`).
-/

namespace KeyDirectory

variable {now : Int} {key : Key}

/-! ## Expiration -/

/-- A key is valid from its creation on, until it expires. -/
theorem Key.isValidAt_iff :
    key.isValidAt now = true ↔ key.created ≤ now ∧ ∀ e ∈ key.expires, now < e := by
  rw [Key.isValidAt]
  cases key.expires <;> simp

/-- A key has not expired up to the very instant of its expiration. -/
theorem Key.isExpired_eq_false_iff : key.isExpired now = false ↔ ∀ e ∈ key.expires, now ≤ e := by
  rw [Key.isExpired]
  cases key.expires <;> simp

namespace KeyFilter

variable {f : KeyFilter} {keys : List Key} {filters filters' : List KeyFilter}

theorem passes_excludeRevoked_iff (now : Int) :
    excludeRevoked.passes now key = true ↔ key.revoked = false := by
  rw [passes, Bool.not_eq_true']

theorem passes_excludeExpired_iff :
    excludeExpired.passes now key = true ↔ ∀ e ∈ key.expires, now ≤ e := by
  rw [passes, Bool.not_eq_true', Key.isExpired_eq_false_iff]

/-- Of a key that was created, the filter and validity say the same, unless it expires right now. -/
theorem passes_iff_isValidAt_iff (created : key.created ≤ now) :
    (excludeExpired.passes now key = true ↔ key.isValidAt now = true) ↔ key.expires ≠ some now := by
  rw [passes_excludeExpired_iff, Key.isValidAt_iff, and_iff_right created]
  cases key.expires with
  | none => simp
  | some e =>
    simp only [Option.mem_some_iff, forall_eq', ne_eq, Option.some.injEq]
    omega

/-! ## Filters one after another -/

/-- The keys that are left after filters that follow each other. -/
def left (now : Int) (keys : List Key) (filters : List KeyFilter) : List Key :=
  filters.foldl (fun keys f => f.apply now keys) keys

theorem left_cons (now : Int) (keys : List Key) (f : KeyFilter) (filters : List KeyFilter) :
    left now keys (f :: filters) = left now (f.apply now keys) filters := rfl

/-- What is listed for each filter is what is left after the filters up to it. -/
theorem applyEach_eq_map_left (now : Int) (keys : List Key) (filters : List KeyFilter) :
    applyEach now keys filters = filters.inits.tail.map (left now keys) := by
  induction filters generalizing keys with
  | nil => rfl
  | cons f filters ih =>
    have first : filters.inits = [] :: filters.inits.tail := by
      cases filters with
      | nil => rfl
      | cons f filters => rw [List.inits_cons, List.tail_cons]
    have later : left now keys ∘ (f :: ·) = left now (f.apply now keys) := rfl
    rw [applyEach, ih, List.inits_cons, List.tail_cons, List.map_map, later, first]
    rfl

/-- Keys that are left after filters have passed all of them. -/
theorem left_eq_filter (now : Int) (keys : List Key) (filters : List KeyFilter) :
    left now keys filters = keys.filter fun key => filters.all (·.passes now key) := by
  induction filters generalizing keys with
  | nil => simp [left]
  | cons f filters ih =>
    rw [left_cons, ih, apply, List.filter_filter]
    simp only [List.all_cons, Bool.and_comm]

/-- Of each filter it only matters whether it occurs. -/
theorem all_passes_iff :
    filters.all (·.passes now key) = true ↔
      (excludeRevoked ∈ filters → key.revoked = false) ∧
        (excludeExpired ∈ filters → ∀ e ∈ key.expires, now ≤ e) := by
  rw [List.all_eq_true, ← passes_excludeRevoked_iff now, ← passes_excludeExpired_iff]
  constructor
  · intro all
    exact ⟨all excludeRevoked, all excludeExpired⟩
  · rintro ⟨revoked, expired⟩ f mem
    cases f with
    | excludeRevoked => exact revoked mem
    | excludeExpired => exact expired mem

/-- The order and the repetition of filters make no difference. -/
theorem left_congr (same : ∀ f, f ∈ filters ↔ f ∈ filters') :
    left now keys filters = left now keys filters' := by
  rw [left_eq_filter, left_eq_filter]
  apply List.filter_congr
  intro key _
  rw [Bool.eq_iff_iff, all_passes_iff, all_passes_iff, same, same]

theorem mem_left_singleton_iff : key ∈ left now keys [f] ↔ key ∈ keys ∧ f.passes now key = true :=
  List.mem_filter

/-- Filters that follow each other leave, of any keyring and after each of them, the keys that pass
those which occur, in the order of the keyring; their order and their number are of no effect. A key
that was created survives the filter against expired keys if and only if it is valid, at any instant
but that of its expiration. -/
theorem filters_leave (now : Int) (keys : List Key) (filters : List KeyFilter) :
    applyEach now keys filters = filters.inits.tail.map (left now keys) ∧
    left now keys filters = keys.filter (fun key =>
      (excludeRevoked ∈ filters → key.revoked = false) ∧
        (excludeExpired ∈ filters → ∀ e ∈ key.expires, now ≤ e)) ∧
    (∀ filters', (∀ f, f ∈ filters ↔ f ∈ filters') →
      left now keys filters = left now keys filters') ∧
    ∀ key ∈ keys, key.created ≤ now →
      ((key ∈ left now keys [excludeExpired] ↔ key.isValidAt now = true) ↔
        key.expires ≠ some now) := by
  refine ⟨applyEach_eq_map_left now keys filters, ?_, fun filters' => left_congr, ?_⟩
  · rw [left_eq_filter]
    apply List.filter_congr
    intro key _
    rw [Bool.eq_iff_iff, all_passes_iff, decide_eq_true_eq]
  · intro key mem created
    rw [mem_left_singleton_iff, and_iff_right mem]
    exact passes_iff_isValidAt_iff created

/-- Before 1970, filters in either order, and a key that is valid for one second more. -/
theorem filters_leave_before_1970 :
    let key : Key := { fingerprint := "A", created := -9, expires := some (-4) }
    let revoked : Key := { fingerprint := "B", created := -9, revoked := true }
    let expired : Key := { fingerprint := "C", created := -9, expires := some (-6) }
    let keys := [revoked, key, expired, key]
    left (-5) keys [excludeExpired, excludeRevoked, excludeExpired] = [key, key] ∧
      left (-5) keys [excludeRevoked, excludeExpired] = [key, key] ∧
      key ∈ keys ∧ key.created ≤ -5 ∧
      (key ∈ left (-5) keys [excludeExpired] ↔ key.isValidAt (-5) = true) := by
  intro key revoked expired keys
  obtain ⟨-, kept, order, agree⟩ :=
    filters_leave (-5) keys [excludeExpired, excludeRevoked, excludeExpired]
  have same := order [excludeRevoked, excludeExpired] (by rintro (_ | _) <;> decide)
  have both : left (-5) keys [excludeExpired, excludeRevoked, excludeExpired] = [key, key] := by
    rw [kept]
    decide
  refine ⟨both, by rw [← same, both], by decide, by decide, ?_⟩
  exact (agree key (by decide) (by decide)).mpr (by decide)

/-- At the instant of its expiration a key passes the filter, and is not valid. -/
theorem left_at_expiration :
    let key : Key := { fingerprint := "K", created := 1000, expires := some 32503680000 }
    key.created ≤ 32503680000 ∧ key.isExpired 32503680000 = false ∧
      key ∈ left 32503680000 [key] [excludeExpired] ∧ key.isValidAt 32503680000 = false := by
  decide

end KeyFilter

end KeyDirectory
