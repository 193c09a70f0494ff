/-!
# Results carried over

What a result was before its value or its error was mapped. The readers pass their results on in this
way, so that each step of a proof goes back through one map. Of two results in a row the first error
is the error of both (`mapM_pair`).
-/

namespace KeyDirectory

variable {ε ε' α β : Type} {x : Except ε α}

theorem exists_of_isOk (h : x.isOk = true) : ∃ a, x = .ok a := by
  cases x with
  | ok a => exact ⟨a, rfl⟩
  | error e => contradiction

theorem map_eq_ok_iff {f : α → β} {b : β} : x.map f = .ok b ↔ ∃ a, x = .ok a ∧ f a = b := by
  cases x with
  | ok a =>
    constructor
    · rintro ⟨⟩
      exact ⟨a, rfl, rfl⟩
    · rintro ⟨_, ⟨⟩, rfl⟩
      rfl
  | error e => exact ⟨nofun, nofun⟩

theorem map_eq_error_iff {f : α → β} {e : ε} : x.map f = .error e ↔ x = .error e := by
  cases x with
  | ok a => exact ⟨nofun, nofun⟩
  | error e' =>
    constructor
    · rintro ⟨⟩
      rfl
    · rintro ⟨⟩
      rfl

theorem mapError_eq_error_iff {f : ε → ε'} {e' : ε'} :
    x.mapError f = .error e' ↔ ∃ e, x = .error e ∧ f e = e' := by
  cases x with
  | ok a => exact ⟨nofun, nofun⟩
  | error e =>
    constructor
    · rintro ⟨⟩
      exact ⟨e, rfl, rfl⟩
    · rintro ⟨_, ⟨⟩, rfl⟩
      rfl

theorem mapM_pair (f : α → Except ε β) (a a' : α) :
    [a, a'].mapM f = (f a).bind fun b => (f a').map fun b' => [b, b'] := by
  rw [List.mapM_cons, List.mapM_cons, List.mapM_nil]
  cases f a with
  | error e => rfl
  | ok b => cases f a' <;> rfl

end KeyDirectory
