import KeyDirectory.Retrieval.Log
import KeyDirectory.Transport.Reply

/-!
# Waiting

Time moves only when everything waits. A wait ends at the first of three instants: when the other
side goes on, when the deadline is reached, and when someone outside cancels the token. At one
instant the other side comes first and the one outside last. A deadline that is reached before the
wait, or a token that is cancelled, ends it at once.
-/

namespace KeyDirectory

/-- What does not change during a retrieval. -/
structure Terms where
  /-- The instant by which the retrieval has to end. -/
  deadline : Option Duration
  /-- Whether there is a token to cancel. -/
  hasToken : Bool
  /-- When someone outside cancels the token. -/
  outside : Option Duration
deriving DecidableEq, Repr

/-- Where a retrieval stands. -/
structure Moment where
  now : Duration
  /-- Whether the token is cancelled. -/
  cancelled : Bool
  /-- The number of requests started. -/
  requests : Nat
deriving DecidableEq, Repr

inductive Wake where
  /-- The other side goes on. -/
  | ready
  | timeout
  | cancelled
deriving DecidableEq, Repr

/-- The first of two instants to come; of equal ones, the one on the left. -/
def sooner (a b : Option (Duration × Wake)) : Option (Duration × Wake) :=
  match a, b with
  | some a, some b => if b.1 < a.1 then some b else some a
  | some a, none => some a
  | none, b => b

/-- Waits until the other side goes on at `resume`, or for ever. -/
def wait (terms : Terms) (m : Moment) (resume : Option Duration) : Option (Wake × Moment) :=
  if terms.deadline.any (· ≤ m.now) then some (.timeout, m)
  else if m.cancelled || terms.outside.any (· ≤ m.now) then
    some (.cancelled, { m with cancelled := true })
  else
    let next :=
      sooner (sooner (resume.map (·, .ready)) (terms.deadline.map (·, .timeout)))
        (terms.outside.map (·, .cancelled))
    next.map fun (instant, wake) =>
      (wake, { m with now := instant, cancelled := wake = .cancelled })

end KeyDirectory
