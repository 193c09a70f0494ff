import KeyDirectory.Lookup.Error
import KeyDirectory.Retrieval.Wait

/-!
# Retrieval

The candidates are tried one after another, and the first body ends the search. Each failure is kept,
in order. One deadline and one token govern all attempts: an attempt that either of them interrupts is
the last.
-/

namespace KeyDirectory

structure Retrieved (α : Type) where
  method : Method
  value : α
deriving DecidableEq, Repr

/-- Carries the method over to a value made from the value. -/
def Retrieved.map {α β : Type} (f : α → β) (r : Retrieved α) : Retrieved β :=
  ⟨r.method, f r.value⟩

/-- What a caller asks of one lookup. -/
structure LookupOptions where
  /-- The span that bounds the lookup, if it is shorter than the client's own. -/
  timeout : Option Duration := none
  token : Token := .absent
deriving DecidableEq, Repr

/-- A part of a retrieval: what happens in it, and where it leads, unless it never ends. -/
structure Episode (α : Type) where
  trace : Trace
  ending : Option (Moment × α)

namespace Episode

variable {α : Type}

/-- A part that ends at once. -/
def ofValue (m : Moment) (a : α) : Episode α :=
  ⟨[], some (m, a)⟩

/-- Puts what happens before a part in front of it. -/
def after (earlier : Trace) (e : Episode α) : Episode α :=
  { e with trace := earlier ++ e.trace }

end Episode

/-- The event that the token is cancelled between two moments, if it is. -/
def cancelledBetween (before after : Moment) : Trace :=
  if !before.cancelled && after.cancelled then [(after.now, .cancelled)] else []

/-- The result of a request: a body, or why there is none. -/
abbrev Response := Except Failure (List UInt8)

/-- An attempt that a wait ended before the other side went on. -/
def interrupted (before after : Moment) (failure : Failure) : Episode Response :=
  ⟨cancelledBetween before after, some (after, .error failure)⟩

/-- Follows a reply step by step. A sleep of no length is not a wait. -/
def followSteps (terms : Terms) (ending : Ending) (m : Moment) : List ReplyStep → Episode Response
  | [] =>
    match ending with
    | .answer body => .ofValue m (.ok body)
    | .fail failure => .ofValue m (.error failure)
    | .hang =>
      match wait terms m none with
      | none | some (.ready, _) => ⟨[], none⟩
      | some (.timeout, later) => interrupted m later .timeout
      | some (.cancelled, later) => interrupted m later .cancelled
  | .cancel :: rest =>
    let later := { m with cancelled := m.cancelled || terms.hasToken }
    (followSteps terms ending later rest).after (cancelledBetween m later)
  | .sleep span :: rest =>
    if span = 0 then followSteps terms ending m rest
    else
      match wait terms m (some (m.now + span)) with
      | none => ⟨[], none⟩
      | some (.ready, later) => followSteps terms ending later rest
      | some (.timeout, later) => interrupted m later .timeout
      | some (.cancelled, later) => interrupted m later .cancelled

/-- Tries one candidate. With the token cancelled beforehand, no request is started. -/
def attempt (transport : Transport) (terms : Terms) (c : Candidate) (m : Moment) :
    Episode Response :=
  if m.cancelled then .ofValue m (.error .cancelled)
  else
    let reply := transport m.requests c.url
    (followSteps terms reply.ending { m with requests := m.requests + 1 } reply.steps).after
      [(m.now, .requested c.url)]

def Terms.deadlineReached (terms : Terms) (m : Moment) : Bool :=
  terms.deadline.any (· ≤ m.now)

/-- Whether a failed attempt ends the search: it was interrupted, and not by the transport alone. -/
def stopsSearch (terms : Terms) (m : Moment) (failure : Failure) : Bool :=
  (failure = .timeout || failure = .cancelled) && (m.cancelled || terms.deadlineReached m)

/-- The result of a search: the first body, or one error for each attempt. -/
abbrev SearchResult := Except (List NetworkError) (Retrieved (List UInt8))

def search (transport : Transport) (terms : Terms) (m : Moment) :
    List Candidate → Episode SearchResult
  | [] => .ofValue m (.error [])
  | c :: rest =>
    let opening : Trace := [(m.now, .log (.requesting c.method c.url))]
    let tried := attempt transport terms c m
    match tried.ending with
    | none => ⟨opening ++ tried.trace, none⟩
    | some (later, .ok body) =>
      let closing : Trace := [(later.now, .log (.retrieved c.method c.url body.length))]
      ⟨opening ++ tried.trace ++ closing, some (later, .ok ⟨c.method, body⟩)⟩
    | some (later, .error failure) =>
      let error := NetworkError.ofCandidate c failure
      let closing : Trace := [(later.now, .log (.failed c.fallbackMessage c.url failure))]
      let earlier := opening ++ tried.trace ++ closing
      if stopsSearch terms later failure then ⟨earlier, some (later, .error [error])⟩
      else
        let others := search transport terms later rest
        ⟨earlier ++ others.trace,
          others.ending.map fun (final, result) =>
            (final, result.mapError fun errors => error :: errors)⟩

/-- The terms of a retrieval that is to end by `deadline`. -/
def Terms.of (deadline : Option Duration) : Token → Terms
  | .absent => ⟨deadline, false, none⟩
  | .cancelled => ⟨deadline, true, none⟩
  | .live outside => ⟨deadline, true, outside⟩

def Moment.start (token : Token) : Moment :=
  ⟨0, token = .cancelled, 0⟩

/-- Retrieves the first body that a candidate has, within the smaller of the two timeouts as far as
the clock can tell when it is over. -/
def fetch (clock : Clock) (transport : Transport) (candidates : List Candidate)
    (options : LookupOptions) (defaultTimeout : Duration) : Run SearchResult :=
  let timeout := effectiveTimeout defaultTimeout options.timeout
  let terms := Terms.of (clock.deadline timeout) options.token
  let e := search transport terms (Moment.start options.token) candidates
  ⟨e.trace, e.ending.map fun (m, result) => (m.now, result)⟩

end KeyDirectory
