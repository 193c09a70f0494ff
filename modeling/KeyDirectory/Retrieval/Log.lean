import KeyDirectory.Location
import KeyDirectory.Retrieval.Timeout
import KeyDirectory.Transport.Failure

/-!
# What a lookup leaves behind

A lookup starts requests, writes log lines, and sees its token cancelled, each at some instant. Its
trace holds all of that in order, and its result comes with the instant of its end, unless it never
ends.
-/

namespace KeyDirectory

inductive LogLine where
  /-- An attempt begins. -/
  | requesting (method : Method) (url : Url)
  /-- An attempt brought a body of `size` bytes. -/
  | retrieved (method : Method) (url : Url) (size : Nat)
  /-- An attempt failed. -/
  | failed (fallbackMessage : String) (url : Url) (source : Failure)
  /-- Lines of a policy file were skipped. -/
  | malformedLines (domain : String) (count : Nat)
  /-- A discovered key was rejected. -/
  | rejectedKey (fingerprint address reason : String)
deriving DecidableEq, Repr

namespace LogLine

/-- Whether a line is a warning; other lines are for debugging. -/
def isWarning : LogLine → Bool
  | .failed .. => true
  | _ => false

def message : LogLine → String
  | .requesting method url => s!"{method.name} method: requesting {url.toText}"
  | .retrieved method url size =>
    s!"{method.name} method: retrieved {size} bytes from {url.toText}"
  | .failed fallbackMessage url source => s!"{fallbackMessage} {url.toText}: {source.message}"
  | .malformedLines domain count => s!"Policy file of {domain} has {count} malformed lines"
  | .rejectedKey fingerprint address reason =>
    s!"Rejected key {fingerprint} for {address}: {reason}"

def toText (line : LogLine) : String :=
  (if line.isWarning then "WARN " else "DEBUG ") ++ line.message

end LogLine

/-- Something that happens during a lookup. -/
inductive Event where
  | log (line : LogLine)
  /-- A request is started. -/
  | requested (url : Url)
  /-- The token is cancelled. -/
  | cancelled
deriving DecidableEq, Repr

/-- What happens during a lookup, with the instants, in order. -/
abbrev Trace := List (Duration × Event)

namespace Trace

def requests (trace : Trace) : List Url :=
  trace.filterMap fun
    | (_, .requested url) => some url
    | _ => none

def log (trace : Trace) : List LogLine :=
  trace.filterMap fun
    | (_, .log line) => some line
    | _ => none

/-! Both views go over a trace event by event. -/

@[simp] theorem requests_nil : requests [] = [] := rfl

@[simp] theorem requests_cons_requested (t : Duration) (url : Url) (trace : Trace) :
    requests ((t, .requested url) :: trace) = url :: requests trace := rfl

@[simp] theorem requests_cons_log (t : Duration) (line : LogLine) (trace : Trace) :
    requests ((t, .log line) :: trace) = requests trace := rfl

@[simp] theorem requests_cons_cancelled (t : Duration) (trace : Trace) :
    requests ((t, .cancelled) :: trace) = requests trace := rfl

@[simp] theorem requests_append (earlier later : Trace) :
    requests (earlier ++ later) = requests earlier ++ requests later :=
  List.filterMap_append

@[simp] theorem log_nil : log [] = [] := rfl

@[simp] theorem log_cons_requested (t : Duration) (url : Url) (trace : Trace) :
    log ((t, .requested url) :: trace) = log trace := rfl

@[simp] theorem log_cons_log (t : Duration) (line : LogLine) (trace : Trace) :
    log ((t, .log line) :: trace) = line :: log trace := rfl

@[simp] theorem log_cons_cancelled (t : Duration) (trace : Trace) :
    log ((t, .cancelled) :: trace) = log trace := rfl

@[simp] theorem log_append (earlier later : Trace) :
    log (earlier ++ later) = log earlier ++ log later :=
  List.filterMap_append

end Trace

/-- A lookup from its start to its end, if it has one. -/
structure Run (α : Type) where
  trace : Trace
  /-- The instant of the end and the result; none when the lookup never ends. -/
  result : Option (Duration × α)
deriving Repr

/-- What is seen of a lookup by someone who does not wait for ever. -/
structure Sighting (α : Type) where
  /-- The result, if it was there in time. -/
  result : Option α
  elapsed : Duration
  requests : List Url
  log : List LogLine
deriving Repr

namespace Run

variable {α β : Type}

def ofValue (a : α) : Run α :=
  ⟨[], some (0, a)⟩

/-- Goes on from the result of a lookup without taking time, writing log lines. -/
def andThen (run : Run α) (f : α → β × List LogLine) : Run β :=
  match run.result with
  | none => ⟨run.trace, none⟩
  | some (instant, a) =>
    let (b, lines) := f a
    ⟨run.trace ++ lines.map fun line => (instant, .log line), some (instant, b)⟩

/-- What is seen of a lookup up to an instant. -/
def sightedUntil (run : Run α) (horizon : Duration) : Sighting α :=
  let seen := run.trace.filter (·.1 ≤ horizon)
  match run.result.filter (·.1 ≤ horizon) with
  | some (instant, a) => ⟨some a, instant, Trace.requests seen, Trace.log seen⟩
  | none => ⟨none, horizon, Trace.requests seen, Trace.log seen⟩

end Run

end KeyDirectory
