import KeyDirectory.Client.Basic
import KeyDirectory.Proofs.Errors

/-!
# Lookups that have candidates

A lookup that has candidates retrieves a body and reads it, at the same instant and without another
request. `lookup_ok` says what it leaves and how it concludes (`Client.conclude`); what is known of the
retrieval then carries over to the lookup.
-/

namespace KeyDirectory

/-! ## Requests with their instants -/

/-- The requests of a trace, each with the instant at which it is started. -/
def Trace.timedRequests (trace : Trace) : List (Duration × Url) :=
  trace.filterMap fun
    | (instant, .requested url) => some (instant, url)
    | _ => none

theorem Trace.requests_eq_map (trace : Trace) :
    trace.requests = trace.timedRequests.map Prod.snd := by
  unfold requests timedRequests
  rw [List.map_filterMap]
  apply congrArg (trace.filterMap ·)
  funext event
  obtain ⟨instant, what⟩ := event
  cases what <;> rfl

theorem Trace.timedRequests_append_logs (trace : Trace) (instant : Duration)
    (lines : List LogLine) :
    Trace.timedRequests (trace ++ lines.map fun line => (instant, .log line)) =
      trace.timedRequests := by
  unfold timedRequests
  rw [List.filterMap_append, List.filterMap_map]
  simp

namespace Client

variable {α : Type} {client : Client} {clock : Clock} {transport : Transport}
  {options : LookupOptions} {candidates : List Candidate}
  {read : List UInt8 → Except (List LookupError) α × List LogLine}

/-! ## Conclusions -/

/-- The result of a lookup that retrieved this: the failures of all attempts, or what is read from the
body. -/
def conclude (read : List UInt8 → Except (List LookupError) α × List LogLine) :
    SearchResult → Except ClientError (Retrieved α)
  | .error errors => .error (.lookup (errors.map .network))
  | .ok found => ((read found.value).1.map fun value => ⟨found.method, value⟩).mapError .lookup

/-- The lines of the log that a lookup adds to those of the retrieval. -/
def concludingLines (read : List UInt8 → Except (List LookupError) α × List LogLine) :
    SearchResult → List LogLine
  | .error _ => []
  | .ok found => (read found.value).2

/-- Errors of reading are those of the lookup. -/
theorem conclude_of_unreadable {found : Retrieved (List UInt8)} {errors : List LookupError}
    (said : (read found.value).1 = .error errors) :
    conclude read (.ok found) = .error (.lookup errors) := by
  rw [conclude, said]
  rfl

/-- A value that is read is found, by the method that led to the body. -/
theorem conclude_of_readable {found : Retrieved (List UInt8)} {value : α}
    (said : (read found.value).1 = .ok value) :
    conclude read (.ok found) = .ok ⟨found.method, value⟩ := by
  rw [conclude, said]
  rfl

/-- A lookup that has candidates is a retrieval, and what is concluded from it. -/
theorem lookup_ok (client : Client) (clock : Clock) (transport : Transport)
    (options : LookupOptions) (candidates : List Candidate)
    (read : List UInt8 → Except (List LookupError) α × List LogLine) :
    client.lookup clock transport options (.ok candidates) read =
      (fetch clock transport candidates options client.requestTimeout).andThen fun found =>
        (conclude read found, concludingLines read found) := by
  unfold lookup
  apply congrArg (Run.andThen _ ·)
  funext found
  cases found <;> rfl

/-- The result of a lookup is concluded from that of the retrieval. -/
theorem result_lookup :
    (client.lookup clock transport options (.ok candidates) read).result =
      (fetch clock transport candidates options client.requestTimeout).result.map
        fun (instant, found) => (instant, conclude read found) := by
  rw [lookup_ok, Run.andThen]
  cases (fetch clock transport candidates options client.requestTimeout).result <;> rfl

/-- A lookup ends when its retrieval does. -/
theorem result_lookup_of_fetch {instant : Duration} {found : SearchResult}
    (fetched : (fetch clock transport candidates options client.requestTimeout).result =
      some (instant, found)) :
    (client.lookup clock transport options (.ok candidates) read).result =
      some (instant, conclude read found) := by
  rw [result_lookup, fetched, Option.map_some]

/-- Reading starts no request. -/
theorem timedRequests_lookup :
    (client.lookup clock transport options (.ok candidates) read).trace.timedRequests =
      (fetch clock transport candidates options client.requestTimeout).trace.timedRequests := by
  rw [lookup_ok, Run.andThen]
  cases (fetch clock transport candidates options client.requestTimeout).result with
  | none => rfl
  | some found => exact Trace.timedRequests_append_logs _ _ _

theorem requests_lookup :
    (client.lookup clock transport options (.ok candidates) read).trace.requests =
      (fetch clock transport candidates options client.requestTimeout).trace.requests := by
  rw [Trace.requests_eq_map, timedRequests_lookup, ← Trace.requests_eq_map]

/-- Whatever comes of it, the argument is not to blame. -/
theorem conclude_ne_invalidInput (found : SearchResult) (cause : InvalidInput) :
    conclude read found ≠ .error (.invalidInput cause) := by
  cases found with
  | error errors => exact nofun
  | ok found =>
    cases said : (read found.value).1 with
    | error errors =>
      rw [conclude_of_unreadable said]
      exact nofun
    | ok value =>
      rw [conclude_of_readable said]
      exact nofun

/-! ## Discoveries -/

/-- The lines of the log that a discovery adds about a body. -/
def discoveryLines (client : Client) (m : MailAddress) (body : List UInt8) : List LogLine :=
  match client.readKeys body with
  | .error _ => []
  | .ok keys => discoveryLog m (client.chain.validate m keys)

/-- A discovery reads keys, and judges them for the address that is looked up. -/
theorem discover_eq_lookup (client : Client) (clock : Clock) (transport : Transport)
    (options : LookupOptions) (m : MailAddress) :
    client.discover clock transport options m =
      client.lookup clock transport options (places (.keys m.user) m.host) fun body =>
        ((client.readKeys body).map (client.chain.validate m), discoveryLines client m body) := by
  unfold discover discoveryLines
  apply congrArg (client.lookup clock transport options (places (.keys m.user) m.host) ·)
  funext body
  cases client.readKeys body <;> rfl

/-! ## A client -/

/-- A client that finds these keys in every body. -/
def ofKeys (rules : List Rule) (keys : List Key) : Client :=
  ⟨⟨rules⟩, 0, fun _ => .ok keys⟩

end Client

def Key.ofUserId (uid : String) : Key := { userIds := [uid] }

end KeyDirectory
