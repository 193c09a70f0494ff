import KeyDirectory.Transport.Status

/-!
# Failed requests

Why a single request did not bring a body.
-/

namespace KeyDirectory

/-- Why a request failed. -/
inductive Failure where
  /-- The server answered with a status that is no success. -/
  | status (status : Status) (message : String)
  /-- The server was not reached, or the exchange broke off. -/
  | connection (detail : String)
  /-- The request took too long. -/
  | timeout
  /-- The caller called the request off. -/
  | cancelled
deriving DecidableEq, Repr

namespace Failure

def message : Failure → String
  | .status s text => s!"Server responded with {s.toText}: {text}"
  | .connection detail => s!"Connection failed: {detail}"
  | .timeout => "The request timed out"
  | .cancelled => "The request was cancelled"

def status? : Failure → Option Status
  | .status s _ => some s
  | _ => none

end Failure

end KeyDirectory
