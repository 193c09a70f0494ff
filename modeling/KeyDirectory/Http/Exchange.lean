import KeyDirectory.Client.Builder

/-!
# Requests over HTTP

The default transport sends one GET and judges what the server does: a body with a status of success
is the answer, and any other status is a failure that carries the body as text.
-/

namespace KeyDirectory.Http

/-- What a server does with a request. -/
inductive Behaviour where
  /-- Nobody listens. -/
  | refuse
  /-- The connection is closed without a response. -/
  | close
  /-- No response comes within the time allowed. -/
  | stall
  /-- A response; `declared` is the length that it announces, if it announces one. -/
  | respond (status : Status) (body : List UInt8) (declared : Option Nat)
deriving DecidableEq, Repr

/-- Why a request got no answer, in the words of the transport. -/
inductive Trouble where
  | sending
  | decoding
deriving DecidableEq, Repr

def Trouble.failure (t : Trouble) (url : String) : Failure :=
  match t with
  | .sending => .connection s!"error sending request for url ({url})"
  | .decoding => .connection s!"error decoding response body for url ({url})"

def hasNoBody (s : Status) : Bool :=
  s.code == 204 || s.code == 304

/-- The body that arrives; none when it ends before the length that was announced. -/
def received? (status : Status) (body : List UInt8) (declared : Option Nat) :
    Option (List UInt8) :=
  if hasNoBody status then some []
  else
    match declared with
    | none => some body
    | some n => if n ≤ body.length then some (body.take n) else none

/-- The text that stands for the body of a status that is no success. -/
def statusMessage (status : Status) (body : Option (List UInt8)) : String :=
  match body with
  | some bytes => String.ofList (Text.Utf8.decodeLossy bytes)
  | none => status.reason?.getD "Unknown Error"

def get (url : String) : Behaviour → Response
  | .refuse => .error (Trouble.sending.failure url)
  | .close => .error (Trouble.sending.failure url)
  | .stall => .error .timeout
  | .respond status body declared =>
    let body := received? status body declared
    if status.isSuccess then
      match body with
      | some bytes => .ok bytes
      | none => .error (Trouble.decoding.failure url)
    else .error (.status status (statusMessage status body))

/-- Whether a request reaches the server. -/
def Behaviour.isReached : Behaviour → Bool
  | .refuse => false
  | _ => true

def getLine (path : String) : String :=
  s!"GET {path} HTTP/1.1"

/-- The line that asks a proxy for a tunnel to the host of a URL. -/
def tunnelLine (url : Url) : String :=
  let host := match url.host with
    | some host => String.ofList host.render
    | none => ""
  let port := url.port.getD (url.scheme.defaultPort?.getD 443)
  s!"CONNECT {host}:{port} HTTP/1.1"

/-- The default transport behind a proxy that refuses every tunnel. -/
def refusedTransport : Transport :=
  fun _ url => ⟨[], .fail (Trouble.sending.failure url.toText)⟩

end KeyDirectory.Http
