import KeyDirectory.Client.Basic

/-!
# Building clients

The settings of a client before it is built.
-/

namespace KeyDirectory

/-- The settings of a client. -/
structure ClientBuilder where
  /-- The name under which the client sends its requests, if it is not the default. -/
  userAgent : Option String := none
  /-- The span that bounds a lookup; zero is no bound. -/
  requestTimeout : Duration := Duration.ofSeconds 100 0
  /-- The rules for discovered keys. -/
  validation : Assembly := Assembly.new

namespace ClientBuilder

def defaultUserAgent : String := "wkd-client/0.1.0"

/-- The name that goes with each request; a blank one stands for the default. -/
def sentUserAgent (b : ClientBuilder) : String :=
  match b.userAgent with
  | some name => if Text.allBlank name then defaultUserAgent else Text.trimmed name
  | none => defaultUserAgent

/-- A character that a header may not carry: a control other than the tab. -/
def isHeaderControl (c : Char) : Bool :=
  (c.toNat < 32 && c != '\t') || c.toNat == 127

/-- Whether a name can be sent in a header. -/
def isSendable (userAgent : String) : Bool :=
  !userAgent.toList.any isHeaderControl

/-- The client on a transport of the caller's own, which takes no notice of the name. -/
def build (b : ClientBuilder) (readKeys : KeyReader) : Client :=
  ⟨b.validation.build, b.requestTimeout, readKeys⟩

/-- The client on the default transport, whose requests carry the name. -/
def buildDefault (b : ClientBuilder) (readKeys : KeyReader) : Except BuildError Client :=
  if isSendable b.sentUserAgent then .ok (b.build readKeys) else .error .userAgent

/-- Settings as they are shown in messages; `transport` is how a transport of the caller's own is
shown. -/
def describe (b : ClientBuilder) (transport : Option String) : String :=
  let name := match b.userAgent with
    | some name => "Some(" ++ Text.Quoted.string name ++ ")"
    | none => "None"
  let used := match transport with
    | some text => "Some(" ++ text ++ ")"
    | none => "None"
  "WkdClientBuilder \x7b user_agent: " ++ name ++ ", request_timeout: " ++
    b.requestTimeout.describe ++ ", validation: " ++ b.validation.describe ++ ", transport: " ++
    used ++ ", .. \x7d"

end ClientBuilder

/-- A client as it is shown in messages, on a transport shown as `transport`. -/
def Client.describe (client : Client) (transport : String) : String :=
  "WkdClient \x7b transport: " ++ transport ++ ", validator: " ++ client.chain.describe ++
    ", request_timeout: " ++ client.requestTimeout.describe ++ ", .. \x7d"

end KeyDirectory
