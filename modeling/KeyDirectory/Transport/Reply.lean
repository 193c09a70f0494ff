import KeyDirectory.Retrieval.Timeout
import KeyDirectory.Transport.Failure
import KeyDirectory.Url.Basic

/-!
# What the other side does

A transport is known by what it does with each request: it may wait, it may call the whole lookup
off, and in the end it answers, fails, or says nothing any more.
-/

namespace KeyDirectory

/-- Something that happens before a request is answered. -/
inductive ReplyStep where
  /-- Time passes. -/
  | sleep (span : Duration)
  /-- The token of the call is cancelled, if the call has one. -/
  | cancel
deriving DecidableEq, Repr

inductive Ending where
  /-- Never. -/
  | hang
  | fail (failure : Failure)
  | answer (body : List UInt8)
deriving DecidableEq, Repr

/-- What becomes of a request that is not interrupted. -/
structure Reply where
  steps : List ReplyStep
  ending : Ending
deriving DecidableEq, Repr

/-- What a transport does: the reply to the `n`-th request of a call, counted from zero, by its
URL. -/
abbrev Transport := Nat → Url → Reply

/-- The cancellation token of a call. -/
inductive Token where
  /-- The call has none. -/
  | absent
  /-- It was cancelled before the call. -/
  | cancelled
  /-- It is good. With `outside`, someone other than the transport cancels it at that instant, as soon
  as nothing but time moves there. -/
  | live (outside : Option Duration)
deriving DecidableEq, Repr

end KeyDirectory
