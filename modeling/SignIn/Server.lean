import SignIn.Reply
import SignIn.Request

/-!
# Servers

The far side of the network, as far as this library sees it: a request is sent, and
a reply arrives or none ever does.  While a request is under way, whoever waits for
it may be told to stop; a request to which no reply arrives ends that way and no
other.

What a server does may depend on all it was asked before.  Nothing else is assumed
of it.

## Main definitions

* `Turn` — what comes of sending one request.
* `Server` — what comes of sending a request after others.
-/

namespace SignIn

/-- What comes of sending one request. -/
inductive Turn where
  /-- The reply arrives. -/
  | reply (reply : Reply)
  /-- Whoever waits is told to stop, and the reply arrives all the same. -/
  | stopped (reply : Reply)
  /-- No reply arrives, and in the end whoever waits is told to stop. -/
  | silence
  deriving DecidableEq, Repr

/-- What comes of sending a request, given the requests sent before it in order. -/
abbrev Server := List Request → Request → Turn

end SignIn
