import SignIn.FailureKind
import SignIn.Header
import SignIn.Url.Basic

/-!
# Replies

A request always has a reply: the server's response, judged by its status, or the
failure that kept it from being answered.

## Main definitions

* `Reply` — what came of a request.
* `Reply.ofResponse`, `Reply.ofFailure`, `Reply.cancelled` — the three ways to get one.
* `Reply.header?` — a header, if its value is plain text.
-/

namespace SignIn

open SignIn.Text

/-- A failure with its message. -/
structure Failure where
  /-- Why the request did not succeed. -/
  kind : FailureKind
  /-- The message for the user. -/
  message : String
  deriving DecidableEq, Repr

/-- What came of a request. -/
structure Reply where
  /-- Where the request went. -/
  url : Url
  /-- The status of the response, if there was one. -/
  status : Option Nat
  /-- The headers of the response, in order. -/
  headers : Headers
  /-- The body of the response. -/
  body : Bytes
  /-- The failure, if the request did not succeed. -/
  failure : Option Failure
  deriving DecidableEq, Repr

/-- Whether a character may stand in a header that is read as text. -/
def isHeaderText (c : Char) : Bool := c == '\t' || (0x20 ≤ c.toNat && c.toNat < 0x7F)

namespace Reply

/-- A response, judged by its status. -/
def ofResponse (url : Url) (status : Nat) (headers : Headers) (body : Bytes) :
    Reply where
  url := url
  status := some status
  headers := headers
  body := body
  failure := (FailureKind.ofStatus? status).map fun kind =>
    ⟨kind, "Error transferring " ++ url.text ++ " - server replied: HTTP " ++ toString status⟩

/-- No response. -/
def ofFailure (url : Url) (kind : FailureKind) (message : String) : Reply where
  url := url
  status := none
  headers := []
  body := []
  failure := some ⟨kind, message⟩

/-- The reply to a request that was given up. -/
def cancelled (url : Url) : Reply := ofFailure url .cancelled "Operation canceled"

/-- Whether the request succeeded. -/
def isSuccess (r : Reply) : Bool := r.failure.isNone

/-- Why the request did not succeed. -/
def failureKind? (r : Reply) : Option FailureKind := r.failure.map (·.kind)

/-- The message of the failure; empty when there is none. -/
def failureMessage (r : Reply) : String := (r.failure.map (·.message)).getD ""

/-- The body as text, where bytes that are no text are replaced. -/
def bodyText (r : Reply) : String := Utf8.decodeLossy r.body

/-- The value of the first header of a name, if it is plain text. -/
def header? (r : Reply) (name : String) : Option String :=
  (r.headers.find? name).filter (·.toList.all isHeaderText)

end Reply

end SignIn
