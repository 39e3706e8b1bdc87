import SignIn.Header
import SignIn.Url.Basic

/-!
# Requests

## Main definitions

* `Request` — one message to a server, either asking for data or sending some.
* `Request.withHeader`, `Request.withJsonHeaders` — adding headers at the end.
* `Request.header?` — the first header of a name, in any case.
-/

namespace SignIn

/-- What a request does. -/
inductive Request.Kind where
  /-- Asks for data. -/
  | download
  /-- Sends data. -/
  | upload
  deriving DecidableEq, Repr

/-- One message to a server. -/
structure Request where
  /-- What the request does. -/
  kind : Request.Kind
  /-- Where it goes. -/
  url : Url
  /-- Its headers, in order. -/
  headers : Headers
  /-- What it sends; nothing for a download. -/
  body : Bytes
  deriving DecidableEq, Repr

namespace Request

/-- Asks for what is at a URL. -/
def download (url : Url) : Request := ⟨.download, url, [], []⟩

/-- Sends data to a URL. -/
def upload (url : Url) (body : Bytes) : Request := ⟨.upload, url, [], body⟩

/-- Adds a header at the end. -/
def withHeader (r : Request) (name value : String) : Request :=
  { r with headers := r.headers ++ [(name, value)] }

/-- Says that JSON is sent and JSON is wanted. -/
def withJsonHeaders (r : Request) : Request :=
  (r.withHeader "Content-Type" "application/json").withHeader "Accept" "application/json"

/-- The value of the first header of a name. -/
def header? (r : Request) (name : String) : Option String := r.headers.find? name

end Request

end SignIn
