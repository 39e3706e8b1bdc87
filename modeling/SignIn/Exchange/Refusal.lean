import SignIn.Json.Record

/-!
# The answer to a refused request

## Main definitions

* `Refusal` — a structured error; `Refusal.parse?` reads a body.
* `Refusal.message` — the text to show.
-/

namespace SignIn

open SignIn.Json

/-- A structured error: a name, a message and perhaps a cause. -/
structure Refusal where
  /-- The name of the error. -/
  name : String
  /-- The message for the user; may be empty. -/
  text : String
  /-- The cause; empty when the server sent none. -/
  cause : String
  deriving DecidableEq, Repr

namespace Refusal

/-- A partly read refusal. -/
structure Draft where
  /-- The name, once read. -/
  name : Option (Option String)
  /-- The message, once read. -/
  text : Option (Option String)
  /-- The cause, once read. -/
  cause : Option (Option String)

/-- How refusals are read: three members that may be absent or `null`. -/
def layout : Layout Draft Draft where
  title := "struct RawErrorResponse"
  empty := ⟨none, none, none⟩
  fields := [
    .of "error" (·.name) (fun d s => { d with name := some s }) (optional Json.text) true,
    .of "errorMessage" (·.text) (fun d s => { d with text := some s }) (optional Json.text) true,
    .of "cause" (·.cause) (fun d s => { d with cause := some s }) (optional Json.text) true]
  make := .ok

/-- Reads a body.  The name and the message have to be texts, either of which may
be empty; the cause is optional. -/
def parse? (body : Bytes) : Option Refusal := do
  let d ← (read layout.record body).toOption
  return ⟨← d.name.getD none, ← d.text.getD none, (d.cause.getD none).getD ""⟩

/-- The message, or the name of the error when the message is empty. -/
def message (r : Refusal) : String := if r.text = "" then r.name else r.text

end Refusal

end SignIn
