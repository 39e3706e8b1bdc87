import SignIn.Disk
import SignIn.Json.Fault
import SignIn.Url.Basic

/-!
# Errors

What a server answers is no error but an outcome.  Errors are misuse and failures of
the machine the program runs on.

## Main definitions

* `Error` — the causes.
* `Error.message` — the text shown.
-/

namespace SignIn

open SignIn.Text

/-- What is wrong with settings. -/
inductive SettingsFault where
  /-- The address in a field is no URL. -/
  | invalidUrl (field value : String)
  /-- The timeout is zero. -/
  | zeroTimeout
  /-- A fault with words of its own. -/
  | stated (reason : String)
  deriving DecidableEq, Repr

/-- The words for it. -/
def SettingsFault.message : SettingsFault → String
  | .invalidUrl field value => field ++ " is not a valid URL: " ++ value
  | .zeroTimeout => "request_timeout_secs must be greater than zero"
  | .stated reason => reason

/-- Why an operation could not be done. -/
inductive Error where
  /-- A file operation failed at a path. -/
  | io (path : String) (fault : Disk.Fault)
  /-- No client can be made for the settings. -/
  | client
  /-- A text is no URL. -/
  | invalidUrl (fault : Url.Fault)
  /-- A server did not answer. -/
  | unreachable (reason : String)
  /-- A text is not the JSON that it should be. -/
  | json (mistake : Json.Mistake)
  /-- An activity runs only once. -/
  | activityStarted (name : String)
  /-- A batch takes no requests once it runs. -/
  | batchStarted (name : String)
  /-- Settings that cannot be used. -/
  | settings (fault : SettingsFault)
  /-- A server refused to tell where its API is. -/
  | discovery (reason : String)
  /-- Nobody gave a password. -/
  | noPassword
  /-- Anything else. -/
  | other (text : String)
  deriving DecidableEq, Repr

/-- The text shown for an error. -/
def Error.message : Error → String
  | .io path fault => "IO error at " ++ quote path ++ ": " ++ fault.message
  | .client => "HTTP client error: builder error"
  | .invalidUrl fault => "Invalid URL: " ++ fault.message
  | .unreachable reason => "Could not reach the authentication server: " ++ reason
  | .json mistake => "JSON error: " ++ mistake.message
  | .activityStarted name => "Task '" ++ name ++ "' was already started"
  | .batchStarted name => "Cannot add an action to job '" ++ name ++ "' after it started"
  | .settings fault => "Invalid settings: " ++ fault.message
  | .discovery reason => "authlib-injector API discovery failed: " ++ reason
  | .noPassword => "a password is required to log in"
  | .other text => text

/-- Names the path of a failed file operation. -/
def Error.at {α : Type} (path : String) (r : Except Disk.Fault α) : Except Error α :=
  r.mapError (.io path)

@[simp] theorem mapError_ok {ε ε' α : Type} (f : ε → ε') (x : α) :
    (Except.ok x : Except ε α).mapError f = .ok x := rfl

@[simp] theorem mapError_error {ε ε' α : Type} (f : ε → ε') (e : ε) :
    (Except.error e : Except ε α).mapError f = .error (f e) := rfl

end SignIn
