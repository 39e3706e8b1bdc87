import SignIn.Exchange.Grant
import SignIn.Json.Write

/-!
# What a server is asked

## Main definitions

* `LoginForm` — a log-in with a password.
* `RenewalForm` — a renewal of an access token, perhaps selecting a profile.
* `LoginForm.body`, `RenewalForm.body` — the bytes sent.
-/

namespace SignIn

open SignIn.Json

/-- A log-in with a password. -/
structure LoginForm where
  /-- The account's user name. -/
  username : String
  /-- The password. -/
  password : String
  /-- The token of this installation. -/
  clientToken : Option String
  /-- Whether the server should describe the user too. -/
  requestUser : Bool
  deriving DecidableEq, Repr

/-- A renewal of an access token. -/
structure RenewalForm where
  /-- The token of this installation. -/
  clientToken : String
  /-- The token to renew. -/
  accessToken : String
  /-- The profile to select. -/
  selectedProfile : Option ProfileEntry
  /-- Whether the server should describe the user too. -/
  requestUser : Bool
  deriving DecidableEq, Repr

/-- The game that every log-in is for. -/
def gameAgent : Value := .object [("name", .string "Minecraft"), ("version", .ofNat 1)]

/-- A member that is left out when there is no value. -/
def optionalMember (name : String) : Option Value → List (String × Value)
  | none => []
  | some v => [(name, v)]

/-- The form as a JSON value. -/
def LoginForm.toValue (f : LoginForm) : Value :=
  .object ([("agent", gameAgent), ("username", .string f.username),
    ("password", .string f.password)]
    ++ optionalMember "clientToken" (f.clientToken.map .string)
    ++ [("requestUser", .bool f.requestUser)])

/-- The form as a JSON value. -/
def RenewalForm.toValue (f : RenewalForm) : Value :=
  .object ([("clientToken", .string f.clientToken), ("accessToken", .string f.accessToken)]
    ++ optionalMember "selectedProfile" (f.selectedProfile.map (·.toValue))
    ++ [("requestUser", .bool f.requestUser)])

/-- The bytes sent. -/
def LoginForm.body (f : LoginForm) : Bytes := Text.Utf8.encode f.toValue.compact

/-- The bytes sent. -/
def RenewalForm.body (f : RenewalForm) : Bytes := Text.Utf8.encode f.toValue.compact

end SignIn
