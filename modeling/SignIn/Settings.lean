import SignIn.Error
import SignIn.Json.Record
import SignIn.Json.Write
import SignIn.Text.Blank
import SignIn.Url.Parse

/-!
# Settings

Where the servers are and how they are asked.  Settings live in a JSON file; a field
that the file leaves out has its default, and the environment wins over the file.

## Main definitions

* `Settings` — the fields; `Settings.default` — their defaults.
* `Settings.validate` — what makes settings usable.
* `Settings.loadFrom`, `Settings.saveTo` — the file.
* `Environment` — the variables that matter; `Settings.withOverrides`, `Settings.load`.
* `Settings.buildClient` — whether requests can be made at all.
-/

namespace SignIn

open SignIn.Json SignIn.Text

/-- Where the servers are and how they are asked. -/
structure Settings where
  /-- The address of the authentication server. -/
  authServerUrl : String
  /-- The address of the session server. -/
  sessionServerUrl : String
  /-- How requests introduce themselves. -/
  userAgent : String
  /-- How long to wait for a reply. -/
  timeoutSeconds : Nat
  deriving DecidableEq, Repr, Inhabited

namespace Settings

/-- The settings of a fresh installation. -/
def default : Settings where
  authServerUrl := "https://authserver.mojang.com"
  sessionServerUrl := "https://sessionserver.mojang.com"
  userAgent := "InterfaceOficial/0.1.0"
  timeoutSeconds := 30

/-! ### As JSON -/

/-- Partly read settings. -/
structure Draft where
  /-- The authentication server, once read. -/
  authServerUrl : Option String
  /-- The session server, once read. -/
  sessionServerUrl : Option String
  /-- The introduction, once read. -/
  userAgent : Option String
  /-- The timeout, once read. -/
  timeoutSeconds : Option Nat

/-- How settings are read: every field may be left out. -/
def layout : Layout Draft Settings where
  title := "struct AuthSettings"
  empty := ⟨none, none, none, none⟩
  fields := [
    .of "auth_server_url" (·.authServerUrl) (fun d s => { d with authServerUrl := some s })
      Json.text true,
    .of "session_server_url" (·.sessionServerUrl)
      (fun d s => { d with sessionServerUrl := some s }) Json.text true,
    .of "user_agent" (·.userAgent) (fun d s => { d with userAgent := some s }) Json.text true,
    .of "request_timeout_secs" (·.timeoutSeconds)
      (fun d n => { d with timeoutSeconds := some n }) word64 true]
  make d := .ok {
    authServerUrl := d.authServerUrl.getD default.authServerUrl
    sessionServerUrl := d.sessionServerUrl.getD default.sessionServerUrl
    userAgent := d.userAgent.getD default.userAgent
    timeoutSeconds := d.timeoutSeconds.getD default.timeoutSeconds }

/-- Settings as a JSON value. -/
def toValue (s : Settings) : Value := .object [
  ("auth_server_url", .string s.authServerUrl),
  ("session_server_url", .string s.sessionServerUrl),
  ("user_agent", .string s.userAgent),
  ("request_timeout_secs", .ofNat s.timeoutSeconds)]

/-! ### Validity -/

/-- Whether a text is a URL. -/
def isUrl (s : String) : Bool := (Url.parse s).toOption.isSome

/-- Both addresses have to be URLs and the timeout has to be positive; the first
field that is not is named. -/
def validate (s : Settings) : Except SettingsFault Unit :=
  if !isUrl s.authServerUrl then .error (.invalidUrl "auth_server_url" s.authServerUrl)
  else if !isUrl s.sessionServerUrl then
    .error (.invalidUrl "session_server_url" s.sessionServerUrl)
  else if s.timeoutSeconds = 0 then .error .zeroTimeout
  else .ok ()

/-- The settings that a text holds. -/
def parse (text : String) : Except Error Settings := do
  let s ← (Json.read layout.record (Utf8.encode text)).mapError .json
  s.validate.mapError .settings
  return s

/-! ### The file -/

/-- The settings in the file at a path. -/
def loadFrom (disk : Disk) (path : String) : Except Error Settings := do
  parse (← Error.at path (disk.readText path))

/-- Writes the settings to a path, creating the directories on the way. -/
def saveTo (s : Settings) (disk : Disk) (path : String) : Except Error Disk := do
  let parent := parentOf path
  let disk ← Error.at parent (disk.createDirectories parent)
  Error.at path (disk.write path (Utf8.encode s.toValue.pretty))

end Settings

/-! ### The environment -/

/-- The variables of the environment that matter; unset ones are none. -/
structure Environment where
  /-- Another authentication server. -/
  authHost : Option String
  /-- Another session server. -/
  sessionHost : Option String
  /-- Where programs keep their settings. -/
  configHome : Option String
  /-- The home directory. -/
  home : String
  /-- The password to log in with. -/
  password : Option String
  deriving DecidableEq, Repr

namespace Environment

/-- The value of a variable, unless it is blank. -/
def nonBlank (value : Option String) : Option String :=
  value.filter fun v => !v.toList.all isBlank

/-- Where programs keep their settings: as the environment says, if it names a path
from the root, else below the home directory. -/
def configDirectory (e : Environment) : String :=
  match e.configHome with
  | some d => if d.startsWith "/" then d else joinPath e.home ".config"
  | none => joinPath e.home ".config"

/-- The directory of this program. -/
def programDirectory (e : Environment) : String :=
  joinPath e.configDirectory "InterfaceOficial"

/-- The file of the settings. -/
def settingsPath (e : Environment) : String := joinPath e.programDirectory "auth_settings.json"

/-- The file of the last account that logged in. -/
def sessionPath (e : Environment) : String :=
  joinPath e.programDirectory "yggdrasil_session.json"

end Environment

namespace Settings

/-- Servers named by the environment win. -/
def withOverrides (s : Settings) (e : Environment) : Settings :=
  { s with
    authServerUrl := (Environment.nonBlank e.authHost).getD s.authServerUrl
    sessionServerUrl := (Environment.nonBlank e.sessionHost).getD s.sessionServerUrl }

/-- The settings of the file, or the defaults when it cannot be used, under the
environment. -/
def load (disk : Disk) (e : Environment) : Settings :=
  match loadFrom disk e.settingsPath with
  | .ok s => s.withOverrides e
  | .error _ => default.withOverrides e

/-- Whether a character can stand in a header of a request. -/
def isSendable (c : Char) : Bool := c == '\t' || (0x20 ≤ c.toNat && c.toNat != 0x7F)

/-- Requests can be made if the introduction can be sent. -/
def buildClient (s : Settings) : Except Error Unit :=
  if s.userAgent.toList.all isSendable then .ok () else .error .client

end Settings

end SignIn
