import SignIn.Account.File
import SignIn.Discovery
import SignIn.Routine
import SignIn.Settings

/-!
# The command line

One call logs an account in, or renews the token of the account that logged in last.
If that succeeds, the account is kept in a file and what the game is told about the
player is printed; otherwise an error is logged.

The password comes from the environment, or is typed.

## Main definitions

* `Command`, `Command.ofArguments?` — what is asked for.
* `CommandLine.password` — the rule for the password.
* `CommandLine.run` — one call.
-/

namespace SignIn

open SignIn.Text

/-- What is asked for. -/
inductive Command where
  /-- Log in, perhaps on a third party's server. -/
  | login (username : String) (server : Option String)
  /-- Renew the token of the last account. -/
  | renewal
  deriving DecidableEq, Repr

/-- The command that arguments give; what follows a complete command does not count. -/
def Command.ofArguments? : List String → Option Command
  | "login" :: username :: server => some (.login username server.head?)
  | "refresh" :: _ => some .renewal
  | _ => none

/-- The word that a log shows for a status. -/
def Status.logWord : Status → String
  | .working => "Working"
  | .succeeded => "Succeeded"
  | .failedSoft => "FailedSoft"
  | .failedHard => "FailedHard"
  | .failedGone => "FailedGone"
  | .offline => "Offline"

namespace CommandLine

/-- How to call the program. -/
def usage : String :=
  "usage: yggdrasil-auth login <username> [authlib-injector server]\n" ++
  "       yggdrasil-auth refresh\n"

/-- What a log shows for a character: those that a terminal would act on are written
as escapes. -/
def logChar (c : Char) : List Char :=
  let n := c.toNat
  if n = 0x07 ∨ n = 0x08 ∨ n = 0x0C ∨ n = 0x1B ∨ n = 0x7F then
    ['\\', 'x', Nat.digitChar (n / 16), Nat.digitChar (n % 16)]
  else if 0x80 ≤ n ∧ n ≤ 0x9F then ("\\u\x7b" ++ hexDigits n ++ "\x7d").toList
  else [c]

/-- The line of a log for an error. -/
def logLine (message : String) : String :=
  "ERROR " ++ String.ofList (message.toList.flatMap logChar) ++ "\n"

/-- The password of the environment, if it is not empty, and else the one that is
typed, which may not be empty. -/
def password (fromEnvironment : Option String) (typed : Except Error String) :
    Except Error String := do
  let password ← match fromEnvironment.filter (· ≠ "") with
    | some p => .ok p
    | none => typed
  if password = "" then throw .noPassword else return password

/-- What a call leaves behind. -/
structure Ending where
  /-- Zero for success. -/
  exitCode : Nat
  /-- What is printed and logged. -/
  output : String
  /-- What is printed as an error. -/
  errors : String
  /-- The menus that were offered. -/
  menus : List Menu
  /-- The files. -/
  disk : Disk
  deriving Repr

/-- The account for a command. -/
def account (w : World) (disk : Disk) (e : Environment) : Command → Except Error Account
  | .login username (some server) => (discoverAccount w.server username server).1
  | .login username none => .ok (.mojang username)
  | .renewal => Account.loadFrom disk e.sessionPath

/-- The world with the settings of the user, and the account for a command. -/
def prepare (w : World) (disk : Disk) (e : Environment) (c : Command) :
    Except Error (World × Account) := do
  let w := { w with settings := Settings.load disk e }
  w.settings.buildClient
  return (w, ← account w disk e c)

/-- The routine for a command. -/
def routine (e : Environment) (typed : Except Error String) : Command → Except Error Routine
  | .login .. => (password e.password typed).map .login
  | .renewal => .ok .renewal

/-- Does what a command asks for; gives what happened, and the files if it succeeded. -/
def attempt (w : World) (disk : Disk) (e : Environment) (typed : Except Error String)
    (c : Command) : Except Error (Result × Disk) := do
  let (w, a) ← prepare w disk e c
  let r ← routine e typed c
  let result := (r.run w a).2
  if result.outcome.status = .succeeded then
    return (result, ← result.account.saveTo disk e.sessionPath)
  else return (result, disk)

/-- What is printed at the end of an attempt: what the game is told about the player, or
the outcome. -/
def report (r : Result) : String :=
  if r.outcome.status = .succeeded then r.account.launchIdentity.toValue.pretty ++ "\n"
  else logLine ("Authentication failed (" ++ r.outcome.status.logWord ++ "): " ++ r.outcome.message)

/-- One call of the program. -/
def run (w : World) (disk : Disk) (e : Environment) (typed : Except Error String)
    (arguments : List String) : Ending :=
  match Command.ofArguments? arguments with
  | none => ⟨2, "", usage, [], disk⟩
  | some c =>
    match attempt w disk e typed c with
    | .error e => ⟨1, logLine e.message, "", [], disk⟩
    | .ok (result, disk) =>
      ⟨if result.outcome.status = .succeeded then 0 else 1, report result, "", result.log.menus,
        disk⟩

/-- Whether a password has to be typed for a call. -/
def asksPassword (w : World) (disk : Disk) (e : Environment) (arguments : List String) : Bool :=
  match Command.ofArguments? arguments with
  | some (.login username server) =>
    (e.password.filter (· ≠ "")).isNone &&
      (prepare w disk e (.login username server)).toOption.isSome
  | _ => false

/-- A user who has typed some lines at menus. -/
def typist (lines : List String) : Picker := fun before m =>
  .chosen (lines[before.length]?.bind (Menu.picked? m.options))

end CommandLine

end SignIn
