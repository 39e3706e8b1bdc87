import SignIn.CommandLine
import SignIn.Network
import Std.Time.DateTime.Timestamp

/-!
# The program

Reads what a call depends on (arguments, environment, files, clock, chance and what the
user types), hands it to `CommandLine.run`, and carries out what that says.
-/

namespace SignIn.Program

/-- The environment of the call. -/
def readEnvironment : IO Environment := do
  return {
    authHost := ← IO.getEnv "MINECRAFT_API_AUTH_HOST"
    sessionHost := ← IO.getEnv "MINECRAFT_API_SESSION_HOST"
    configHome := ← IO.getEnv "XDG_CONFIG_HOME"
    home := (← IO.getEnv "HOME").getD "/"
    password := ← IO.getEnv "YGGDRASIL_PASSWORD" }

/-- Adds a file to a disk, if it can be read. -/
def readInto (disk : Disk) (path : String) : IO Disk := do
  try
    let content ← IO.FS.readBinFile path
    let added := do (← disk.createDirectories (parentOf path)).write path content.toList
    return added.toOption.getD disk
  catch _ => return disk

/-- The current time. -/
def readClock : IO Time.Instant := do
  let now := (← Std.Time.Timestamp.now).toDurationSinceUnixEpoch
  let instant := Time.Instant.ofUnix? now.second.val.toNat now.nano.val.toNat
  return instant.getD ⟨Time.Instant.epoch, 0, 0, by decide⟩

/-- Random bits. -/
def readRandom : IO (BitVec 128) := do
  let bytes ← IO.getRandomBytes 16
  return BitVec.ofNat 128 (bytes.toList.foldl (fun n b => 256 * n + b.toNat) 0)

/-- Shows a text and reads a line, without its end. -/
def readLine (prompt : String) : IO String := do
  (← IO.getStdout).putStr prompt
  (← IO.getStdout).flush
  let line ← (← IO.getStdin).getLine
  return Text.withoutLineEnd line

/-- Runs a call, and again with one more typed line as long as it offers a menu to which
nothing was typed yet. -/
partial def converse (run : List String → CommandLine.Ending) (lines : List String) :
    IO CommandLine.Ending := do
  let ending := run lines
  match ending.menus[lines.length]? with
  | some m => converse run (lines ++ [← readLine m.text])
  | none => return ending

/-- Writes a file of a disk, if there is one. -/
def writeFrom (disk : Disk) (path : String) : IO Unit := do
  match disk.read path with
  | .ok content =>
    IO.FS.createDirAll (parentOf path)
    IO.FS.writeBinFile path ⟨content.toArray⟩
  | .error _ => return

end SignIn.Program

open SignIn SignIn.Program

/-- Logs an account in, or renews its token. -/
def main (arguments : List String) : IO UInt32 := do
  let e ← readEnvironment
  let disk ← readInto (← readInto Disk.empty e.settingsPath) e.sessionPath
  let now ← readClock
  let w : World := {
    settings := .default
    server := Network.unconnected
    picker := CommandLine.typist []
    clock := fun _ => now
    random := ← readRandom
    route := .activity }
  let typed ← if CommandLine.asksPassword w disk e arguments then readLine "Password: " else pure ""
  let ending ← converse (fun lines =>
    CommandLine.run { w with picker := CommandLine.typist lines } disk e (.ok typed) arguments) []
  if ending.exitCode = 0 then writeFrom ending.disk e.sessionPath
  (← IO.getStdout).putStr ending.output
  (← IO.getStderr).putStr ending.errors
  return ending.exitCode.toUInt32
