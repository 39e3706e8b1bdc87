import SignIn.Json.Record

/-!
# The answer to an accepted request

A server that accepts a log-in or a renewal answers with two tokens and with the
profile it considers selected, or a list of profiles to select from.  The profile
parts stay JSON values, because their shape is judged later and piece by piece.

## Main definitions

* `ProfileEntry` — one profile as servers list it.
* `Grant` — the answer; `Grant.parse` reads a body, where an empty one counts as `{}`.
* `Grant.selected` — the selected profile, unless it is absent, `null` or `{}`.
-/

namespace SignIn

open SignIn.Json

/-- Servers send `null` for absent texts; it reads as the empty text. -/
def nullableText : Reader String := fun room bs =>
  (optional text room bs).map fun (s, rest) => (s.getD "", rest)

/-- A profile as servers list it. -/
structure ProfileEntry where
  /-- The identifier; empty when the server sent none. -/
  id : String
  /-- The name; empty when the server sent none. -/
  name : String
  deriving DecidableEq, Repr, Inhabited

namespace ProfileEntry

/-- A partly read entry. -/
structure Draft where
  /-- The identifier, once read. -/
  id : Option String
  /-- The name, once read. -/
  name : Option String

/-- How entries are read. -/
def layout : Layout Draft ProfileEntry where
  title := "struct ProfileRef"
  empty := ⟨none, none⟩
  fields := [
    .of "id" (·.id) (fun d s => { d with id := some s }) nullableText true,
    .of "name" (·.name) (fun d s => { d with name := some s }) nullableText true]
  make d := .ok ⟨d.id.getD "", d.name.getD ""⟩

/-- Reads a body as an entry. -/
def parse (body : Bytes) : Except Mistake ProfileEntry := read layout.record body

/-- A member of an object as a text: absent and `null` read as empty. -/
def textMember? (name : String) (members : List (String × Value)) : Option String :=
  match members.lookup name with
  | none => some ""
  | some .null => some ""
  | some (.string s) => some s
  | some _ => none

/-- The entry that a value is, if it is an object whose identifier and name, where
present, are texts or `null`. -/
def ofValue? : Value → Option ProfileEntry
  | .object ms => do return ⟨← textMember? "id" ms, ← textMember? "name" ms⟩
  | _ => none

/-- The entry as servers are told of it. -/
def toValue (p : ProfileEntry) : Value := .object [("id", .string p.id), ("name", .string p.name)]

end ProfileEntry

/-- The answer to an accepted request. -/
structure Grant where
  /-- The token of this installation, as the server echoes it. -/
  clientToken : String
  /-- The token that proves the log-in. -/
  accessToken : String
  /-- The profile that the server considers selected, as sent. -/
  selectedProfile : Option Value
  /-- The profiles to select from, as sent. -/
  availableProfiles : Option Value
  deriving Repr, Inhabited

namespace Grant

/-- A partly read grant. -/
structure Draft where
  /-- The client token, once read. -/
  clientToken : Option String
  /-- The access token, once read. -/
  accessToken : Option String
  /-- The selected profile, once read. -/
  selectedProfile : Option (Option Value)
  /-- The available profiles, once read. -/
  availableProfiles : Option (Option Value)

/-- How grants are read. -/
def layout : Layout Draft Grant where
  title := "struct AuthResponse"
  empty := ⟨none, none, none, none⟩
  fields := [
    .of "clientToken" (·.clientToken) (fun d s => { d with clientToken := some s })
      nullableText true,
    .of "accessToken" (·.accessToken) (fun d s => { d with accessToken := some s })
      nullableText true,
    .of "selectedProfile" (·.selectedProfile) (fun d v => { d with selectedProfile := some v })
      (optional anyValue) true,
    .of "availableProfiles" (·.availableProfiles)
      (fun d v => { d with availableProfiles := some v }) (optional anyValue) true]
  make d := .ok
    ⟨d.clientToken.getD "", d.accessToken.getD "", d.selectedProfile.getD none,
      d.availableProfiles.getD none⟩

/-- The grant without any member. -/
def empty : Grant := ⟨"", "", none, none⟩

/-- Whether a byte is an ASCII blank. -/
def isAsciiBlank (b : UInt8) : Bool := b == 0x20 || (0x09 ≤ b && b ≤ 0x0D && b != 0x0B)

/-- Reads a body.  A blank body counts as `{}`. -/
def parse (body : Bytes) : Except Mistake Grant :=
  if body.all isAsciiBlank then .ok empty else read layout.record body

/-- The selected profile, unless it is absent, `null` or `{}`. -/
def selected (g : Grant) : Option Value :=
  match g.selectedProfile with
  | some (.object []) => none
  | some .null => none
  | v => v

end Grant

end SignIn
