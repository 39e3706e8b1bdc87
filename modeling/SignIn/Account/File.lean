import SignIn.Account

/-!
# Accounts in files

An account is kept as a JSON object, one file each.

## Main definitions

* `Service.reader` — the service, an object whose member `type` says which it is.
* `Account.layout`, `Account.toValue` — reading and writing.
* `Account.loadFrom`, `Account.saveTo` — the file.
-/

namespace SignIn

open SignIn.Json SignIn.Text SignIn.Time

/-! ### Writing -/

/-- A value, or `null` for none. -/
def valueOrNull (v : Option Value) : Value := v.getD .null

/-- The service as a JSON value. -/
def Service.toValue : Service → Value
  | .mojang => .object [("type", .string "mojang")]
  | .thirdParty apiUrl =>
    .object [("type", .string "authlib_injector"), ("api_url", .string apiUrl)]

/-- The word for a validity. -/
def Validity.word : Validity → String
  | .unknown => "unknown"
  | .certain => "certain"

/-- The token as a JSON value. -/
def AccessToken.toValue (t : AccessToken) : Value := .object [
  ("token", .string t.token),
  ("issued_at", .ofOption (t.issuedAt.map (·.text))),
  ("validity", .string t.validity.word)]

/-- The skin as a JSON value. -/
def Skin.toValue (s : Skin) : Value := .object [("url", .string s.url), ("slim", .bool s.slim)]

/-- The cape as a JSON value. -/
def Cape.toValue (c : Cape) : Value := .object [("url", .string c.url)]

/-- The profile as a JSON value. -/
def Profile.toValue (p : Profile) : Value := .object [
  ("id", .string p.id),
  ("name", .string p.name),
  ("skin", valueOrNull (p.skin.map (·.toValue))),
  ("cape", valueOrNull (p.cape.map (·.toValue)))]

/-- The account as a JSON value. -/
def Account.toValue (a : Account) : Value := .object [
  ("kind", a.service.toValue),
  ("username", .string a.username),
  ("client_token", .ofOption a.clientToken),
  ("access_token", a.accessToken.toValue),
  ("profile", a.profile.toValue)]

/-- The identity as a JSON value. -/
def LaunchIdentity.toValue (l : LaunchIdentity) : Value := .object [
  ("username", .string l.username),
  ("uuid", .string l.uuid),
  ("access_token", .string l.accessToken),
  ("user_type", .string l.userType)]

/-! ### Reading the service

The member `type` may stand anywhere in the object, so the other members are kept
as values until it is known.  What is wrong with those values has no place of its
own in the text. -/

namespace Service

/-- What messages call the service. -/
def title : String := "internally tagged enum AccountKind"

/-- The members of a service: its type, once read, and all others in order. -/
structure Draft where
  /-- Whether the account lives on a third party's service. -/
  isThirdParty : Option Bool
  /-- The other members. -/
  others : List (String × Value)

/-- Reads the type. -/
def typeReader : Reader Bool := fun room bs => do
  let (s, bs) ← textAs "variant identifier" room bs
  if s = "mojang" then return (false, bs)
  else if s = "authlib_injector" then return (true, bs)
  else throw (.here (.unknownVariant s "mojang" "authlib_injector") bs)

/-- Reads a member, from after its name. -/
def member (room : Nat) (draft : Draft) (name : String) (bs : Bytes) :
    Except Fault (Draft × Bytes) :=
  if name = "type" then
    if draft.isThirdParty.isSome then .error (.unlocated (.duplicateField "type") bs)
    else do
      let (t, bs) ← typeReader room (← colon bs)
      return ({ draft with isThirdParty := some t }, bs)
  else do
    let (v, bs) ← anyValue room (← colon bs)
    return ({ draft with others := draft.others ++ [(name, v)] }, bs)

/-- The address of a third party among the members. -/
def apiUrlOf (members : List (String × Value)) : Except Cause String :=
  match members.filter (·.1 == "api_url") with
  | [] => .error (.missingField "api_url")
  | (_, .string s) :: rest => if rest = [] then .ok s else .error (.duplicateField "api_url")
  | (_, v) :: _ => .error (.wrongKind (.ofValue v) "a string")

/-- The service that members give. -/
def ofMembers (draft : Draft) : Except Cause Service :=
  match draft.isThirdParty with
  | some true => (apiUrlOf draft.others).map .thirdParty
  | _ => .ok .mojang

/-- The service that a list of a type and other elements gives. -/
def ofElements (isThirdParty : Bool) (others : List Value) : Except Cause Service :=
  match isThirdParty, others with
  | false, [] => .ok .mojang
  | false, vs => .error (.wrongLength vs.length "0 elements in sequence")
  | true, [] =>
    .error (.wrongLength 0 "struct variant AccountKind::AuthlibInjector with 1 element")
  | true, [.string s] => .ok (.thirdParty s)
  | true, .string _ :: vs => .error (.wrongLength (vs.length + 1) "1 element in sequence")
  | true, v :: _ => .error (.wrongKind (.ofValue v) "a string")

/-- Reads the list form: a type and other elements. -/
def listForm (room : Nat) (bs : Bytes) : Except Fault ((Bool × List Value) × Bytes) := do
  let (more, bs) ← nextElement true bs
  if more then
    let (t, bs) ← typeReader room bs
    let (vs, bs) ← foldElements (anyElement (anyValue room)) (bs.length + 1) false [] bs
    return ((t, vs.reverse), bs)
  else throw (.unlocated (.missingField "type") bs)

/-- Reads the object form. -/
def objectForm (room : Nat) (bs : Bytes) : Except Fault (Draft × Bytes) := do
  let (draft, bs) ← foldMembers (member room) (bs.length + 1) true ⟨none, []⟩ bs
  if draft.isThirdParty.isSome then return (draft, bs)
  else throw (.unlocated (.missingField "type") bs)

/-- What a finished form gives; a fault has no place of its own. -/
def conclude (bs : Bytes) (r : Except Cause Service) : Except Fault (Service × Bytes) :=
  match r with
  | .ok s => .ok (s, bs)
  | .error c => .error (.unlocated c bs)

/-- The fault of a plain value in the place of a service. -/
def notService (room : Nat) (bs : Bytes) : Fault :=
  match anyValue room bs with
  | .ok (v, rest) => .here (.wrongKind (.ofValue v) title) rest
  | .error f => f

/-- Reads a service. -/
def reader : Reader Service := fun room bs =>
  match skipBlanks bs with
  | [] => .error (.ahead .endInValue [])
  | b :: rest =>
    if b = 0x5B then do
      let ((t, vs), bs) ← enter room b rest fun room => settleList (listForm room rest)
      conclude bs (ofElements t vs)
    else if b = 0x7B then do
      let (draft, bs) ← enter room b rest fun room => settleObject (objectForm room rest)
      conclude bs (ofMembers draft)
    else .error (notService room (b :: rest))

end Service

/-! ### Reading the other parts -/

namespace AccessToken

/-- A partly read token. -/
structure Draft where
  /-- The token, once read. -/
  token : Option String
  /-- The time, once read. -/
  issuedAt : Option (Option Instant)
  /-- The validity, once read. -/
  validity : Option Validity

/-- Reads a point in time. -/
def instantReader : Reader Instant :=
  parsed "an RFC 3339 formatted date and time string" fun s =>
    (Instant.read s).mapError (·.message)

/-- How tokens are read. -/
def layout : Layout Draft AccessToken where
  title := "struct AccessToken"
  empty := ⟨.none, .none, .none⟩
  fields := [
    .of "token" (·.token) (fun d s => { d with token := some s }) Json.text false,
    .of "issued_at" (·.issuedAt) (fun d t => { d with issuedAt := some t })
      (optional instantReader) false,
    .of "validity" (·.validity) (fun d v => { d with validity := some v })
      (choice "unknown" "certain" .unknown .certain) false]
  make d := do
    return ⟨← required "token" d.token, d.issuedAt.getD .none, ← required "validity" d.validity⟩

end AccessToken

namespace Skin

/-- A partly read skin. -/
structure Draft where
  /-- The picture, once read. -/
  url : Option String
  /-- The arms, once read. -/
  slim : Option Bool

/-- How skins are read. -/
def layout : Layout Draft Skin where
  title := "struct Skin"
  empty := ⟨none, none⟩
  fields := [
    .of "url" (·.url) (fun d s => { d with url := some s }) Json.text false,
    .of "slim" (·.slim) (fun d b => { d with slim := some b }) flag false]
  make d := do return ⟨← required "url" d.url, ← required "slim" d.slim⟩

end Skin

/-- How capes are read. -/
def Cape.layout : Layout (Option String) Cape where
  title := "struct Cape"
  empty := none
  fields := [.of "url" (fun d => d) (fun _ s => some s) Json.text false]
  make d := do return ⟨← required "url" d⟩

namespace Profile

/-- A partly read profile. -/
structure Draft where
  /-- The identifier, once read. -/
  id : Option String
  /-- The name, once read. -/
  name : Option String
  /-- The skin, once read. -/
  skin : Option (Option Skin)
  /-- The cape, once read. -/
  cape : Option (Option Cape)

/-- How profiles are read. -/
def layout : Layout Draft Profile where
  title := "struct MinecraftProfile"
  empty := ⟨.none, .none, .none, .none⟩
  fields := [
    .of "id" (·.id) (fun d s => { d with id := some s }) Json.text false,
    .of "name" (·.name) (fun d s => { d with name := some s }) Json.text false,
    .of "skin" (·.skin) (fun d s => { d with skin := some s }) (optional Skin.layout.record) true,
    .of "cape" (·.cape) (fun d c => { d with cape := some c }) (optional Cape.layout.record) true]
  make d := do
    return ⟨← required "id" d.id, ← required "name" d.name, d.skin.getD .none, d.cape.getD .none⟩

end Profile

namespace Account

/-- A partly read account. -/
structure Draft where
  /-- The service, once read. -/
  service : Option Service
  /-- The user name, once read. -/
  username : Option String
  /-- The pinned token, once read. -/
  clientToken : Option (Option String)
  /-- The access token, once read. -/
  accessToken : Option AccessToken
  /-- The profile, once read. -/
  profile : Option Profile

/-- How accounts are read. -/
def layout : Layout Draft Account where
  title := "struct AccountContext"
  empty := ⟨none, none, none, none, none⟩
  fields := [
    .of "kind" (·.service) (fun d s => { d with service := some s }) Service.reader false,
    .of "username" (·.username) (fun d s => { d with username := some s }) Json.text false,
    .of "client_token" (·.clientToken) (fun d s => { d with clientToken := some s })
      (optional Json.text) false,
    .of "access_token" (·.accessToken) (fun d t => { d with accessToken := some t })
      AccessToken.layout.record false,
    .of "profile" (·.profile) (fun d p => { d with profile := some p })
      Profile.layout.record false]
  make d := do
    return ⟨← required "kind" d.service, ← required "username" d.username,
      d.clientToken.getD none, ← required "access_token" d.accessToken,
      ← required "profile" d.profile⟩

/-! ### The file -/

/-- The account that a text holds. -/
def parse (text : String) : Except Error Account :=
  (Json.read layout.record (Utf8.encode text)).mapError .json

/-- The account in the file at a path. -/
def loadFrom (disk : Disk) (path : String) : Except Error Account := do
  parse (← Error.at path (disk.readText path))

/-- Writes the account to a path, creating the directories on the way. -/
def saveTo (a : Account) (disk : Disk) (path : String) : Except Error Disk := do
  let parent := parentOf path
  let disk ← Error.at parent (disk.createDirectories parent)
  Error.at path (disk.write path (Utf8.encode a.toValue.pretty))

end Account

end SignIn
