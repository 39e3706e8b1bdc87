import SignIn.Settings
import SignIn.Time.Instant

/-!
# Accounts

An account on a service: who logs in, the tokens that stand for this installation
and for the log-in, and the profile in the game.

The token of the installation is *pinned*: once there is one, it never changes.  The
access token and the profile change together, when a server grants a log-in.

## Main definitions

* `Account` — an account and its parts.
* `Account.mojang`, `Account.thirdParty` — fresh accounts.
* `Account.ensureClientToken`, `Account.adoptClientToken`, `Account.checkClientToken` —
  the pinned token.
* `Account.authServerUrl`, `Account.sessionServerUrl` — where requests go.
* `Account.launchIdentity` — what the game is told.
-/

namespace SignIn

open SignIn.Text SignIn.Time

/-- The service that an account lives on. -/
inductive Service where
  /-- The service whose servers the settings name. -/
  | mojang
  /-- A third party's servers below one address. -/
  | thirdParty (apiUrl : String)
  deriving DecidableEq, Repr

/-- Whether an access token is known to be good. -/
inductive Validity where
  /-- Nothing is known. -/
  | unknown
  /-- The server has just granted it. -/
  | certain
  deriving DecidableEq, Repr, Inhabited

/-- The token that proves a log-in. -/
structure AccessToken where
  /-- The token; empty before the first log-in. -/
  token : String
  /-- When the server granted it. -/
  issuedAt : Option Instant
  /-- Whether it is known to be good. -/
  validity : Validity
  deriving DecidableEq, Repr

/-- The look of a player. -/
structure Skin where
  /-- Where the picture is. -/
  url : String
  /-- Whether the arms are slim. -/
  slim : Bool
  deriving DecidableEq, Repr

/-- The cape of a player. -/
structure Cape where
  /-- Where the picture is. -/
  url : String
  deriving DecidableEq, Repr

/-- The identity in the game. -/
structure Profile where
  /-- The identifier; empty until a profile has been selected. -/
  id : String
  /-- The name. -/
  name : String
  /-- The skin, if there is one. -/
  skin : Option Skin
  /-- The cape, if there is one. -/
  cape : Option Cape
  deriving DecidableEq, Repr

namespace Profile

/-- No profile. -/
def none : Profile := ⟨"", "", .none, .none⟩

/-- A profile without skin and cape. -/
def plain (id name : String) : Profile := ⟨id, name, .none, .none⟩

/-- Whether no profile has been selected. -/
def isEmpty (p : Profile) : Bool := p.id == ""

end Profile

/-- An account on a service. -/
structure Account where
  /-- The service that the account lives on. -/
  service : Service
  /-- Who logs in. -/
  username : String
  /-- The token of this installation, once pinned. -/
  clientToken : Option String
  /-- The token that proves the log-in. -/
  accessToken : AccessToken
  /-- The identity in the game. -/
  profile : Profile
  deriving DecidableEq, Repr

/-- How a token that a server echoes compares with the pinned one. -/
inductive TokenCheck where
  /-- None is pinned; the server's will be. -/
  | adopt
  /-- It is the pinned one. -/
  | agrees
  /-- It is another one. -/
  | changed
  deriving DecidableEq, Repr

/-- What the game is told about the player. -/
structure LaunchIdentity where
  /-- The name of the player. -/
  username : String
  /-- The identifier of the profile. -/
  uuid : String
  /-- The token that proves the log-in. -/
  accessToken : String
  /-- The kind of account. -/
  userType : String
  deriving DecidableEq, Repr

namespace AccessToken

/-- No token. -/
def none : AccessToken := ⟨"", .none, .unknown⟩

end AccessToken

namespace Account

/-- A fresh account; blanks around the user name do not count. -/
def fresh (service : Service) (username : String) : Account :=
  ⟨service, trim username, none, .none, .none⟩

/-- A fresh account on the service that the settings name. -/
def mojang (username : String) : Account := fresh .mojang username

/-- A fresh account on a third party's service. -/
def thirdParty (username apiUrl : String) : Account := fresh (.thirdParty apiUrl) username

/-! ### The pinned token -/

/-- Pins a token that was issued before; an empty one does not count. -/
def withClientToken (a : Account) (token : String) : Account :=
  if token = "" then a else { a with clientToken := some token }

/-- Pins the token given, unless one is pinned. -/
def ensureClientToken (a : Account) (generated : String) : Account :=
  { a with clientToken := some (a.clientToken.getD generated) }

/-- Compares the pinned token with the one that a server echoes. -/
def checkClientToken (a : Account) (echoed : String) : TokenCheck :=
  match a.clientToken with
  | none => .adopt
  | some pinned => if pinned = echoed then .agrees else .changed

/-- Pins the token that a server echoes, unless one is pinned. -/
def adoptClientToken (a : Account) (echoed : String) : Account :=
  { a with clientToken := some (a.clientToken.getD echoed) }

/-- A pinned token stays. -/
@[simp] theorem clientToken_adoptClientToken_of_some {a : Account} {pinned : String}
    (h : a.clientToken = some pinned) (echoed : String) :
    (a.adoptClientToken echoed).clientToken = some pinned := by
  simp [adoptClientToken, h]

/-- A pinned token stays. -/
@[simp] theorem clientToken_ensureClientToken_of_some {a : Account} {pinned : String}
    (h : a.clientToken = some pinned) (generated : String) :
    (a.ensureClientToken generated).clientToken = some pinned := by
  simp [ensureClientToken, h]

/-- Keeps an access token that a server has just granted. -/
def storeAccessToken (a : Account) (token : String) (now : Instant) : Account :=
  { a with accessToken := ⟨token, some now, .certain⟩ }

/-- Makes a profile the selected one.  The same profile may have a new name, and keeps
its skin and cape. -/
def bindProfile (a : Account) (id name : String) : Account :=
  { a with profile :=
      if a.profile.id = id then { a.profile with name := name } else .plain id name }

/-! ### Where requests go -/

/-- An address without the slashes at its end. -/
def withoutEndSlashes (url : String) : String := dropEnd (· == '/') url

/-- The address of the authentication server. -/
def authServerUrl (a : Account) (s : Settings) : String :=
  match a.service with
  | .mojang => withoutEndSlashes s.authServerUrl
  | .thirdParty apiUrl => withoutEndSlashes apiUrl ++ "/authserver"

/-- The address of the session server. -/
def sessionServerUrl (a : Account) (s : Settings) : String :=
  match a.service with
  | .mojang => withoutEndSlashes s.sessionServerUrl
  | .thirdParty apiUrl => withoutEndSlashes apiUrl ++ "/sessionserver"

/-- What the game is told; a player without a profile goes by the user name. -/
def launchIdentity (a : Account) : LaunchIdentity where
  username := if a.profile.name = "" then a.username else a.profile.name
  uuid := a.profile.id
  accessToken := a.accessToken.token
  userType := "mojang"

end Account

end SignIn
