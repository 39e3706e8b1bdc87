import SignIn.ClientToken
import SignIn.Error
import SignIn.Exchange.Form
import SignIn.Exchange.Refusal
import SignIn.Step
import SignIn.Url.Parse

/-!
# Authenticating

An account logs in with a password or renews the token it has.  A server that accepts
either grants two tokens and, as a rule, a profile that it considers selected.  Where
it selects none, it lists the profiles of the account; one of them is picked, and a
renewal that names it has to be granted too before the pick counts.

So an exchange goes on in rounds: each sends a request and either ends the exchange or
asks for another round.  What a reply grants is taken over as a whole, or not at all
when any part of it is missing or out of order.  Only a round before any pick can ask
for another one, which is what ends the exchange.

## Main definitions

* `Authentication` — how an account authenticates.
* `granted` — the grant that a reply makes, or the outcome it leads to.
* `resolve` — which profile a grant is for.
* `process` — takes over a grant.
* `round`, `exchange` — one round, and all of them.
-/

namespace SignIn

open SignIn.Json

/-- How an account authenticates. -/
structure Authentication where
  /-- The password to log in with; without one, the account renews its token. -/
  password : Option String
  /-- Whether a first request that reaches no server means that the service is
  offline. -/
  detectsOffline : Bool
  /-- An empty password counts as none. -/
  password_ne_empty : password ≠ some ""
  deriving DecidableEq, Repr

namespace Authentication

/-- Logging in with a password; an empty one counts as none. -/
def login (password : String) : Authentication where
  password := if password = "" then none else some password
  detectsOffline := false
  password_ne_empty := by split <;> simp_all

/-- Renewing the token. -/
def renewal : Authentication := ⟨none, false, by simp⟩

/-- Reports an unreachable service as offline. -/
def withOfflineDetection (auth : Authentication) : Authentication :=
  { auth with detectsOffline := true }

/-- What is shown while it goes on. -/
def label (auth : Authentication) : String :=
  if auth.password.isSome then "Logging in with Mojang account."
  else "Refreshing Mojang account session."

/-! ### The requests -/

/-- What a request asks for. -/
inductive Kind where
  /-- To log in with a password. -/
  | login
  /-- To renew a token. -/
  | renewal
  deriving DecidableEq, Repr

/-- The last part of the address of a request. -/
def Kind.endpoint : Kind → String
  | .login => "authenticate"
  | .renewal => "refresh"

/-- What the first request asks for. -/
def firstKind (auth : Authentication) : Kind :=
  if auth.password.isSome then .login else .renewal

/-- The account that a request is made for.  A log-in needs a token of the installation,
and makes one if there is none. -/
def accountFor (w : World) (a : Account) : Kind → Account
  | .login => a.ensureClientToken (freshToken w.random)
  | .renewal => a

/-- What a request says.  A renewal is for the profile of the account, if it has one. -/
def body (auth : Authentication) (a : Account) : Kind → Bytes
  | .login => LoginForm.body ⟨a.username, auth.password.getD "", a.clientToken, false⟩
  | .renewal =>
    let selected := if a.profile.isEmpty then none else some ⟨a.profile.id, a.profile.name⟩
    RenewalForm.body ⟨a.clientToken.getD "", a.accessToken.token, selected, false⟩

/-- Where a request goes. -/
def address (s : Settings) (a : Account) (k : Kind) : Except Error Url :=
  (Url.parse (a.authServerUrl s ++ "/" ++ k.endpoint)).mapError .invalidUrl

/-- A request to the authentication server. -/
def request (auth : Authentication) (s : Settings) (a : Account) (k : Kind) :
    Except Error Request :=
  (address s a k).map fun url => (Request.upload url (auth.body a k)).withJsonHeaders

/-- The outcome where a request cannot be made. -/
def unsendable (e : Error) : Outcome :=
  .hard ("Could not send the authentication request: " ++ e.message)

/-! ### What a reply means -/

/-- The message for a request that was not answered. -/
def networkMessage (f : Failure) : String :=
  match f.kind with
  | .timeout => "Authentication operation timed out."
  | .tlsHandshake =>
    "SSL handshake failed. Your system root certificates may be out of date, or something on " ++
    "your network is intercepting encrypted traffic. (" ++ f.message ++ ")"
  | _ => "Authentication operation failed due to a network error: " ++ f.message

/-- The outcome of a refused request: a structured error tells why. -/
def refused (body : Bytes) : Outcome :=
  match Refusal.parse? body with
  | some r => .hard r.message
  | none =>
    .soft "An error occurred but the authentication server didn't give an error message."

/-- The outcome of a request that was not answered. -/
def unanswered (detectsOffline : Bool) (f : Failure) : Outcome :=
  if f.kind = .cancelled then .soft "Authentication operation cancelled."
  else if detectsOffline then .offline (networkMessage f)
  else .soft (networkMessage f)

/-- The outcome that the failure of a reply leads to, whatever its body says.  That an
account is gone shows in the kind of failure alone; any other answer of the server is
judged by its status and its body. -/
def failed? (detectsOffline : Bool) (p : Reply) : Option Outcome :=
  p.failure.bind fun f =>
    if f.kind = .gone then
      some (.gone ("The Mojang account no longer exists. " ++
        "It may have been migrated to a Microsoft account."))
    else if p.status.isSome then none
    else some (unanswered detectsOffline f)

/-- The grant that a reply makes.  Only status 200 accepts. -/
def granted (detectsOffline : Bool) (p : Reply) : Except Outcome Grant :=
  match failed? detectsOffline p with
  | some o => .error o
  | none =>
    if p.status = some 200 then
      (Grant.parse p.body).mapError fun m =>
        .soft ("Failed to parse the authentication server response: " ++ m.message)
    else .error (refused p.body)

/-- What is out of order with the tokens of a grant. -/
def tokenFault? (a : Account) (g : Grant) : Option Outcome :=
  if g.clientToken = "" then
    some (.hard "The authentication server didn't send a client token.")
  else if a.checkClientToken g.clientToken = .changed then
    some (.hard ("The authentication server attempted to change the client token. " ++
      "This isn't supported."))
  else if g.accessToken = "" then
    some (.hard "The authentication server didn't send an access token.")
  else none

/-! ### Which profile a grant is for -/

/-- The profiles to pick from. -/
def candidates (g : Grant) : Except Outcome (List ProfileEntry) :=
  match g.availableProfiles with
  | some (.array vs) =>
    match vs.mapM ProfileEntry.ofValue? with
    | some ps => .ok ps
    | none => .error (.hard "The authentication server sent a malformed profile list.")
  | _ => .error (.hard "The authentication server didn't send a list of available profiles.")

/-- The menu for several profiles. -/
def menu (ps : List ProfileEntry) : Menu :=
  ⟨"Select profile", "Which Minecraft profile would you like to use?", ps.map (·.name)⟩

/-- The first profile of the name that was picked. -/
def named (ps : List ProfileEntry) (name : Option String) : Except Outcome ProfileEntry :=
  match (name.filter (· ≠ "")).bind fun n => ps.find? (·.name == n) with
  | some p => .ok p
  | none => .error (.soft "Authentication cancelled.")

/-- Picks a profile; the user is asked where there are several. -/
def pick (w : World) (a : Account) (log : Log) :
    List ProfileEntry → Log × Except Outcome ProfileEntry
  | [] => (log, .error (.hard "The account has no available Minecraft profile."))
  | [p] => (log, .ok p)
  | ps =>
    let (log, name) := w.offer a log (menu ps)
    (log, named ps name)

/-- Where an exchange stands. -/
structure Standing where
  /-- The account. -/
  account : Account
  /-- What happened so far. -/
  log : Log
  /-- Whether a profile was picked from a list. -/
  hasPicked : Bool
  deriving DecidableEq, Repr

/-- The profile that a grant is for, and whether it was picked from the list just now.
After a pick, a grant has to say which profile it is for. -/
def resolve (w : World) (x : Standing) (g : Grant) : Log × Except Outcome (ProfileEntry × Bool) :=
  match g.selected with
  | some v =>
    match ProfileEntry.ofValue? v with
    | some p => (x.log, .ok (p, false))
    | none => (x.log, .error (.hard "The authentication server sent a malformed selected profile."))
  | none =>
    if x.hasPicked then
      (x.log, .error (.hard "The authentication server didn't save our selected profile."))
    else
      match candidates g with
      | .error o => (x.log, .error o)
      | .ok ps =>
        let (log, picked) := pick w x.account x.log ps
        (log, picked.map fun p => (p, true))

/-! ### Taking over a grant -/

/-- The account with all that a grant gives. -/
def commit (w : World) (a : Account) (log : Log) (g : Grant) (p : ProfileEntry) : Account :=
  ((a.adoptClientToken g.clientToken).storeAccessToken g.accessToken
    (w.clock log.requests)).bindProfile p.id p.name

/-- What follows from a reply. -/
inductive Verdict where
  /-- The exchange is over. -/
  | done (outcome : Outcome)
  /-- A profile was picked, and has to be confirmed by another round. -/
  | again
  deriving DecidableEq, Repr

/-- Takes over a grant, unless a part of it is out of order or the attempt is told to
stop. -/
def process (w : World) (x : Standing) (g : Grant) : Standing × Verdict :=
  match tokenFault? x.account g with
  | some o => (x, .done o)
  | none =>
    match resolve w x g with
    | (log, .error o) => ({ x with log := log }, .done o)
    | (log, .ok (p, isPicked)) =>
      if p.id = "" then
        ({ x with log := log },
          .done (.hard "The authentication server sent a profile without an id."))
      else if log.isStopped then ({ x with log := log }, .done .aborted)
      else
        let a := commit w x.account log g p
        if isPicked then (⟨a, log, true⟩, .again)
        else (⟨a, log, x.hasPicked⟩, .done (.working ("Logged in as " ++ a.profile.name ++ ".")))

/-- Deals with a reply. -/
def handle (auth : Authentication) (w : World) (isFirst : Bool) (x : Standing) (p : Reply) :
    Standing × Verdict :=
  match granted (isFirst && auth.detectsOffline) p with
  | .error o => (x, .done o)
  | .ok g => process w x g

/-! ### Rounds -/

/-- Makes a request and sends it. -/
def send (auth : Authentication) (w : World) (k : Kind) (x : Standing) :
    Standing × Except Error Reply :=
  let a := accountFor w x.account k
  match auth.request w.settings a k with
  | .error e => ({ x with account := a }, .error e)
  | .ok r =>
    let (log, answer) := w.send ("YggdrasilStep::" ++ k.endpoint) a x.log r
    (⟨a, log, x.hasPicked⟩, answer)

/-- One round: a request and what follows from its reply. -/
def round (auth : Authentication) (w : World) (k : Kind) (isFirst : Bool) (x : Standing) :
    Standing × Verdict :=
  match auth.send w k x with
  | (x, .error e) => (x, .done (unsendable e))
  | (x, .ok p) =>
    if x.log.isStopped then (x, .done .aborted) else auth.handle w isFirst x p

@[simp] theorem hasPicked_send (auth : Authentication) (w : World) (k : Kind) (x : Standing) :
    (auth.send w k x).1.hasPicked = x.hasPicked := by
  unfold send
  dsimp only
  split <;> rfl

/-- Nothing is picked from a list after a pick. -/
theorem hasPicked_of_resolve {w : World} {x : Standing} {g : Grant} {log : Log} {p : ProfileEntry}
    (h : resolve w x g = (log, .ok (p, true))) : x.hasPicked = false := by
  unfold resolve at h
  repeat' split at h
  all_goals simp_all

/-- Only a pick asks for another round, and there was none before it. -/
theorem hasPicked_of_process {w : World} {x x' : Standing} {g : Grant}
    (h : process w x g = (x', .again)) : x.hasPicked = false ∧ x'.hasPicked = true := by
  unfold process at h
  split at h
  · simp at h
  · split at h
    · simp at h
    · rename_i log p isPicked hr
      split at h
      · simp at h
      · split at h
        · simp at h
        · cases isPicked
          · simp at h
          · simp only [↓reduceIte, Prod.mk.injEq, and_true] at h
            exact ⟨hasPicked_of_resolve hr, by rw [← h]⟩

/-- A round that asks for another one is the first with a pick. -/
theorem hasPicked_of_round {auth : Authentication} {w : World} {k : Kind} {isFirst : Bool}
    {x x' : Standing} (h : auth.round w k isFirst x = (x', .again)) :
    x.hasPicked = false ∧ x'.hasPicked = true := by
  have hs := hasPicked_send auth w k x
  unfold round at h
  split at h
  · simp at h
  · rename_i y p hy
    rw [hy] at hs
    split at h
    · simp at h
    · unfold handle at h
      split at h
      · simp at h
      · rw [← hs]
        exact hasPicked_of_process h

/-- All rounds of an exchange from one on.  After a pick there is one more at most. -/
def exchange (auth : Authentication) (w : World) (k : Kind) (isFirst : Bool) (x : Standing) :
    Result :=
  match _h : auth.round w k isFirst x with
  | (x', .done o) => ⟨o, x'.account, x'.log⟩
  | (x', .again) => auth.exchange w .renewal false x'
  termination_by (!x.hasPicked).toNat
  decreasing_by simp [hasPicked_of_round _h]

/-- Authenticates an account. -/
def act (auth : Authentication) (w : World) (a : Account) (log : Log) : Result :=
  auth.exchange w auth.firstKind true ⟨a, log, false⟩

end Authentication

/-- The step that authenticates an account. -/
def Step.authentication (auth : Authentication) : Step := .new auth.label auth.act

end SignIn
