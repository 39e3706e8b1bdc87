import SignIn.Error
import SignIn.Exchange.Session
import SignIn.Step
import SignIn.Url.Parse

/-!
# Looking a profile up

The session server knows the name and the pictures of a profile.  A profile that it
does not know is no failure: the account then has none.

## Main definitions

* `Lookup.request` — the request for the profile of an account.
* `Lookup.judge` — what a reply means for an account.
* `Lookup.act` — looks the profile up.
-/

namespace SignIn

namespace Lookup

/-- The request for the profile of an account. -/
def request (s : Settings) (a : Account) : Except Error Request :=
  ((Url.parse (a.sessionServerUrl s ++ "/session/minecraft/profile/" ++ a.profile.id)).mapError
    .invalidUrl).map fun url => (Request.download url).withJsonHeaders

/-- The message of a look-up that failed. -/
def failureMessage (reason : String) : String :=
  "Minecraft Java profile acquisition failed: " ++ reason

/-- The outcome and the profile where there was a failure. -/
def failed (f : Failure) (profile : Profile) : Outcome × Profile :=
  if f.kind = .notFound then (.working "Account has no Minecraft profile.", .none)
  else if f.kind.isApplication then (.hard (failureMessage f.message), profile)
  else (.soft (failureMessage f.message), profile)

/-- The outcome and the profile that an answer gives. -/
def described (body : Bytes) : Outcome × Profile :=
  match Profile.ofSession? body with
  | some p => (.working "Minecraft Java profile acquisition succeeded.", p)
  | none => (.soft "Minecraft Java profile response could not be parsed", .none)

/-- What a reply means for an account, whose profile is all that may change. -/
def judge (p : Reply) (profile : Profile) : Outcome × Profile :=
  match p.failure with
  | some f => failed f profile
  | none => described p.body

/-- Looks the profile of an account up. -/
def act (w : World) (a : Account) (log : Log) : Result :=
  if a.profile.isEmpty then ⟨.hard "A UUID is required to get the profile.", a, log⟩
  else match request w.settings a with
    | .error e => ⟨.hard (failureMessage e.message), a, log⟩
    | .ok r =>
      match w.send "ProfileFetchStep" a log r with
      | (log, .error e) => ⟨.hard (failureMessage e.message), a, log⟩
      | (log, .ok p) =>
        if log.isStopped then ⟨.aborted, a, log⟩
        else
          let (outcome, profile) := judge p a.profile
          ⟨outcome, { a with profile := profile }, log⟩

end Lookup

/-- The step that looks the profile of an account up. -/
def Step.lookup : Step := .new "Fetching the Minecraft profile." Lookup.act

end SignIn
