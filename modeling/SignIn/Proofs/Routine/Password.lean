import SignIn.Proofs.Authentication.Confirmation
import SignIn.Proofs.Routine.Pinning
import SignIn.Proofs.Routine.Twin

/-!
# What a password shows in

A log-in sends its password with the first request.  Nothing else depends on which password it
is: not the other requests, not the outcome, not what the activity shows, and not what is kept in
the account.

The token of the installation has to be pinned for that.  Without one, a log-in makes one at
random, and two log-ins differ in it.

## Main definitions

* `Account.undated` — an account without the time of its log-in.
* `Request.SameButPassword`, `SameButPassword` — requests that differ in the password only.

## Main results

* `Visit.conceals` — two log-ins with different passwords come to the same.
-/

namespace SignIn

open SignIn.Authentication SignIn.Json SignIn.Text SignIn.Time

/-- The account without the time at which its access token was granted. -/
def Account.undated (a : Account) : Account :=
  { a with accessToken := { a.accessToken with issuedAt := none } }

/-- The bytes of an object that has a password among its members. -/
def bodyWith (password : String) (before after : List (String × Value)) : Bytes :=
  Utf8.encode (Value.compact (.object (before ++ ("password", .string password) :: after)))

/-- Two requests are the same, but for the password among the members of their bodies. -/
def Request.SameButPassword (password password' : String) (q q' : Request) : Prop :=
  ∃ before after : List (String × Value), "password" ∉ (before ++ after).map Prod.fst ∧
    q.body = bodyWith password before after ∧
      q' = { q with body := bodyWith password' before after }

/-- Two lists of requests are the same, but for the password in the first of each. -/
inductive SameButPassword (password password' : String) : List Request → List Request → Prop
  /-- Nothing is sent. -/
  | nil : SameButPassword password password' [] []
  /-- The first requests differ in the password. -/
  | cons {q q' : Request} (h : q.SameButPassword password password' q') (rest : List Request) :
    SameButPassword password password' (q :: rest) (q' :: rest)

namespace Account

/-- Where a token is pinned, none is made. -/
theorem ensureClientToken_of_some {a : Account} {t : String} (h : a.clientToken = some t)
    (generated : String) : a.ensureClientToken generated = a := by
  obtain ⟨service, username, clientToken, accessToken, profile⟩ := a
  obtain rfl : clientToken = some t := h
  rfl

/-- What does not depend on the time is the same. -/
theorem eq_of_undated {a a' : Account} (h : a'.undated = a.undated) :
    a'.service = a.service ∧ a'.username = a.username ∧ a'.clientToken = a.clientToken ∧
      a'.accessToken.token = a.accessToken.token ∧ a'.profile = a.profile := by
  simp only [undated, Account.mk.injEq, AccessToken.mk.injEq] at h
  exact ⟨h.1, h.2.1, h.2.2.1, h.2.2.2.1.1, h.2.2.2.2⟩

/-- The same grant leaves the same, at whatever time. -/
theorem undated_granted {a a' : Account} (h : a'.undated = a.undated) (g : Grant)
    (e : ProfileEntry) (now now' : Instant) :
    (a'.granted g e now').undated = (a.granted g e now).undated := by
  obtain ⟨hs, hu, hc, -, hp⟩ := eq_of_undated h
  simp only [undated, granted, hs, hu, hc, hp]

end Account

namespace Authentication

/-- What two log-ins have in common all along. -/
def concealing (password password' : String) : Likeness where
  accounts a a' := a'.undated = a.undated
  requests := SameButPassword password password'

/-- What stands before the password in a log-in. -/
def membersBefore (a : Account) : List (String × Value) :=
  [("agent", gameAgent), ("username", .string a.username)]

/-- What stands after it. -/
def membersAfter (a : Account) : List (String × Value) :=
  optionalMember "clientToken" (a.clientToken.map .string) ++ [("requestUser", .bool false)]

theorem body_login (auth : Authentication) (a : Account) :
    auth.body a .login =
      bodyWith (auth.password.getD "") (membersBefore a) (membersAfter a) := by
  simp only [body, LoginForm.body, LoginForm.toValue, bodyWith, membersBefore, membersAfter,
    List.cons_append, List.nil_append]

/-- No other member is named like it. -/
theorem password_not_mem (a : Account) :
    "password" ∉ (membersBefore a ++ membersAfter a).map Prod.fst := by
  cases h : a.clientToken with
  | none => simp [membersBefore, membersAfter, optionalMember, h]
  | some t => simp [membersBefore, membersAfter, optionalMember, h]

/-- Two log-ins send the same first request, but for the password. -/
theorem sameButPassword_login {auth auth' : Authentication} {s : Settings} {a a' : Account}
    {q q' : Request} (h : a'.undated = a.undated)
    (hq : auth.request s a .login = .ok q) (hq' : auth'.request s a' .login = .ok q') :
    q.SameButPassword (auth.password.getD "") (auth'.password.getD "") q' := by
  obtain ⟨hs, hu, hc, -, -⟩ := Account.eq_of_undated h
  obtain ⟨url, hurl, rfl⟩ := request_eq_ok_iff.1 hq
  obtain ⟨url', hurl', rfl⟩ := request_eq_ok_iff.1 hq'
  rw [authServerUrl_eq hs, hurl] at hurl'
  obtain rfl := Except.ok.inj hurl'
  have hbefore : membersBefore a' = membersBefore a := by rw [membersBefore, membersBefore, hu]
  have hafter : membersAfter a' = membersAfter a := by rw [membersAfter, membersAfter, hc]
  have hbody (b : Bytes) : (Request.upload url b).withJsonHeaders.body = b := rfl
  have hother (b b' : Bytes) : { (Request.upload url b).withJsonHeaders with body := b' } =
    (Request.upload url b').withJsonHeaders := rfl
  rw [body_login, body_login, hbefore, hafter]
  exact ⟨membersBefore a, membersAfter a, password_not_mem a, hbody _, (hother _ _).symm⟩

/-- A renewal has nothing to do with the password, nor with the time. -/
theorem request_renewal_eq {auth auth' : Authentication} {s : Settings} {a a' : Account}
    (h : a'.undated = a.undated) : auth'.request s a' .renewal = auth.request s a .renewal := by
  obtain ⟨hs, -, hc, ht, hp⟩ := Account.eq_of_undated h
  simp only [request, address, body, authServerUrl_eq hs, hc, ht, hp]

end Authentication

/-- One more request is the same in both lists. -/
theorem SameButPassword.concat {password password' : String} {sent sent' : List Request}
    (h : SameButPassword password password' sent sent') (hne : sent ≠ []) (q : Request) :
    SameButPassword password password' (sent ++ [q]) (sent' ++ [q]) := by
  cases h with
  | nil => exact (hne rfl).elim
  | cons h rest => exact .cons h (rest ++ [q])

theorem concealing_fits (s : Settings) (auth auth' : Authentication)
    (hk : auth.firstKind = .login) :
    (concealing (auth.password.getD "") (auth'.password.getD "")).Fits s auth auth' where
  service h := (Account.eq_of_undated h).1
  granted g e now now' h := Account.undated_granted h g e now now'
  judged {a a'} p h := by
    have hundated : a'.undated = a.undated := h
    have hp := (Account.eq_of_undated hundated).2.2.2.2
    rw [hp]
    exact congrArg (fun b : Account => { b with profile := (Lookup.judge p a.profile).2 }) hundated
  first h hq hq' := by
    rw [hk] at hq hq'
    exact .cons (sameButPassword_login h hq hq') []
  renewal h hsent hne hq hq' := by
    rw [request_renewal_eq h, hq] at hq'
    obtain rfl := Except.ok.inj hq'
    exact hsent.concat hne _
  lookup {a a' _ _ _ _} h hsent hne hq hq' := by
    obtain ⟨hs, -, -, -, hp⟩ := Account.eq_of_undated h
    have heq : Lookup.request s a' = Lookup.request s a := by
      rw [Lookup.request, Lookup.request, hp, Account.sessionServerUrl, Account.sessionServerUrl,
        hs]
    rw [heq, hq] at hq'
    obtain rfl := Except.ok.inj hq'
    exact hsent.concat hne _

namespace Visit

/-- A log-in with a password that is told to stop before it runs has nothing to do with the
password. -/
theorem run_interrupted (password password' : String) (w w' : World) (route : Route) (a : Account) :
    let r := (routine ⟨.login password, w, some route⟩).run w a
    let r' := (routine ⟨.login password', w', some route⟩).run w' a
    r'.1.control = r.1.control ∧ r'.2 = r.2 := by
  cases route <;> exact ⟨rfl, rfl⟩

/-- **A password shows in the first request only.**  Two log-ins with different passwords, at
different times, end with the same outcome.  Their activities show the same, the accounts are the
same up to the time of the log-in, and so are the requests but for the password in the first. -/
theorem conceals {a : Account} {t : String} (ha : a.clientToken = some t) {w : World}
    (hw : w.server.IsScripted) {password password' : String} (hp : password ≠ "")
    (hp' : password' ≠ "") (interrupted : Option Route) (clock : List Request → Instant)
    (random : BitVec 128) :
    let v : Visit := ⟨.login password, w, interrupted⟩
    let v' : Visit := ⟨.login password', w.anew clock random, interrupted⟩
    (v'.result a).outcome = (v.result a).outcome ∧
      (v'.routine.run v'.world a).1.control.activity.snapshot =
        (v.routine.run v.world a).1.control.activity.snapshot ∧
      (v'.result a).account.undated = (v.result a).account.undated ∧
      SameButPassword password password' (v.result a).log.requests
        (v'.result a).log.requests := by
  intro v v'
  cases interrupted with
  | some route =>
    obtain ⟨hcontrol, hresult⟩ := run_interrupted password password' w (w.anew clock random) route a
    obtain ⟨o, ho⟩ := result_of_interrupted (v := v) rfl a
    have hv : v'.result a = v.result a := hresult
    have hcontrol' : (v'.routine.run v'.world a).1.control = (v.routine.run v.world a).1.control :=
      hcontrol
    rw [hv, hcontrol', ho]
    exact ⟨rfl, rfl, rfl, .nil⟩
  | none =>
    let auth := (Flow.login password).authentication
    let auth' := (Flow.login password').authentication
    have hpassword : auth.password = some password := if_neg hp
    have hpassword' : auth'.password = some password' := if_neg hp'
    have hk : SameKind auth auth' := ⟨by rw [hpassword, hpassword']; rfl, rfl⟩
    have hfirst : auth.firstKind = .login := by
      rw [firstKind, hpassword]
      rfl
    have hfits := concealing_fits w.settings auth auth' hfirst
    rw [hpassword, hpassword'] at hfits
    -- the token is pinned, so that no random one is made
    have haccount (w : World) : accountFor w a auth.firstKind = a := by
      rw [hfirst]
      exact Account.ensureClientToken_of_some ha _
    have hsame : (accountFor (w.anew clock random) a auth.firstKind).undated =
        (accountFor w a auth.firstKind).undated := by
      rw [haccount, haccount]
    obtain ⟨hcontrol, h⟩ := Flow.run_alike clock random (.login password) (.login password') rfl
      hk hfits hw a a .nil hsame fun q p g _ _ _ =>
        tokenFault?_congr (Account.eq_of_undated hsame).2.2.1 g
    exact ⟨h.outcome, congrArg (·.activity.snapshot) hcontrol, h.account, h.log.requests⟩

/-- Two log-ins with different passwords, for a profile that is picked and then swapped. -/
theorem conceals_swapping :
    pinnedAccount.clientToken = some "t" ∧ swapping.server.IsScripted ∧ "secret" ≠ "" ∧
    "other" ≠ "" ∧
    ∃ clock random,
      let v : Visit := ⟨.login "secret", swapping, none⟩
      let v' : Visit := ⟨.login "other", swapping.anew clock random, none⟩
      (v'.result pinnedAccount).outcome = (v.result pinnedAccount).outcome ∧
        (v'.routine.run v'.world pinnedAccount).1.control.activity.snapshot =
          (v.routine.run v.world pinnedAccount).1.control.activity.snapshot ∧
        (v'.result pinnedAccount).account.undated = (v.result pinnedAccount).account.undated ∧
        SameButPassword "secret" "other" (v.result pinnedAccount).log.requests
          (v'.result pinnedAccount).log.requests := by
  have hw : swapping.server.IsScripted := by
    intro sent sent' q q' hlength hu
    have hempty : sent'.isEmpty = sent.isEmpty := by
      rw [Bool.eq_iff_iff, List.isEmpty_iff_length_eq_zero, List.isEmpty_iff_length_eq_zero,
        hlength]
    simp only [swapping, hempty, hu]
  have ha : pinnedAccount.clientToken = some "t" := rfl
  exact ⟨ha, hw, by decide, by decide, fun _ => ⟨Instant.epoch, 59, 0, by decide⟩, 7,
    conceals ha hw (by decide) (by decide) none _ _⟩

end Visit

end SignIn
