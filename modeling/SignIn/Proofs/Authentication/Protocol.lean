import SignIn.Proofs.Authentication.Round

/-!
# What is sent and shown

However long a server goes on answering, an authentication step sends at most two
requests.  The second one confirms a pick: it follows the first reply exactly if that is
accepted for a profile which was picked from the list, and it names this profile.  The
user is asked at most once, about the profiles that the first reply lists.

## Main definitions

* `Authentication.Posts` — a request to an endpoint of the authentication server.
* `confirmation` — what the second request says.

## Main results

* `Round.log_of_hasPicked` — what happens after a pick.
* `perform_protocol` — the requests and the menus of a step.
-/

namespace SignIn

namespace Authentication

open SignIn.Json SignIn.Text

/-- The request sends something to an endpoint of the authentication server. -/
def Posts (s : Settings) (a : Account) (endpoint : String) (body : Bytes) (q : Request) : Prop :=
  ∃ url, Url.parse (a.authServerUrl s ++ "/" ++ endpoint) = .ok url ∧
    q = (Request.upload url body).withJsonHeaders

/-- What a request says that confirms a pick. -/
def confirmation (clientToken accessToken : String) (e : ProfileEntry) : Bytes :=
  Utf8.encode (Value.compact (.object [
    ("clientToken", .string clientToken), ("accessToken", .string accessToken),
    ("selectedProfile", .object [("id", .string e.id), ("name", .string e.name)]),
    ("requestUser", .bool false)]))

/-- The first thing that an authentication adds to a log is that a request is answered, and
the reply is accepted for a profile which is picked. -/
structure OpensWithPick (auth : Authentication) (w : World) (a : Account) (log new : Log)
    (q : Request) (p : Reply) (g : Grant) (e : ProfileEntry) : Prop where
  /-- The reply arrives before anything else happens. -/
  opens : ∃ more, new = .sent q :: .answered q p (accountFor w a auth.firstKind) :: more
  /-- It is accepted, and the profile is picked from the list. -/
  accepted : Accepted w ⟨accountFor w a auth.firstKind,
    log ++ [.sent q, .answered q p (accountFor w a auth.firstKind)], false⟩ p g e true

theorem OpensWithPick.eq {auth : Authentication} {w : World} {a a₁ : Account} {log new : Log}
    {q q' : Request} {p p' : Reply} {g : Grant} {e : ProfileEntry}
    (h : OpensWithPick auth w a log (.sent q :: .answered q p a₁ :: new) q' p' g e) :
    q' = q ∧ p' = p := by
  obtain ⟨⟨more, hmore⟩, -⟩ := h
  simp only [List.cons.injEq, Log.Event.sent.injEq, Log.Event.answered.injEq] at hmore
  exact ⟨hmore.1.symm, hmore.2.1.2.1.symm⟩

/-- The renewal after a pick names the profile. -/
theorem body_granted (auth : Authentication) {w : World} {x : Standing} {p : Reply} {g : Grant}
    {e : ProfileEntry} {b : Bool} (h : Accepted w x p g e b) (now : Time.Instant) :
    auth.body (x.account.granted g e now) .renewal =
      confirmation g.clientToken g.accessToken e := by
  have hid := (x.account.profile_granted g e now).1
  have hname := (x.account.profile_granted g e now).2
  have hne : (x.account.granted g e now).profile.isEmpty = false := by
    simpa [Profile.isEmpty, hid] using h.id_ne_empty
  have htoken : (x.account.granted g e now).accessToken.token = g.accessToken := rfl
  simp only [body, hne, Bool.false_eq_true, if_false, RenewalForm.body, RenewalForm.toValue,
    confirmation, h.clientToken_granted, htoken, hid, hname, optionalMember, Option.map_some,
    ProfileEntry.toValue, Option.getD_some, List.cons_append, List.nil_append]

/-- At most one menu is shown, after the first reply, with the names of the profiles that the
reply lists. -/
def AsksOnce (new : Log) : Prop :=
  new.menus = [] ∨ ∃ q p a g ps m rest,
    new = .sent q :: .answered q p a :: .offered m :: rest ∧ new.menus = [m] ∧
      Grant.parse p.body = .ok g ∧ g.Lists ps ∧ 2 ≤ ps.length ∧ m.options = ps.map (·.name)

/-- What an authentication step sends and shows, given what it adds to the log. -/
structure Follows (auth : Authentication) (w : World) (a : Account) (log new : Log)
    (r : Result) : Prop where
  /-- There are at most two requests. -/
  length_requests_le : new.requests.length ≤ 2
  /-- There is one, unless the attempt was told to stop before or the address is no URL. -/
  sends_iff : new.requests ≠ [] ↔ log.isStopped = false ∧ ∃ url,
    Url.parse (a.authServerUrl w.settings ++ "/" ++
      if auth.password.isSome then "authenticate" else "refresh") = .ok url
  /-- The first one logs in with a password, or renews the token without one. -/
  first : ∀ q rest, new.requests = q :: rest →
    ∃ body, Posts w.settings a (if auth.password.isSome then "authenticate" else "refresh") body q
  /-- There is a second one exactly if the first reply is accepted for a pick. -/
  second_iff : new.requests.length = 2 ↔ ∃ q p g e, OpensWithPick auth w a log new q p g e
  /-- It renews the token that was granted, for the profile that was picked. -/
  second : ∀ q p g e, OpensWithPick auth w a log new q p g e →
    r.account.clientToken = some g.clientToken ∧ ∃ q', new.requests = [q, q'] ∧
      Posts w.settings a "refresh" (confirmation g.clientToken g.accessToken e) q'
  /-- There is at most one menu. -/
  menus : AsksOnce new

/-- Where the first request goes. -/
theorem address_first (auth : Authentication) (w : World) (a : Account) :
    (accountFor w a auth.firstKind).authServerUrl w.settings ++ "/" ++ auth.firstKind.endpoint =
      a.authServerUrl w.settings ++ "/" ++
        if auth.password.isSome then "authenticate" else "refresh" := by
  rw [authServerUrl_eq (service_accountFor w a auth.firstKind), firstKind]
  cases auth.password.isSome <;> rfl

/-- The first request can be made if its address is a URL. -/
theorem exists_request_iff {auth : Authentication} {w : World} {a : Account} :
    (∃ q, auth.request w.settings (accountFor w a auth.firstKind) auth.firstKind = .ok q) ↔
      ∃ url, Url.parse (a.authServerUrl w.settings ++ "/" ++
        if auth.password.isSome then "authenticate" else "refresh") = .ok url := by
  rw [← address_first auth w a]
  constructor
  · rintro ⟨q, hq⟩
    obtain ⟨url, hurl, -⟩ := request_eq_ok_iff.1 hq
    exact ⟨url, hurl⟩
  · rintro ⟨url, hurl⟩
    exact ⟨_, request_eq_ok_iff.2 ⟨url, hurl, rfl⟩⟩

theorem posts_first {auth : Authentication} {w : World} {a : Account} {q : Request}
    (hq : auth.request w.settings (accountFor w a auth.firstKind) auth.firstKind = .ok q) :
    ∃ body, Posts w.settings a (if auth.password.isSome then "authenticate" else "refresh")
      body q := by
  obtain ⟨url, hurl, rfl⟩ := request_eq_ok_iff.1 hq
  exact ⟨_, url, by rw [← hurl, address_first], rfl⟩

/-- An exchange of one round: nothing opens it that would lead to another. -/
theorem Follows.of_single {auth : Authentication} {w : World} {a : Account} {log new : Log}
    {r : Result}
    (hreq : (new.requests = [] ∧ (log.isStopped = false → ∀ q,
        auth.request w.settings (accountFor w a auth.firstKind) auth.firstKind ≠ .ok q)) ∨
      ∃ q, new.requests = [q] ∧ log.isStopped = false ∧
        auth.request w.settings (accountFor w a auth.firstKind) auth.firstKind = .ok q)
    (hno : ∀ q p g e, ¬ OpensWithPick auth w a log new q p g e)
    (hm : AsksOnce new) : Follows auth w a log new r where
  length_requests_le := by
    obtain ⟨h, -⟩ | ⟨q, h, -⟩ := hreq <;> simp [h]
  sends_iff := by
    rw [← exists_request_iff]
    obtain ⟨h, hno⟩ | ⟨q, h, hl, hq⟩ := hreq
    · exact iff_of_false (by simp [h]) fun ⟨hl, q, hq⟩ => hno hl q hq
    · exact iff_of_true (by simp [h]) ⟨hl, q, hq⟩
  first q rest hnew := by
    obtain ⟨h, -⟩ | ⟨q', h, -, hq⟩ := hreq
    · simp [h] at hnew
    · obtain ⟨rfl, -⟩ : q' = q ∧ rest = [] := by simpa [h, eq_comm] using hnew
      exact posts_first hq
  second_iff := by
    refine iff_of_false ?_ fun ⟨q, p, g, e, h⟩ => hno q p g e h
    obtain ⟨h, -⟩ | ⟨q, h, -⟩ := hreq <;> simp [h]
  second q p g e h := (hno q p g e h).elim
  menus := hm

/-- The menu that a reply brings about is the only one, if none follows. -/
theorem Shows.asksOnce {w : World} {x : Standing} {p : Reply} {more later : Log}
    (h : Shows w x p more) (hl : later.menus = []) (q : Request) (a : Account) :
    AsksOnce (.sent q :: .answered q p a :: (more ++ later)) := by
  rcases h with _ | ⟨hp, -, -, h, several, hs⟩
  · exact .inl (by simp [hl])
  · refine .inr ⟨q, p, a, _, _, _, _, rfl, ?_, hp, h, several, rfl⟩
    rcases hs with rfl | ⟨rfl, -⟩ <;> simp [hl]

/-- **What happens after a pick**: one request is sent, while the account has the pick. -/
theorem Round.log_of_hasPicked {auth : Authentication} {w : World} {y z : Standing} {v : Verdict}
    {q : Request} (h : Round auth w .renewal y z v) (hy : y.hasPicked = true)
    (hs : y.log.isStopped = false) (hq : auth.request w.settings y.account .renewal = .ok q) :
    ∃ p, z.log = y.log ++ [.sent q, .answered q p y.account] ∨
      z.log = y.log ++ [.sent q, .stopped y.account, .answered q p y.account] := by
  cases h with
  | unsendable he => exact (request_ne_ok he q hq).elim
  | @stopped q' more p hq' hsends hstop =>
    obtain rfl : q' = q := Except.ok.inj (hq'.symm.trans hq)
    cases hsends with
    | unsent h => simp [hs] at h
    | answered => exact ⟨p, .inl rfl⟩
    | stopped => exact ⟨p, .inr rfl⟩
  | @replied q' p _ _ hq' _ _ hh =>
    obtain rfl : q' = q := Except.ok.inj (hq'.symm.trans hq)
    refine ⟨p, .inl ?_⟩
    cases hh with
    | fails _ _ _ hm =>
      obtain rfl := hm.eq_nil_of_hasPicked hy
      exact List.append_nil _
    | ends => rfl
    | picks h =>
      obtain ⟨⟩ | ⟨-, first, -⟩ := h.names
      simp [hy] at first

/-- After a pick, one request is sent and no menu is shown. -/
theorem Round.of_hasPicked {auth : Authentication} {w : World} {y z : Standing} {v : Verdict}
    {q : Request} (h : Round auth w .renewal y z v) (hy : y.hasPicked = true)
    (hs : y.log.isStopped = false) (hq : auth.request w.settings y.account .renewal = .ok q) :
    ∃ new, z.log = y.log ++ new ∧ new.requests = [q] ∧ new.menus = [] := by
  obtain ⟨p, hlog | hlog⟩ := h.log_of_hasPicked hy hs hq
  · exact ⟨_, hlog, rfl, rfl⟩
  · exact ⟨_, hlog, rfl, rfl⟩

/-- An exchange of one round sends one request at most, and nothing in it would lead to
another. -/
theorem Round.follows {auth : Authentication} {w : World} {a : Account} {log : Log} {y : Standing}
    {o : Outcome} (h : Round auth w auth.firstKind ⟨a, log, false⟩ y (.done o)) :
    ∃ new, y.log = log ++ new ∧ Follows auth w a log new ⟨o, y.account, y.log⟩ := by
  cases h with
  | unsendable he =>
    refine ⟨[], by simp, .of_single (.inl ⟨rfl, fun _ => request_ne_ok he⟩) ?_ (.inl rfl)⟩
    intro q p g e h
    simpa using h.opens
  | @stopped q more p hq hs hstop =>
    refine ⟨more, rfl, ?_⟩
    cases hs with
    | unsent h =>
      refine .of_single (.inl ⟨rfl, fun hl => ?_⟩) (fun q p g e h => by simpa using h.opens)
        (.inl rfl)
      simp [h] at hl
    | answered h => simp [h] at hstop
    | stopped hl =>
      -- the reply is not the first thing that happens after the request
      exact .of_single (.inr ⟨q, rfl, hl, hq⟩) (fun q p g e h => by simpa using h.opens) (.inl rfl)
  | @replied q p _ _ hq hx hp hh =>
    cases hh with
    | @fails o more ho hno hard hm =>
      refine ⟨.sent q :: .answered q p (accountFor w a auth.firstKind) :: (more ++ []), by simp,
        .of_single (.inr ⟨q, by simp [hm.requests_eq_nil], hx, hq⟩) ?_ (hm.asksOnce rfl q _)⟩
      intro q' p' g e h
      obtain ⟨rfl, rfl⟩ := h.eq
      exact hno g e true h.accepted
    | @ends g e hacc =>
      refine ⟨_, rfl, .of_single (.inr ⟨q, rfl, hx, hq⟩) ?_ (.inl rfl)⟩
      intro q' p' g' e' h
      obtain ⟨rfl, rfl⟩ := h.eq
      cases (hacc.unique h.accepted).2.2

theorem Exchange.follows {auth : Authentication} {w : World} {a : Account} {log : Log} {r : Result}
    (h : Exchange auth w a log r) : ∃ new, r.log = log ++ new ∧ Follows auth w a log new r := by
  cases h with
  | single h => exact h.follows
  | @double a₁ a₂ q₁ q₂ p₁ g e more z o ha₁ hq₁ hx hp₁ accepted hm hs ha₂ hq₂ h₂ =>
    obtain ⟨new, hlog, hreq, hmenus⟩ := h₂.of_hasPicked rfl (by simp [hx, hs]) hq₂
    have hrequests : Log.requests (.sent q₁ :: .answered q₁ p₁ a₁ :: (more ++ new)) = [q₁, q₂] := by
      simp [hm.requests_eq_nil, hreq]
    have htoken : a₂.clientToken = some g.clientToken := by
      rw [ha₂]
      exact accepted.clientToken_granted _
    subst ha₁
    refine ⟨.sent q₁ :: .answered q₁ p₁ (accountFor w a auth.firstKind) :: (more ++ new),
      by simp [hlog], ⟨by simp [hrequests], ?_, fun q rest h => ?_, ?_, fun q p g' e' h => ?_,
        hm.asksOnce hmenus q₁ _⟩⟩
    · exact iff_of_true (by simp [hrequests]) ⟨hx, exists_request_iff.1 ⟨q₁, hq₁⟩⟩
    · rw [hrequests, List.cons.injEq] at h
      obtain rfl := h.1
      exact posts_first hq₁
    · exact iff_of_true (by simp [hrequests]) ⟨q₁, p₁, g, e, ⟨_, rfl⟩, accepted⟩
    · -- what is accepted first is accepted in one way
      obtain ⟨rfl, rfl⟩ := h.eq
      obtain ⟨rfl, rfl, -⟩ := accepted.unique h.accepted
      obtain ⟨url, hurl, hq₂⟩ := request_eq_ok_iff.1 hq₂
      have hservice : a₂.service = a.service := by
        rw [ha₂]
        exact service_accountFor w a auth.firstKind
      refine ⟨h₂.clientToken_eq htoken, q₂, hrequests, url, ?_, ?_⟩
      · rw [← hurl, authServerUrl_eq hservice]
        rfl
      · rw [hq₂, ha₂]
        exact congrArg (fun body => (Request.upload url body).withJsonHeaders)
          (body_granted auth accepted _)

end Authentication

end SignIn
