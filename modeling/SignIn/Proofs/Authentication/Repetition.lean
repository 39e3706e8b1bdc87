import SignIn.Proofs.Authentication.Confirmation

/-!
# Renewing again and again

A server that considers a profile selected has the last word on everything that a renewal changes:
the pinned token agrees with its own, and the access token and the profile are its.  So the same
reply to another renewal changes nothing more, apart from when the token was granted.  What the
second renewal sends is already what every later one sends.

## Main definitions

* `Account.untimed` — the account, whenever its token was granted.
* `Authentication.afterSteps` — where steps lead that are taken one after another.
* `Authentication.Renews` — what such a step comes to.

## Main results

* `Account.granted_granted` — taking a grant over twice is taking it over once, later.
* `act_of_selected` — what a renewal comes to whose reply selects a profile.
* `settled_afterSteps` — however many are made, the account has taken the grant over once.
* `perform_again` — each of them does what the first one did.
-/

namespace SignIn

open SignIn.Authentication SignIn.Time

namespace Account

/-- The account, whenever its token was granted. -/
def untimed (a : Account) : Account :=
  { a with accessToken := { a.accessToken with issuedAt := none } }

theorem untimed_granted (a : Account) (g : Grant) (e : ProfileEntry) (now later : Instant) :
    (a.granted g e now).untimed = (a.granted g e later).untimed := rfl

/-- The profile of a grant stays with the account that has taken it over. -/
theorem profile_granted_granted (a : Account) (g : Grant) (e : ProfileEntry) (now later : Instant) :
    ((a.granted g e now).granted g e later).profile = (a.granted g e now).profile := by
  obtain ⟨hid, hname⟩ := a.profile_granted g e now
  have hprofile : ((a.granted g e now).granted g e later).profile =
      { (a.granted g e now).profile with name := e.name } := if_pos hid
  rw [hprofile, ← hname]

/-- **Taking a grant over twice** is taking it over once, at the later time. -/
theorem granted_granted (a : Account) (g : Grant) (e : ProfileEntry) (now later : Instant) :
    (a.granted g e now).granted g e later = a.granted g e later := by
  have hprofile : ((a.granted g e now).granted g e later).profile = (a.granted g e later).profile :=
    a.profile_granted_granted g e now later
  rw [Account.mk.injEq]
  exact ⟨rfl, rfl, rfl, rfl, hprofile⟩

/-- The account is as it was, or has taken the grant over. -/
def Settles (a : Account) (g : Grant) (e : ProfileEntry) (b : Account) : Prop :=
  b = a ∨ ∃ now, b = a.granted g e now

theorem Settles.granted {a b : Account} {g : Grant} {e : ProfileEntry} (h : a.Settles g e b)
    (now : Instant) : b.granted g e now = a.granted g e now := by
  obtain rfl | ⟨before, rfl⟩ := h
  · rfl
  · exact a.granted_granted g e before now

theorem Settles.service {a b : Account} {g : Grant} {e : ProfileEntry} (h : a.Settles g e b) :
    b.service = a.service := by
  obtain rfl | ⟨before, rfl⟩ := h <;> rfl

end Account

/-- A reply that selects a profile is accepted wherever an exchange stands, if its token is the
pinned one there. -/
theorem Accepted.of_selected {w : World} {x y : Standing} {p : Reply} {g : Grant} {e : ProfileEntry}
    (h : Accepted w x p g e false)
    (hpinned : ∀ t, y.account.clientToken = some t → g.clientToken = t) :
    Accepted w y p g e false := by
  obtain ⟨hsel, hv⟩ := h.names
  exact { h with pinned := hpinned, names := .selected hsel hv }

/-- A reply that was accepted once is so again. -/
theorem Accepted.of_settles {w : World} {x y : Standing} {p : Reply} {g : Grant} {e : ProfileEntry}
    (h : Accepted w x p g e false) (hy : x.account.Settles g e y.account) :
    Accepted w y p g e false := by
  refine h.of_selected fun t ht => ?_
  obtain hy | ⟨now, hy⟩ := hy
  · exact h.pinned t (hy ▸ ht)
  · rw [hy, h.clientToken_granted, Option.some.injEq] at ht
    exact ht

namespace Authentication

/-! ### One step -/

theorem firstKind_of_renewal {auth : Authentication} (h : auth.password = none) :
    auth.firstKind = .renewal := by
  rw [firstKind, h]
  rfl

/-- **A renewal whose reply selects a profile** sends one request, shows no menu and takes the grant
over. -/
theorem act_of_selected {auth : Authentication} (hauth : auth.password = none) {w : World}
    {a : Account} {log : Log} {q : Request} {p : Reply} {g : Grant} {e : ProfileEntry}
    (hq : auth.request w.settings a .renewal = .ok q) (hx : log.isStopped = false)
    (hp : w.server log.requests q = .reply p) (hacc : Accepted w ⟨a, log, false⟩ p g e false) :
    auth.act w a log = ⟨.working ("Logged in as " ++ e.name ++ "."),
      a.granted g e (w.clock (log.requests ++ [q])), log ++ [.sent q, .answered q p a]⟩ := by
  have hselected : Accepted w (.upon ⟨a, log, false⟩ [.sent q] q p a) p g e false :=
    hacc.of_selected hacc.pinned
  have h : Receives auth w .renewal ⟨a, log, false⟩ [.sent q] q p a := .now ⟨hx, hq, hp⟩
  rw [← firstKind_of_renewal hauth] at h
  exact h.act_of_selected hselected

/-! ### One step after the other -/

/-- Where steps lead that are taken one after another, each of them a new one: the account and the
log after some of them. -/
def afterSteps (auth : Authentication) (w : World) (a : Account) (log : Log) : Nat → Account × Log
  | 0 => (a, log)
  | k + 1 =>
    let x := afterSteps auth w a log k
    let r := ((Step.authentication auth).perform w x.1 x.2).2
    (r.account, r.log)

/-- What the step comes to that is taken after some others. -/
def resultAfter (auth : Authentication) (w : World) (a : Account) (log : Log) (k : Nat) : Result :=
  ((Step.authentication auth).perform w (afterSteps auth w a log k).1
    (afterSteps auth w a log k).2).2

/-- The first steps are answered with the same reply, each of them. -/
def AnswersAll (auth : Authentication) (w : World) (a : Account) (log : Log) (p : Reply) (n : Nat) :
    Prop :=
  ∀ k < n, ∀ q, auth.request w.settings (afterSteps auth w a log k).1 .renewal = .ok q →
    w.server (afterSteps auth w a log k).2.requests q = .reply p

/-- What the renewal after some others sends: the first is for the account as it was, and all others
carry what the reply to it granted. -/
def renewalAfter (auth : Authentication) (a : Account) (g : Grant) (e : ProfileEntry) (url : Url)
    (k : Nat) : Request :=
  (Request.upload url (if k = 0 then auth.body a .renewal
    else confirmation g.clientToken g.accessToken e)).withJsonHeaders

/-- What a renewal comes to that starts where others have led, given what it sends and what the
first of them came to. -/
structure Renews (x : Account × Log) (q : Request) (p : Reply) (e : ProfileEntry)
    (first r : Result) : Prop where
  /-- It does well, always with the same message. -/
  outcome : r.outcome = .working ("Logged in as " ++ e.name ++ ".")
  /-- It sends one request, and shows nothing. -/
  log : r.log = x.2 ++ [.sent q, .answered q p x.1]
  /-- It leaves the account as the first renewal did, but for the time. -/
  account : r.account.untimed = first.account.untimed

variable {auth : Authentication} {w : World} {a : Account} {log : Log} {url : Url} {p : Reply}
  {g : Grant} {e : ProfileEntry} {n k : Nat}

theorem afterSteps_succ (auth : Authentication) (w : World) (a : Account) (log : Log) (k : Nat) :
    afterSteps auth w a log (k + 1) =
      ((resultAfter auth w a log k).account, (resultAfter auth w a log k).log) := rfl

/-- Where an account has been settled by the steps before, the next one does the same. -/
theorem resultAfter_of_settles (hauth : auth.password = none)
    (hurl : Url.parse (a.authServerUrl w.settings ++ "/" ++ "refresh") = .ok url)
    (hacc : Accepted w ⟨a, log, false⟩ p g e false) (hp : AnswersAll auth w a log p n) (hk : k < n)
    {b : Account} {more : Log} (hafter : afterSteps auth w a log k = (b, more))
    (hb : a.Settles g e b) (hx : more.isStopped = false) :
    ∃ now q, q = (Request.upload url (auth.body b .renewal)).withJsonHeaders ∧
      resultAfter auth w a log k = ⟨.working ("Logged in as " ++ e.name ++ "."),
        a.granted g e now, more ++ [.sent q, .answered q p b]⟩ := by
  have hq : auth.request w.settings b .renewal =
      .ok (Request.upload url (auth.body b .renewal)).withJsonHeaders :=
    request_eq_ok_iff.2 ⟨url, by rw [authServerUrl_eq hb.service]; exact hurl, rfl⟩
  have hreply := hp k hk
  rw [hafter] at hreply
  have hsettled : Accepted w ⟨b, more, false⟩ p g e false := hacc.of_settles hb
  have hact := act_of_selected hauth hq hx (hreply _ hq) hsettled
  rw [hb.granted] at hact
  rw [resultAfter, hafter]
  exact ⟨_, _, rfl, hact⟩

/-- **However many renewals are made**, the account has taken the grant over once, and nothing has
told the attempt to stop. -/
theorem settled_afterSteps (hauth : auth.password = none)
    (hurl : Url.parse (a.authServerUrl w.settings ++ "/" ++ "refresh") = .ok url)
    (hx : log.isStopped = false) (hacc : Accepted w ⟨a, log, false⟩ p g e false)
    (hp : AnswersAll auth w a log p n) (hk : k ≤ n) :
    a.Settles g e (afterSteps auth w a log k).1 ∧
      (k ≠ 0 → ∃ now, (afterSteps auth w a log k).1 = a.granted g e now) ∧
      (afterSteps auth w a log k).2.isStopped = false := by
  induction k with
  | zero => exact ⟨.inl rfl, fun h => absurd rfl h, hx⟩
  | succ k ih =>
    obtain ⟨hsettles, -, hgoing⟩ := ih (by omega)
    obtain ⟨now, q, -, hresult⟩ :=
      resultAfter_of_settles hauth hurl hacc hp (by omega) rfl hsettles hgoing
    rw [afterSteps_succ, hresult]
    exact ⟨.inr ⟨now, rfl⟩, fun _ => ⟨now, rfl⟩, by simp [hgoing]⟩

/-- **Renewing is idempotent.**  Renewals that are all answered with a reply which is accepted for
the account, and selects a profile, do well with the same message, send one request each and show no
menu.  Each leaves the account as the first one did, and from the second on each sends the same. -/
theorem perform_again (hauth : auth.password = none)
    (hurl : Url.parse (a.authServerUrl w.settings ++ "/" ++ "refresh") = .ok url)
    (hx : log.isStopped = false) (hacc : Accepted w ⟨a, log, false⟩ p g e false)
    (hp : AnswersAll auth w a log p n) (hk : k < n) :
    Renews (afterSteps auth w a log k) (renewalAfter auth a g e url k) p e
      (resultAfter auth w a log 0) (resultAfter auth w a log k) := by
  obtain ⟨hsettles, hgranted, hgoing⟩ := settled_afterSteps hauth hurl hx hacc hp hk.le
  obtain ⟨now, q, hq, hresult⟩ := resultAfter_of_settles hauth hurl hacc hp hk rfl hsettles hgoing
  obtain ⟨first, _, -, hfirst⟩ :=
    resultAfter_of_settles hauth hurl hacc hp (Nat.zero_lt_of_lt hk) rfl (.inl rfl) hx
  have hbody : auth.body (afterSteps auth w a log k).1 .renewal =
      if k = 0 then auth.body a .renewal else confirmation g.clientToken g.accessToken e := by
    by_cases h : k = 0
    · rw [if_pos h, h]
      rfl
    · obtain ⟨before, hbefore⟩ := hgranted h
      rw [if_neg h, hbefore]
      exact body_granted auth hacc before
  rw [hbody] at hq
  rw [hresult, hfirst, renewalAfter, ← hq]
  exact ⟨rfl, rfl, Account.untimed_granted ..⟩

/-- The same reply to everything. -/
def echoing (p : Reply) : World := { World.silent with server := fun _ _ => .reply p }

/-- The third renewal of an account without a token does what the first one did. -/
theorem perform_again_thrice :
    let a := Account.mojang "steve"
    ∃ url g, Url.parse (a.authServerUrl World.silent.settings ++ "/" ++ "refresh") = .ok url ∧
      let p := Reply.ofResponse url 200 [] selecting
      Accepted (echoing p) ⟨a, [], false⟩ p g ⟨"2", "B"⟩ false ∧
        AnswersAll renewal (echoing p) a [] p 3 ∧
        Renews (afterSteps renewal (echoing p) a [] 2) (renewalAfter renewal a g ⟨"2", "B"⟩ url 2) p
          ⟨"2", "B"⟩ (resultAfter renewal (echoing p) a [] 0)
          (resultAfter renewal (echoing p) a [] 2) := by
  obtain ⟨url, hurl⟩ : ∃ url, Url.parse ((Account.mojang "steve").authServerUrl
      World.silent.settings ++ "/" ++ "refresh") = .ok url := ⟨_, rfl⟩
  obtain ⟨g, hg, ht, ha, v, hsel, hv⟩ := parse_selecting
  let p := Reply.ofResponse url 200 [] selecting
  have hacc : Accepted (echoing p) ⟨Account.mojang "steve", [], false⟩ p g ⟨"2", "B"⟩ false :=
    accepted_of_parse nofun hg ht ha (.selected hsel hv) (by decide)
  have hp : AnswersAll renewal (echoing p) (Account.mojang "steve") [] p 3 := fun _ _ _ _ => rfl
  exact ⟨url, g, hurl, hacc, hp, perform_again rfl hurl rfl hacc hp (by decide)⟩

end Authentication

end SignIn
