import SignIn.Proofs.Authentication.Commit
import SignIn.Proofs.Lookup

/-!
# Two attempts side by side

Two attempts get the same replies, to requests that go to the same places, and the user picks
alike in both.  Their accounts may differ, and so may the passwords, the clocks and the random
bits.  As long as both accounts agree on the token that the first reply brings, the attempts come
to the same: none of the later checks looks at anything in which they differ.

What the accounts and the requests have in common is left open.  It is whatever the requests
that both attempts make, and the grants that both take over, leave in common.

## Main definitions

* `Server.IsScripted` — what the servers do does not depend on what requests say.
* `World.anew` — a world at another time.
* `Likeness`, `Likeness.Fits` — what two attempts have in common all along.
* `Standing.Alike`, `Log.Alike` — two attempts at the same place.

## Main results

* `Authentication.act_alike` — two exchanges come to the same.
* `Lookup.act_alike` — so do two look-ups.
-/

namespace SignIn

open SignIn.Time

/-- What the servers do depends on how many requests there were before and on where the next
one goes, and not on anything else in it. -/
def Server.IsScripted (s : Server) : Prop :=
  ∀ (sent sent' : List Request) (q q' : Request), sent'.length = sent.length → q'.url = q.url →
    s sent' q' = s sent q

/-- A world at another time, with other random bits. -/
def World.anew (w : World) (clock : List Request → Instant) (random : BitVec 128) : World :=
  { w with clock := clock, random := random }

/-! ### What two attempts have in common -/

/-- What two attempts have in common all along. -/
structure Likeness where
  /-- What their accounts have in common. -/
  accounts : Account → Account → Prop
  /-- What the requests that they sent have in common. -/
  requests : List Request → List Request → Prop

/-- Two logs at the same place of two attempts. -/
structure Log.Alike (l : Likeness) (log log' : Log) : Prop where
  /-- The requests have in common what they should. -/
  requests : l.requests log.requests log'.requests
  /-- There are as many of them. -/
  length : log'.requests.length = log.requests.length
  /-- The same menus were offered. -/
  menus : log'.menus = log.menus
  /-- Both attempts were told to stop, or neither was. -/
  isStopped : log'.isStopped = log.isStopped

/-- Two parts of attempts come to the same. -/
structure Result.Alike (l : Likeness) (r r' : Result) : Prop where
  /-- The outcomes are the same. -/
  outcome : r'.outcome = r.outcome
  /-- The accounts have in common what they should. -/
  account : l.accounts r.account r'.account
  /-- So do the logs. -/
  log : r.log.Alike l r'.log

/-- Two accounts to which the same profile was granted. -/
structure Account.Agrees (a a' : Account) : Prop where
  /-- Both have the same pinned token. -/
  clientToken : ∃ t, a.clientToken = some t ∧ a'.clientToken = some t
  /-- Both have the same profile. -/
  id : a'.profile.id = a.profile.id

namespace Authentication

/-- Two places in two exchanges. -/
structure Standing.Alike (l : Likeness) (x x' : Standing) : Prop where
  /-- The accounts have in common what they should. -/
  account : l.accounts x.account x'.account
  /-- So do the logs. -/
  log : x.log.Alike l x'.log
  /-- A profile was picked in both, or in neither. -/
  hasPicked : x'.hasPicked = x.hasPicked

/-- Two replies lead to the same. -/
structure Twins (l : Likeness) (r r' : Standing × Verdict) : Prop where
  /-- The verdicts are the same. -/
  verdict : r'.2 = r.2
  /-- The attempts are at the same place. -/
  standing : r.1.Alike l r'.1
  /-- If the attempts go on, both have taken over the same grant. -/
  agrees : r.2.isGood = true → r.1.account.Agrees r'.1.account

/-- Two requests are of the same kind. -/
structure SameKind (auth auth' : Authentication) : Prop where
  /-- Both exchanges have a password, or neither has. -/
  password : auth'.password.isSome = auth.password.isSome
  /-- Both report an unreachable service as offline, or neither does. -/
  detectsOffline : auth'.detectsOffline = auth.detectsOffline

theorem SameKind.firstKind {auth auth' : Authentication} (h : SameKind auth auth') :
    auth'.firstKind = auth.firstKind := by
  rw [Authentication.firstKind, Authentication.firstKind, h.password]

theorem SameKind.label {auth auth' : Authentication} (h : SameKind auth auth') :
    auth'.label = auth.label := by
  rw [Authentication.label, Authentication.label, h.password]

end Authentication

open Authentication

/-- What two attempts have in common stays so, whatever happens in both of them. -/
structure Likeness.Fits (l : Likeness) (s : Settings) (auth auth' : Authentication) : Prop where
  /-- The accounts live on the same service. -/
  service {a a' : Account} : l.accounts a a' → a'.service = a.service
  /-- The same grant may be taken over by both, at different times. -/
  granted {a a' : Account} (g : Grant) (e : ProfileEntry) (now now' : Instant) :
    l.accounts a a' → l.accounts (a.granted g e now) (a'.granted g e now')
  /-- The same look-up may be made for both. -/
  judged {a a' : Account} (p : Reply) : l.accounts a a' →
    l.accounts { a with profile := (Lookup.judge p a.profile).2 }
      { a' with profile := (Lookup.judge p a'.profile).2 }
  /-- Both may send their first request. -/
  first {a a' : Account} {q q' : Request} : l.accounts a a' →
    auth.request s a auth.firstKind = .ok q → auth'.request s a' auth.firstKind = .ok q' →
    l.requests [q] [q']
  /-- Both may send another one, to confirm a pick. -/
  renewal {a a' : Account} {sent sent' : List Request} {q q' : Request} : l.accounts a a' →
    l.requests sent sent' → sent ≠ [] → auth.request s a .renewal = .ok q →
    auth'.request s a' .renewal = .ok q' → l.requests (sent ++ [q]) (sent' ++ [q'])
  /-- Both may look the profile up. -/
  lookup {a a' : Account} {sent sent' : List Request} {q q' : Request} : l.accounts a a' →
    l.requests sent sent' → sent ≠ [] → Lookup.request s a = .ok q →
    Lookup.request s a' = .ok q' → l.requests (sent ++ [q]) (sent' ++ [q'])

/-! ### Acting on the world -/

section

variable {l : Likeness} {w : World} (clock : List Request → Instant) (random : BitVec 128)

namespace Log.Alike

variable {log log' : Log}

/-- The user picks alike. -/
theorem offer (h : log.Alike l log') (a a' : Account) (m : Menu) :
    (w.offer a log m).1.Alike l ((w.anew clock random).offer a' log' m).1 ∧
      ((w.anew clock random).offer a' log' m).2 = (w.offer a log m).2 := by
  have hp : (w.anew clock random).picker log'.menus m = w.picker log.menus m := by
    rw [h.menus]
    rfl
  obtain ⟨hr, hl, hm, hs⟩ := h
  rw [World.offer, World.offer, hp]
  cases w.picker log.menus m with
  | chosen name => exact ⟨⟨by simpa using hr, by simpa using hl, by simp [hm], by simp [hs]⟩, rfl⟩
  | stopped name => exact ⟨⟨by simpa using hr, by simpa using hl, by simp [hm], by simp⟩, rfl⟩

/-- The same reply comes to two requests that go to the same place. -/
theorem send (h : log.Alike l log') (hw : w.server.IsScripted) {q q' : Request}
    (hu : q'.url = q.url) (hq : l.requests (log.requests ++ [q]) (log'.requests ++ [q']))
    (name : String) (a a' : Account) :
    (w.send name a log q).1.Alike l ((w.anew clock random).send name a' log' q').1 ∧
      ((w.anew clock random).send name a' log' q').2 = (w.send name a log q).2 := by
  cases hs : log.isStopped with
  | true =>
    -- nothing is sent any more
    have hs' : log'.isStopped = true := h.isStopped.trans hs
    rw [World.send_of_isStopped hs, World.send_of_isStopped hs', hu]
    refine ⟨⟨?_, ?_, ?_, ?_⟩, rfl⟩
    · simpa using h.requests
    · simpa using h.length
    · simpa using h.menus
    · simp [hs, hs']
  | false =>
    have hs' : log'.isStopped = false := h.isStopped.trans hs
    have hturn : (w.anew clock random).server log'.requests q' = w.server log.requests q :=
      hw _ _ _ _ h.length hu
    rw [World.send_of_not_isStopped hs, World.send_of_not_isStopped hs', hturn, hu]
    have hlength : (log'.requests ++ [q']).length = (log.requests ++ [q]).length := by
      simp [h.length]
    cases w.server log.requests q with
    | reply p => exact ⟨⟨by simpa using hq, by simpa using hlength, by simp [h.menus],
        by simp [hs, hs']⟩, rfl⟩
    | stopped p => exact ⟨⟨by simpa using hq, by simpa using hlength, by simp [h.menus],
        by simp⟩, rfl⟩
    | silence => exact ⟨⟨by simpa using hq, by simpa using hlength, by simp [h.menus],
        by simp⟩, rfl⟩

end Log.Alike

/-- A reply that arrives, while nothing tells the attempt to stop, is the server's. -/
theorem World.reply_of_send {name : String} {a : Account} {log : Log} {q : Request} {p : Reply}
    (h : (w.send name a log q).2 = .ok p) (hs : (w.send name a log q).1.isStopped = false) :
    w.server log.requests q = .reply p := by
  obtain ⟨more, p', hsend, hsends⟩ := w.send_spec name a log q
  rw [hsend] at h hs
  obtain rfl := Except.ok.inj h
  cases hsends with
  | unsent hl => simp [hl] at hs
  | answered _ hp => exact hp
  | stopped => simp at hs

/-! ### Dealing with a reply -/

namespace Authentication

variable {x x' : Standing}

/-- The same tokens are in order for two accounts with the same pinned token. -/
theorem tokenFault?_congr {a a' : Account} (h : a'.clientToken = a.clientToken) (g : Grant) :
    tokenFault? a' g = tokenFault? a g := by
  unfold tokenFault? Account.checkClientToken
  rw [h]

/-- The user picks the same profile. -/
theorem pick_alike {log log' : Log} (h : log.Alike l log') (a a' : Account)
    (ps : List ProfileEntry) :
    (pick w a log ps).1.Alike l (pick (w.anew clock random) a' log' ps).1 ∧
      (pick (w.anew clock random) a' log' ps).2 = (pick w a log ps).2 := by
  match ps with
  | [] => exact ⟨h, rfl⟩
  | [p] => exact ⟨h, rfl⟩
  | p :: p' :: ps =>
    obtain ⟨hlog, hname⟩ := h.offer (w := w) clock random a a' (menu (p :: p' :: ps))
    exact ⟨hlog, congrArg (named (p :: p' :: ps)) hname⟩

/-- A grant is for the same profile. -/
theorem resolve_alike (h : x.Alike l x') (g : Grant) :
    (resolve w x g).1.Alike l (resolve (w.anew clock random) x' g).1 ∧
      (resolve (w.anew clock random) x' g).2 = (resolve w x g).2 := by
  unfold resolve
  cases g.selected with
  | some v =>
    dsimp only
    cases ProfileEntry.ofValue? v with
    | some e => exact ⟨h.log, rfl⟩
    | none => exact ⟨h.log, rfl⟩
  | none =>
    dsimp only
    rw [h.hasPicked]
    cases x.hasPicked with
    | true => exact ⟨h.log, rfl⟩
    | false =>
      rw [if_neg Bool.false_ne_true, if_neg Bool.false_ne_true]
      cases candidates g with
      | error o => exact ⟨h.log, rfl⟩
      | ok ps =>
        obtain ⟨hlog, hpick⟩ := pick_alike (w := w) clock random h.log x.account x'.account ps
        exact ⟨hlog, congrArg (Except.map fun p => (p, true)) hpick⟩

/-- Whoever finds no profile fails. -/
theorem isFailure_of_resolve {p : Reply} {g : Grant} (hp : Grant.parse p.body = .ok g)
    {o : Outcome} (h : (resolve w x g).2 = .error o) : o.status.isFailure = true := by
  obtain ⟨more, -, hr⟩ := resolve_spec w x hp
  rw [h] at hr
  cases hr with
  | failed ho => exact ho

/-- A failure takes nothing over. -/
theorem Twins.of_isFailure {y y' : Standing} {o : Outcome} (ho : o.status.isFailure = true)
    (h : y.Alike l y') : Twins l (y, .done o) (y', .done o) where
  verdict := rfl
  standing := h
  agrees hgood := ((Status.isFailure_iff.1 ho).1 (Verdict.isGood_done o |>.1 hgood)).elim

/-- Two accounts that take over the same grant agree afterwards. -/
theorem agrees_granted {a a' : Account} {g : Grant} {e : ProfileEntry}
    (ht : tokenFault? a g = none) (ht' : tokenFault? a' g = none) (now now' : Instant) :
    (a.granted g e now).Agrees (a'.granted g e now') := by
  have hpin {b : Account} (h : tokenFault? b g = none) (now : Instant) :
      (b.granted g e now).clientToken = some g.clientToken := by
    cases hb : b.clientToken with
    | none => simp [Account.granted, hb]
    | some t => simp [Account.granted, hb, (tokenFault?_eq_none_iff.1 h).2.1 t hb]
  refine ⟨⟨g.clientToken, hpin ht now, hpin ht' now'⟩, ?_⟩
  rw [(Account.profile_granted ..).1, (Account.profile_granted ..).1]

/-- A round that leads on has made a request. -/
theorem Round.requests_ne_nil {auth : Authentication} {k : Kind} {y : Standing} {v : Verdict}
    (h : Round auth w k x y v) (hv : v.isGood = true) : y.log.requests ≠ [] := by
  cases h with
  | unsendable => cases hv
  | stopped => cases hv
  | replied _ _ _ hh =>
    cases hh with
    | fails ho => exact ((Status.isFailure_iff.1 ho).1 ((Verdict.isGood_done _).1 hv)).elim
    | ends => simp
    | picks => simp

theorem Exchange.requests_ne_nil {auth : Authentication} {a : Account} {log : Log} {r : Result}
    (h : Exchange auth w a log r) (ho : r.outcome.status = .working) : r.log.requests ≠ [] := by
  cases h with
  | single h => exact h.requests_ne_nil ((Verdict.isGood_done _).2 ho)
  | double _ _ _ _ _ _ _ _ _ h => exact h.requests_ne_nil ((Verdict.isGood_done _).2 ho)

variable {auth auth' : Authentication} (hl : l.Fits w.settings auth auth')

include hl

theorem process_alike (h : x.Alike l x') {p : Reply} {g : Grant}
    (hp : Grant.parse p.body = .ok g)
    (hfault : tokenFault? x'.account g = tokenFault? x.account g) :
    Twins l (process w x g) (process (w.anew clock random) x' g) := by
  unfold process
  rw [hfault]
  cases ht : tokenFault? x.account g with
  | some o => exact .of_isFailure (by rw [status_of_tokenFault? ht]; rfl) h
  | none =>
    have ht' := hfault.trans ht
    obtain ⟨hlog, hres⟩ := resolve_alike (w := w) clock random h g
    have hfails {o : Outcome} := isFailure_of_resolve (w := w) (x := x) (o := o) hp
    generalize resolve w x g = r at hlog hres hfails ⊢
    generalize resolve (w.anew clock random) x' g = r' at hlog hres ⊢
    obtain ⟨log, res⟩ := r
    obtain ⟨log', res'⟩ := r'
    obtain rfl : res' = res := hres
    dsimp only at hlog hfails ⊢
    have hy : Standing.Alike l { x with log := log } { x' with log := log' } :=
      ⟨h.account, hlog, h.hasPicked⟩
    rcases res' with o | ⟨e, isPicked⟩
    · exact .of_isFailure (hfails rfl) hy
    · dsimp only
      rw [hlog.isStopped]
      split
      · exact .of_isFailure rfl hy
      · split
        · exact .of_isFailure rfl hy
        · -- both take the grant over
          rw [commit_eq_granted, commit_eq_granted, (Account.profile_granted ..).2,
            (Account.profile_granted ..).2]
          have ha := hl.granted g e (w.clock log.requests)
            ((w.anew clock random).clock log'.requests) h.account
          have hagrees := agrees_granted (e := e) ht ht' (w.clock log.requests)
            ((w.anew clock random).clock log'.requests)
          cases isPicked with
          | true => exact ⟨rfl, ⟨ha, hlog, rfl⟩, fun _ => hagrees⟩
          | false => exact ⟨rfl, ⟨ha, hlog, h.hasPicked⟩, fun _ => hagrees⟩

theorem handle_alike (hk : SameKind auth auth') (isFirst : Bool) (h : x.Alike l x') (p : Reply)
    (hfault : ∀ g, Grant.parse p.body = .ok g →
      tokenFault? x'.account g = tokenFault? x.account g) :
    Twins l (auth.handle w isFirst x p) (auth'.handle (w.anew clock random) isFirst x' p) := by
  unfold handle
  rw [hk.detectsOffline]
  cases hg : granted (isFirst && auth.detectsOffline) p with
  | error o => exact .of_isFailure (isFailure_of_granted hg) h
  | ok g =>
    have hp : Grant.parse p.body = .ok g := (granted_eq_ok_iff.1 hg).2.2
    exact process_alike clock random hl h hp (hfault g hp)

/-! ### Rounds and exchanges -/

/-- Two rounds come to the same, if the accounts agree on the tokens of the reply. -/
theorem round_alike (hw : w.server.IsScripted) (hk : SameKind auth auth') (k : Kind)
    (isFirst : Bool) (x x' : Standing) (hlog : x.log.Alike l x'.log)
    (hpicked : x'.hasPicked = x.hasPicked)
    (ha : l.accounts (accountFor w x.account k) (accountFor (w.anew clock random) x'.account k))
    (hq : ∀ q q', auth.request w.settings (accountFor w x.account k) k = .ok q →
      auth'.request w.settings (accountFor (w.anew clock random) x'.account k) k = .ok q' →
      l.requests (x.log.requests ++ [q]) (x'.log.requests ++ [q']))
    (hfault : ∀ q p g, auth.request w.settings (accountFor w x.account k) k = .ok q →
      w.server x.log.requests q = .reply p → Grant.parse p.body = .ok g →
      tokenFault? (accountFor (w.anew clock random) x'.account k) g =
        tokenFault? (accountFor w x.account k) g) :
    Twins l (auth.round w k isFirst x) (auth'.round (w.anew clock random) k isFirst x') := by
  have haddress : address w.settings (accountFor (w.anew clock random) x'.account k) k =
      address w.settings (accountFor w x.account k) k := by
    rw [address, address, authServerUrl_eq (hl.service ha)]
  generalize hb : accountFor w x.account k = a at ha hq hfault haddress
  generalize hb' : accountFor (w.anew clock random) x'.account k = a' at ha hq hfault haddress
  cases hurl : address w.settings a k with
  | error e =>
    have hr : auth.request w.settings (accountFor w x.account k) k = .error e := by
      rw [hb, request, hurl]
      rfl
    have hr' : auth'.request (w.anew clock random).settings
        (accountFor (w.anew clock random) x'.account k) k = .error e := by
      change auth'.request w.settings _ k = _
      rw [hb', request, haddress, hurl]
      rfl
    rw [round_of_request_error hr, round_of_request_error hr', hb, hb']
    exact .of_isFailure rfl ⟨ha, hlog, hpicked⟩
  | ok url =>
    obtain ⟨q, hr, hu⟩ : ∃ q, auth.request w.settings a k = .ok q ∧ q.url = url := by
      rw [request, hurl]
      exact ⟨_, rfl, rfl⟩
    obtain ⟨q', hr', hu'⟩ : ∃ q', auth'.request w.settings a' k = .ok q' ∧ q'.url = url := by
      rw [request, haddress, hurl]
      exact ⟨_, rfl, rfl⟩
    obtain ⟨hsent, hanswer⟩ := hlog.send clock random hw (hu'.trans hu.symm) (hq q q' hr hr')
      ("YggdrasilStep::" ++ k.endpoint) a a'
    rw [round_of_request_ok (hb ▸ hr), round_of_request_ok (w := w.anew clock random) (hb' ▸ hr'),
      hb, hb']
    dsimp only
    rw [hanswer, hsent.isStopped]
    have hy : Standing.Alike l
        ⟨a, (w.send ("YggdrasilStep::" ++ k.endpoint) a x.log q).1, x.hasPicked⟩
        ⟨a', ((w.anew clock random).send ("YggdrasilStep::" ++ k.endpoint) a' x'.log q').1,
          x'.hasPicked⟩ := ⟨ha, hsent, hpicked⟩
    cases hp : (w.send ("YggdrasilStep::" ++ k.endpoint) a x.log q).2 with
    | error e => exact .of_isFailure rfl hy
    | ok p =>
      dsimp only
      cases hs : (w.send ("YggdrasilStep::" ++ k.endpoint) a x.log q).1.isStopped with
      | true => exact .of_isFailure rfl hy
      | false =>
        rw [if_neg Bool.false_ne_true, if_neg Bool.false_ne_true]
        have hreply := World.reply_of_send hp hs
        exact handle_alike clock random hl hk isFirst hy p fun g => hfault q p g hr hreply

/-- **Two exchanges come to the same**, if the accounts agree on the tokens of the first reply.
If that is to do their part, both have taken over the same grant. -/
theorem act_alike (hw : w.server.IsScripted) (hk : SameKind auth auth') {a a' : Account}
    (hnil : l.requests [] [])
    (ha : l.accounts (accountFor w a auth.firstKind)
      (accountFor (w.anew clock random) a' auth.firstKind))
    (hfault : ∀ q p g, auth.request w.settings (accountFor w a auth.firstKind) auth.firstKind =
        .ok q → w.server [] q = .reply p → Grant.parse p.body = .ok g →
      tokenFault? (accountFor (w.anew clock random) a' auth.firstKind) g =
        tokenFault? (accountFor w a auth.firstKind) g) :
    (auth.act w a []).Alike l (auth'.act (w.anew clock random) a' []) ∧
      ((auth.act w a []).outcome.status = .working →
        (auth.act w a []).account.Agrees (auth'.act (w.anew clock random) a' []).account) := by
  have h₁ := round_alike clock random hl hw hk auth.firstKind true ⟨a, [], false⟩ ⟨a', [], false⟩
    ⟨hnil, rfl, rfl, rfl⟩ rfl ha (fun q q' => hl.first ha) hfault
  have hasked := (round_spec auth w auth.firstKind true ⟨a, [], false⟩).requests_ne_nil
  rw [act, act, hk.firstKind]
  cases hr : auth.round w auth.firstKind true ⟨a, [], false⟩ with
  | mk y v =>
  cases hr' : auth'.round (w.anew clock random) auth.firstKind true ⟨a', [], false⟩ with
  | mk y' v' =>
  rw [hr, hr'] at h₁
  rw [hr] at hasked
  obtain ⟨rfl : v' = v, hy, hagrees⟩ := h₁
  cases v' with
  | done o =>
    rw [exchange_of_done hr, exchange_of_done hr']
    exact ⟨⟨rfl, hy.account, hy.log⟩, fun ho => hagrees ((Verdict.isGood_done o).2 ho)⟩
  | again =>
    rw [exchange_of_again hr, exchange_of_again hr']
    -- both have taken over the first reply, and so agree on the tokens of the second one
    obtain ⟨t, ht, ht'⟩ := (hagrees rfl).clientToken
    have h₂ := round_alike clock random hl hw hk .renewal false y y' hy.log hy.hasPicked hy.account
      (fun q q' => hl.renewal hy.account hy.log.requests (hasked rfl))
      (fun q p g _ _ _ => tokenFault?_congr (ht'.trans ht.symm) g)
    cases hr₂ : auth.round w .renewal false y with
    | mk z v =>
    cases hr₂' : auth'.round (w.anew clock random) .renewal false y' with
    | mk z' v' =>
    rw [hr₂, hr₂'] at h₂
    obtain ⟨rfl : v' = v, hz, hagrees⟩ := h₂
    cases v' with
    | done o =>
      rw [exchange_of_done hr₂, exchange_of_done hr₂']
      exact ⟨⟨rfl, hz.account, hz.log⟩, fun ho => hagrees ((Verdict.isGood_done o).2 ho)⟩
    | again =>
      -- a third round would need a second pick
      have hpicked := (hasPicked_of_round hr).2
      rw [(hasPicked_of_round hr₂).1] at hpicked
      cases hpicked

end Authentication

/-! ### Looking the profile up -/

namespace Lookup

/-- How a reply is judged has nothing to do with the profile that the account had. -/
theorem judge_fst (p : Reply) (profile profile' : Profile) :
    (judge p profile').1 = (judge p profile).1 := by
  unfold judge
  cases p.failure with
  | none => rfl
  | some f =>
    dsimp only
    unfold failed
    split
    · rfl
    · split <;> rfl

/-- **Two look-ups come to the same**, if they are for the same profile. -/
theorem act_alike {auth auth' : Authentication} (hl : l.Fits w.settings auth auth')
    (hw : w.server.IsScripted) {a a' : Account} {log log' : Log} (ha : l.accounts a a')
    (hid : a'.profile.id = a.profile.id) (hlog : log.Alike l log') (hne : log.requests ≠ []) :
    (act w a log).Alike l (act (w.anew clock random) a' log') := by
  have hempty : a'.profile.isEmpty = a.profile.isEmpty := by
    rw [Profile.isEmpty, Profile.isEmpty, hid]
  have hrequest : request (w.anew clock random).settings a' = request w.settings a := by
    rw [request, request, hid, Account.sessionServerUrl, Account.sessionServerUrl, hl.service ha]
    rfl
  unfold act
  rw [hempty]
  cases a.profile.isEmpty with
  | true => exact ⟨rfl, ha, hlog⟩
  | false =>
    rw [if_neg Bool.false_ne_true, if_neg Bool.false_ne_true]
    rw [hrequest]
    cases hq : request w.settings a with
    | error e => exact ⟨rfl, ha, hlog⟩
    | ok q =>
      have hq' := hrequest.trans hq
      obtain ⟨hsent, hanswer⟩ := hlog.send clock random (q := q) hw rfl
        (hl.lookup ha hlog.requests hne hq hq') "ProfileFetchStep" a a'
      dsimp only
      generalize w.send "ProfileFetchStep" a log q = sent at hsent hanswer ⊢
      generalize (w.anew clock random).send "ProfileFetchStep" a' log' q = sent' at hsent hanswer ⊢
      obtain ⟨log₁, answer⟩ := sent
      obtain ⟨log₁', answer'⟩ := sent'
      obtain rfl : answer' = answer := hanswer
      dsimp only at hsent ⊢
      cases answer' with
      | error e => exact ⟨rfl, ha, hsent⟩
      | ok p =>
        dsimp only
        rw [hsent.isStopped]
        split
        · exact ⟨rfl, ha, hsent⟩
        · exact ⟨judge_fst p a.profile a'.profile, hl.judged p ha, hsent⟩

end Lookup

end

end SignIn
