import SignIn.Proofs.Attempt
import SignIn.Proofs.Authentication.Acceptance
import SignIn.Proofs.Url.Appended

/-!
# What a round comes to

A round sends one request and deals with the reply.  If the attempt is not told to stop
meanwhile, a reply that is accepted is taken over as a whole, and any other reply leaves
the account alone.  Every way in which a round can end is put down as one case of an
inductive predicate; later proofs go through these cases and never open the functions.

## Main definitions

* `Shows` — the menu that a reply may bring about.
* `Resolves`, `Handles` — what comes of a grant and of a reply.
* `Round`, `Exchange` — what comes of a round, and of all of them.

## Main results

* `resolve_spec`, `handle_spec`, `round_spec` — every run of the functions is one of these
  cases.
* `act_spec` — an exchange is one round, or two of which the first picks a profile.
-/

namespace SignIn

namespace Authentication

open SignIn.Json

/-! ### Menus -/

/-- What a reply makes an exchange show: nothing, or the menu of the profiles that its grant
lists, where the exchange may be told to stop. -/
inductive Shows (w : World) (x : Standing) (p : Reply) : Log → Prop
  /-- Nothing is shown. -/
  | nothing : Shows w x p []
  /-- There are several profiles to pick from. -/
  | menu {g : Grant} {ps : List ProfileEntry} {stop : Log} (parse : Grant.parse p.body = .ok g)
    (unselected : g.selected = none) (first : x.hasPicked = false) (h : g.Lists ps)
    (several : 2 ≤ ps.length) (hs : stop = [] ∨ stop = [.stopped x.account] ∧
      ∃ name, w.picker x.log.menus (menu ps) = .stopped name) :
    Shows w x p (.offered (menu ps) :: stop)

namespace Shows

variable {w : World} {x : Standing} {p : Reply} {more : Log}

theorem requests_eq_nil (h : Shows w x p more) : more.requests = [] := by
  rcases h with _ | ⟨-, -, -, -, -, rfl | ⟨rfl, -⟩⟩ <;> rfl

theorem exchanges_eq_nil (h : Shows w x p more) : more.exchanges = [] := by
  rcases h with _ | ⟨-, -, -, -, -, rfl | ⟨rfl, -⟩⟩ <;> rfl

/-- Nothing is shown where the server considers a profile selected. -/
theorem eq_nil_of_selected {g : Grant} (h : Shows w x p more) (hp : Grant.parse p.body = .ok g)
    (hs : g.selected ≠ none) : more = [] := by
  rcases h with _ | ⟨hp', hsel, -, -, -, -⟩
  · rfl
  · rw [hp, Except.ok.injEq] at hp'
    exact absurd (hp' ▸ hsel) hs

/-- Nothing is shown after a pick. -/
theorem eq_nil_of_hasPicked (h : Shows w x p more) (hx : x.hasPicked = true) : more = [] := by
  rcases h with _ | ⟨-, -, first, -, -, -⟩
  · rfl
  · simp [hx] at first

/-- Nothing follows a word to stop at a menu. -/
theorem haltsAt (h : Shows w x p more) (hs : more.isStopped = true) : more.HaltsAt x.account := by
  rcases h with _ | ⟨-, -, -, -, -, rfl | ⟨rfl, -⟩⟩
  · cases hs
  · cases hs
  · exact ⟨[.offered _], [], rfl, rfl, rfl, rfl, rfl⟩

end Shows

/-! ### Settling on a profile -/

theorem named_eq_ok_iff {ps : List ProfileEntry} {name : Option String} {e : ProfileEntry} :
    named ps name = .ok e ↔ ∃ n, name = some n ∧ n ≠ "" ∧ ps.find? (·.name == n) = some e := by
  have hb : named ps name = .ok e ↔
      ((name.filter (· ≠ "")).bind fun n => ps.find? (·.name == n)) = some e := by
    unfold named
    split <;> rename_i hf <;> rw [hf] <;> simp
  rw [hb, Option.bind_eq_some_iff]
  simp only [Option.filter_eq_some_iff, decide_eq_true_eq, and_assoc]

theorem isFailure_of_named {ps : List ProfileEntry} {name : Option String} {o : Outcome}
    (h : named ps name = .error o) : o.status.isFailure = true := by
  unfold named at h
  split at h <;> cases h
  rfl

theorem isFailure_of_candidates {g : Grant} {o : Outcome} (h : candidates g = .error o) :
    o.status.isFailure = true := by
  unfold candidates at h
  repeat' split at h
  all_goals cases h
  all_goals rfl

/-- What comes of looking for the profile that a grant is for. -/
inductive Resolves (w : World) (x : Standing) (p : Reply) (g : Grant) :
    Log → Except Outcome (ProfileEntry × Bool) → Prop
  /-- The grant settles on it. -/
  | named {e : ProfileEntry} {isPicked : Bool} {more : Log} (h : g.Names w x e isPicked)
    (hm : Shows w x p more) (hs : more.isStopped = false) :
    Resolves w x p g more (.ok (e, isPicked))
  /-- The exchange is told to stop at the menu, and a profile is picked all the same. -/
  | interrupted {e : ProfileEntry} {more : Log} (hno : ∀ e isPicked, ¬ g.Names w x e isPicked)
    (hm : Shows w x p more) (hs : more.isStopped = true) : Resolves w x p g more (.ok (e, true))
  /-- There is none. -/
  | failed {o : Outcome} {more : Log} (ho : o.status.isFailure = true)
    (hno : ∀ e isPicked, ¬ g.Names w x e isPicked) (hm : Shows w x p more) :
    Resolves w x p g more (.error o)

/-- Among several profiles the menu decides. -/
theorem resolves_of_several {w : World} {x : Standing} {p : Reply} {g : Grant}
    {ps : List ProfileEntry} (hp : Grant.parse p.body = .ok g) (hsel : g.selected = none)
    (hx : x.hasPicked = false) (hl : g.Lists ps) (several : 2 ≤ ps.length) :
    ∃ more, (w.offer x.account x.log (menu ps)).1 = x.log ++ more ∧
      Resolves w x p g more
        ((named ps (w.offer x.account x.log (menu ps)).2).map fun e => (e, true)) := by
  have hnames {e : ProfileEntry} {b : Bool} (h : g.Names w x e b) : ∃ n,
      w.picker x.log.menus (menu ps) = .chosen (some n) ∧ named ps (some n) = .ok e := by
    rcases h with ⟨h, -⟩ | ⟨-, -, h | ⟨h, -, ha, hn, hf⟩⟩
    · simp [hsel] at h
    · simp [hl.unique h] at several
    · obtain rfl := hl.unique h
      exact ⟨_, ha, named_eq_ok_iff.2 ⟨_, rfl, hn, hf⟩⟩
  have hm {stop : Log} (hs : stop = [] ∨ stop = [.stopped x.account] ∧
      ∃ name, w.picker x.log.menus (menu ps) = .stopped name) :
      Shows w x p (.offered (menu ps) :: stop) := .menu hp hsel hx hl several hs
  cases ha : w.picker x.log.menus (menu ps) with
  | chosen name =>
    simp only [World.offer, ha]
    refine ⟨_, rfl, ?_⟩
    cases hn : named ps name with
    | ok e =>
      obtain ⟨n, rfl, hne, hf⟩ := named_eq_ok_iff.1 hn
      exact .named (.picked hsel hx (.chosen hl several ha hne hf)) (hm (.inl rfl)) rfl
    | error o =>
      refine .failed (isFailure_of_named hn) (fun e b h => ?_) (hm (.inl rfl))
      obtain ⟨n, ha', hn'⟩ := hnames h
      rw [ha, Pick.chosen.injEq] at ha'
      rw [← ha', hn] at hn'
      cases hn'
  | stopped name =>
    -- no pick settles on a profile once the exchange is told to stop
    have hno (e : ProfileEntry) (b : Bool) (h : g.Names w x e b) : False := by
      obtain ⟨n, ha', -⟩ := hnames h
      rw [ha] at ha'
      cases ha'
    simp only [World.offer, ha]
    refine ⟨_, rfl, ?_⟩
    cases hn : named ps name with
    | ok e => exact .interrupted hno (hm (.inr ⟨rfl, name, ha⟩)) rfl
    | error o => exact .failed (isFailure_of_named hn) hno (hm (.inr ⟨rfl, name, ha⟩))

/-- In a list, the only profile is picked, and the menu decides among several. -/
theorem resolves_of_lists {w : World} {x : Standing} {p : Reply} {g : Grant}
    {ps : List ProfileEntry} (hp : Grant.parse p.body = .ok g) (hsel : g.selected = none)
    (hx : x.hasPicked = false) (hl : g.Lists ps) :
    ∃ more, (pick w x.account x.log ps).1 = x.log ++ more ∧
      Resolves w x p g more ((pick w x.account x.log ps).2.map fun e => (e, true)) := by
  match ps, hl with
  | [], hl =>
    refine ⟨[], (List.append_nil _).symm, .failed rfl ?_ .nothing⟩
    intro e isPicked h
    -- an empty list has neither an only profile nor several
    rcases h with ⟨h, -⟩ | ⟨-, -, h | ⟨h, several, -, -, -⟩⟩
    · simp [hsel] at h
    · simpa using hl.unique h
    · simp [← hl.unique h] at several
  | [e], hl =>
    exact ⟨[], (List.append_nil _).symm, .named (.picked hsel hx (.sole hl)) .nothing rfl⟩
  | e :: e' :: ps, hl => exact resolves_of_several hp hsel hx hl (by simp)

/-- **Looking for the profile** finds the one that the grant settles on, unless the
exchange is told to stop meanwhile. -/
theorem resolve_spec (w : World) (x : Standing) {p : Reply} {g : Grant}
    (hp : Grant.parse p.body = .ok g) :
    ∃ more, (resolve w x g).1 = x.log ++ more ∧ Resolves w x p g more (resolve w x g).2 := by
  unfold resolve
  cases hsel : g.selected with
  | some v =>
    have hnames {e : ProfileEntry} {b : Bool} (h : g.Names w x e b) :
        ProfileEntry.ofValue? v = some e := by
      rcases h with ⟨h, hv⟩ | ⟨h, -, -⟩
      · rw [hsel, Option.some.injEq] at h
        rwa [h]
      · simp [hsel] at h
    dsimp only
    cases hv : ProfileEntry.ofValue? v with
    | some e => exact ⟨[], (List.append_nil _).symm, .named (.selected hsel hv) .nothing rfl⟩
    | none =>
      exact ⟨[], (List.append_nil _).symm,
        .failed rfl (fun e b h => by simp [hnames h] at hv) .nothing⟩
  | none =>
    dsimp only
    cases hx : x.hasPicked with
    | true =>
      refine ⟨[], (List.append_nil _).symm, .failed rfl (fun e b h => ?_) .nothing⟩
      rcases h with ⟨h, -⟩ | ⟨-, h, -⟩
      · simp [hsel] at h
      · simp [hx] at h
    | false =>
      rw [if_neg Bool.false_ne_true]
      cases hc : candidates g with
      | error o =>
        refine ⟨[], (List.append_nil _).symm, .failed (isFailure_of_candidates hc) ?_ .nothing⟩
        rintro e b (⟨h, -⟩ | ⟨-, -, h | ⟨h, -, -, -, -⟩⟩)
        · simp [hsel] at h
        all_goals simp [candidates_eq_ok_iff.2 h] at hc
      | ok ps =>
        exact resolves_of_lists hp hsel hx (candidates_eq_ok_iff.1 hc)

/-! ### Replies -/

/-- What comes of a reply, if the attempt was not told to stop. -/
inductive Handles (w : World) (x : Standing) (p : Reply) : Standing → Verdict → Prop
  /-- It is not accepted, and the account stays as it was. -/
  | fails {o : Outcome} {more : Log} (ho : o.status.isFailure = true)
    (hno : ∀ g e isPicked, ¬ Accepted w x p g e isPicked)
    (hard : ∀ t, x.account.clientToken = some t → ChangesToken t p →
      o.status = p.rejection ∧ more = [])
    (hm : Shows w x p more) : Handles w x p { x with log := x.log ++ more } (.done o)
  /-- It is accepted for the profile that the server considers selected. -/
  | ends {g : Grant} {e : ProfileEntry} (h : Accepted w x p g e false) :
    Handles w x p { x with account := x.account.granted g e (w.clock x.log.requests) }
      (.done (.working ("Logged in as " ++ e.name ++ ".")))
  /-- It is accepted for a profile that was picked. -/
  | picks {g : Grant} {e : ProfileEntry} {more : Log} (h : Accepted w x p g e true)
    (hm : Shows w x p more) (hs : more.isStopped = false) :
    Handles w x p ⟨x.account.granted g e (w.clock x.log.requests), x.log ++ more, true⟩ .again

/-- What comes of a reply before anything is shown. -/
theorem Handles.fails_at_once {w : World} {x : Standing} {p : Reply} {o : Outcome}
    (ho : o.status.isFailure = true) (hno : ∀ g e isPicked, ¬ Accepted w x p g e isPicked)
    (hard : ∀ t, x.account.clientToken = some t → ChangesToken t p → o.status = p.rejection) :
    Handles w x p x (.done o) := by
  simpa using Handles.fails ho hno (fun t ht h => ⟨hard t ht h, rfl⟩) .nothing

/-- With tokens in order, a reply cannot have another one than the pinned token. -/
theorem not_changesToken {a : Account} {p : Reply} {g : Grant} {t : String}
    (hp : Grant.parse p.body = .ok g) (ht : tokenFault? a g = none) (ha : a.clientToken = some t) :
    ¬ ChangesToken t p := by
  rintro ⟨-, g', hp', -, hne⟩
  rw [hp, Except.ok.injEq] at hp'
  exact hne (hp' ▸ (tokenFault?_eq_none_iff.1 ht).2.1 t ha)

/-- Tokens out of order end the exchange at once. -/
theorem handles_of_tokenFault? {w : World} {x : Standing} {p : Reply} {g : Grant} {o : Outcome}
    (hk : p.failureKind? ≠ some .gone) (hp : Grant.parse p.body = .ok g)
    (ht : tokenFault? x.account g = some o) : Handles w x p x (.done o) := by
  have ho := status_of_tokenFault? ht
  have hr : p.rejection = .failedHard := Reply.rejection_of_not_gone hk
  refine .fails_at_once (by rw [ho]; rfl) ?_ (fun _ _ _ => ho.trans hr.symm)
  intro g' e isPicked h
  obtain rfl : g' = g := Except.ok.inj (h.parse.symm.trans hp)
  rw [tokenFault?_of_accepted h] at ht
  cases ht

theorem process_spec {w : World} {x : Standing} {p : Reply} {g : Grant}
    (hs : p.status = some 200) (hk : p.failureKind? ≠ some .gone)
    (hp : Grant.parse p.body = .ok g) (hx : x.log.isStopped = false) :
    Handles w x p (process w x g).1 (process w x g).2 := by
  unfold process
  cases ht : tokenFault? x.account g with
  | some o => exact handles_of_tokenFault? hk hp ht
  | none =>
    obtain ⟨hc, hpin, ha⟩ := tokenFault?_eq_none_iff.1 ht
    have hard (t : String) (h : x.account.clientToken = some t) (h' : ChangesToken t p) {c : Prop} :
        c := (not_changesToken hp ht h h').elim
    have hnames {g' : Grant} {e : ProfileEntry} {b : Bool} (h : Accepted w x p g' e b) :
        g.Names w x e b := by
      obtain rfl : g' = g := Except.ok.inj (h.parse.symm.trans hp)
      exact h.names
    obtain ⟨more, hlog, hr⟩ := resolve_spec w x hp
    rcases hres : resolve w x g with ⟨log, res⟩
    rw [hres] at hlog hr
    obtain rfl := hlog
    dsimp only at hr ⊢
    cases hr with
    | failed ho hno hm =>
      exact .fails ho (fun _ e b h => hno e b (hnames h)) (fun t h h' => hard t h h') hm
    | interrupted hno hm hstop =>
      -- whatever was picked, the exchange ends
      dsimp only
      split
      · exact .fails rfl (fun _ e b h => hno e b (hnames h))
          (fun t h h' => hard t h h') hm
      · rw [if_pos (by simp [hstop])]
        exact .fails rfl (fun _ e b h => hno e b (hnames h))
          (fun t h h' => hard t h h') hm
    | @named e isPicked _ hn hm hstop =>
      dsimp only
      split
      · rename_i hid
        refine .fails rfl ?_ (fun t h h' => hard t h h') hm
        intro g' e' b h
        exact h.id_ne_empty ((hn.unique (hnames h)).1 ▸ hid)
      · rename_i hid
        have hacc : Accepted w x p g e isPicked := ⟨hs, hk, hp, hc, hpin, ha, hn, hid⟩
        rw [if_neg (by simp [hx, hstop]), commit_eq_granted, Log.requests_append,
          hm.requests_eq_nil, List.append_nil]
        cases isPicked with
        | true => exact .picks hacc hm hstop
        | false =>
          -- nothing is shown for a profile that the server considers selected
          obtain ⟨hsel, -⟩ := hn
          obtain rfl := hm.eq_nil_of_selected hp (by simp [hsel])
          rw [if_neg Bool.false_ne_true, List.append_nil, (Account.profile_granted ..).2]
          exact .ends hacc

theorem handle_spec (auth : Authentication) (w : World) (isFirst : Bool) {x : Standing} (p : Reply)
    (hx : x.log.isStopped = false) :
    Handles w x p (auth.handle w isFirst x p).1 (auth.handle w isFirst x p).2 := by
  unfold handle
  cases hg : granted (isFirst && auth.detectsOffline) p with
  | error o =>
    have hno {g : Grant} (hs : p.status = some 200) (hk : p.failureKind? ≠ some .gone)
        (hp : Grant.parse p.body = .ok g) : False := by
      simp [granted_eq_ok_iff.2 ⟨hs, hk, hp⟩] at hg
    refine .fails_at_once (isFailure_of_granted hg) (fun g e b h => hno h.status h.not_gone h.parse)
      fun t ht ⟨hs, g, hp, _⟩ => ?_
    by_cases hk : p.failureKind? = some .gone
    · rw [status_of_granted_of_gone hg hk, Reply.rejection, if_pos hk]
    · exact (hno hs hk hp).elim
  | ok g =>
    obtain ⟨hs, hk, hp⟩ := granted_eq_ok_iff.1 hg
    exact process_spec hs hk hp hx

/-! ### Rounds -/

/-- A round whose request cannot be made is over. -/
theorem round_of_request_error {auth : Authentication} {w : World} {k : Kind} {x : Standing}
    {e : Error} (h : auth.request w.settings (accountFor w x.account k) k = .error e)
    (isFirst : Bool) :
    auth.round w k isFirst x =
      ({ x with account := accountFor w x.account k }, .done (unsendable e)) := by
  unfold round send
  dsimp only
  rw [h]

/-- Any other round sends its request. -/
theorem round_of_request_ok {auth : Authentication} {w : World} {k : Kind} {x : Standing}
    {q : Request} (h : auth.request w.settings (accountFor w x.account k) k = .ok q)
    (isFirst : Bool) :
    auth.round w k isFirst x =
      let a := accountFor w x.account k
      let sent := w.send ("YggdrasilStep::" ++ k.endpoint) a x.log q
      let y : Standing := ⟨a, sent.1, x.hasPicked⟩
      match sent.2 with
      | .error e => (y, .done (unsendable e))
      | .ok p => if y.log.isStopped then (y, .done .aborted) else auth.handle w isFirst y p := by
  unfold round send
  dsimp only
  rw [h]
  dsimp only
  generalize w.send ("YggdrasilStep::" ++ k.endpoint) (accountFor w x.account k) x.log q = sent
  obtain ⟨log, e | p⟩ := sent
  · rfl
  · rfl

/-- A round that ends the exchange. -/
theorem exchange_of_done {auth : Authentication} {w : World} {k : Kind} {isFirst : Bool}
    {x y : Standing} {o : Outcome} (h : auth.round w k isFirst x = (y, .done o)) :
    auth.exchange w k isFirst x = ⟨o, y.account, y.log⟩ := by
  rw [exchange]
  split <;> simp_all

/-- A round that asks for another one. -/
theorem exchange_of_again {auth : Authentication} {w : World} {k : Kind} {isFirst : Bool}
    {x y : Standing} (h : auth.round w k isFirst x = (y, .again)) :
    auth.exchange w k isFirst x = auth.exchange w .renewal false y := by
  rw [exchange]
  split <;> simp_all

/-- What comes of a round. -/
inductive Round (auth : Authentication) (w : World) (k : Kind) (x : Standing) :
    Standing → Verdict → Prop
  /-- The address is no URL. -/
  | unsendable {e : Error} (he : address w.settings (accountFor w x.account k) k = .error e) :
    Round auth w k x { x with account := accountFor w x.account k } (.done (unsendable e))
  /-- The attempt was told to stop before, or is told so while the request is under way. -/
  | stopped {q : Request} {more : Log} {p : Reply}
    (hq : auth.request w.settings (accountFor w x.account k) k = .ok q)
    (hs : w.Sends (accountFor w x.account k) x.log q more p)
    (hstop : (x.log ++ more).isStopped = true) :
    Round auth w k x ⟨accountFor w x.account k, x.log ++ more, x.hasPicked⟩ (.done .aborted)
  /-- The reply arrives and is dealt with. -/
  | replied {q : Request} {p : Reply} {y : Standing} {v : Verdict}
    (hq : auth.request w.settings (accountFor w x.account k) k = .ok q)
    (hx : x.log.isStopped = false) (hp : w.server x.log.requests q = .reply p)
    (hh : Handles w ⟨accountFor w x.account k,
      x.log ++ [.sent q, .answered q p (accountFor w x.account k)], x.hasPicked⟩ p y v) :
    Round auth w k x y v

/-- **Every round is one of these.** -/
theorem round_spec (auth : Authentication) (w : World) (k : Kind) (isFirst : Bool)
    (x : Standing) :
    Round auth w k x (auth.round w k isFirst x).1 (auth.round w k isFirst x).2 := by
  unfold round send
  dsimp only
  cases hq : auth.request w.settings (accountFor w x.account k) k with
  | error e =>
    refine .unsendable ?_
    unfold request at hq
    cases ha : address w.settings (accountFor w x.account k) k with
    | ok url => simp [ha, Except.map] at hq
    | error e' => simpa [ha, Except.map] using hq
  | ok q =>
    obtain ⟨more, p, hsend, hs⟩ := w.send_spec ("YggdrasilStep::" ++ k.endpoint)
      (accountFor w x.account k) x.log q
    simp only [hsend]
    cases hstop : (x.log ++ more).isStopped with
    | true => exact .stopped hq hs hstop
    | false =>
      rw [if_neg Bool.false_ne_true]
      cases hs with
      | unsent h => simp [h] at hstop
      | stopped h hp => simp at hstop
      | answered h hp => exact .replied hq h hp (handle_spec auth w isFirst p hstop)

theorem clientToken_accountFor (w : World) {a : Account} {t : String}
    (h : a.clientToken = some t) (k : Kind) : (accountFor w a k).clientToken = some t := by
  cases k
  · exact Account.clientToken_ensureClientToken_of_some h _
  · exact h

/-- A round without an address makes no request. -/
theorem request_ne_ok {auth : Authentication} {s : Settings} {a : Account} {k : Kind} {e : Error}
    (h : address s a k = .error e) (q : Request) : auth.request s a k ≠ .ok q := by
  simp [request, h, Except.map]

/-- A pinned token stays. -/
theorem Round.clientToken_eq {auth : Authentication} {w : World} {k : Kind} {x y : Standing}
    {v : Verdict} (h : Round auth w k x y v) {t : String} (ht : x.account.clientToken = some t) :
    y.account.clientToken = some t := by
  have ha := clientToken_accountFor w ht k
  cases h with
  | unsendable => exact ha
  | stopped => exact ha
  | replied _ _ _ hh =>
    cases hh with
    | fails => exact ha
    | ends h => rw [h.clientToken_granted, h.pinned t ha]
    | picks h => rw [h.clientToken_granted, h.pinned t ha]

/-- Only the first pick asks for another round. -/
theorem Round.hasPicked_of_again {auth : Authentication} {w : World} {k : Kind} {x y : Standing}
    (h : Round auth w k x y .again) : x.hasPicked = false ∧ y.hasPicked = true := by
  cases h with
  | replied _ _ _ hh =>
    cases hh with
    | picks h =>
      obtain ⟨⟩ | ⟨-, first, -⟩ := h.names
      exact ⟨first, rfl⟩

/-- An exchange is one round, or two of which the first picks a profile. -/
theorem exchange_spec (auth : Authentication) (w : World) (k : Kind) (isFirst : Bool)
    (x : Standing) :
    ∃ y v, Round auth w k x y v ∧
      ((∃ o, v = .done o ∧ auth.exchange w k isFirst x = ⟨o, y.account, y.log⟩) ∨
        v = .again ∧ ∃ z o, Round auth w .renewal y z (.done o) ∧
          auth.exchange w k isFirst x = ⟨o, z.account, z.log⟩) := by
  have h₁ := round_spec auth w k isFirst x
  rw [exchange]
  split
  · rename_i y o hr
    rw [hr] at h₁
    exact ⟨y, _, h₁, .inl ⟨o, rfl, rfl⟩⟩
  · rename_i y hr
    rw [hr] at h₁
    have h₂ := round_spec auth w .renewal false y
    refine ⟨y, _, h₁, .inr ⟨rfl, ?_⟩⟩
    rw [exchange]
    split
    · rename_i z o hr'
      rw [hr'] at h₂
      exact ⟨z, o, h₂, rfl⟩
    · rename_i z hr'
      rw [hr'] at h₂
      -- a third round would need a second pick
      have := h₁.hasPicked_of_again.2
      rw [h₂.hasPicked_of_again.1] at this
      cases this

/-! ### Whole exchanges -/

theorem request_eq_ok_iff {auth : Authentication} {s : Settings} {a : Account} {k : Kind}
    {q : Request} :
    auth.request s a k = .ok q ↔
      ∃ url, Url.parse (a.authServerUrl s ++ "/" ++ k.endpoint) = .ok url ∧
        q = (Request.upload url (auth.body a k)).withJsonHeaders := by
  unfold request address
  cases Url.parse (a.authServerUrl s ++ "/" ++ k.endpoint) with
  | error f => simp [Except.map]
  | ok url => simp [Except.map, eq_comm]

theorem authServerUrl_eq {a b : Account} (h : b.service = a.service) (s : Settings) :
    b.authServerUrl s = a.authServerUrl s := by
  simp only [Account.authServerUrl, h]

theorem service_accountFor (w : World) (a : Account) (k : Kind) :
    (accountFor w a k).service = a.service := by
  cases k <;> rfl

/-- If any request can be made, so can a renewal for an account on the same service. -/
theorem exists_renewal {auth : Authentication} {s : Settings} {a b : Account} {k : Kind}
    {q : Request} (h : auth.request s a k = .ok q) (ha : b.service = a.service) :
    ∃ q', auth.request s b .renewal = .ok q' := by
  obtain ⟨url, hurl, -⟩ := request_eq_ok_iff.1 h
  have hok : (Url.parse (a.authServerUrl s ++ "/" ++ "refresh")).isOk = true :=
    Url.isOk_parse_append (List.all_eq_true.1 rfl) (by decide) (by rw [hurl]; rfl)
  cases hp : Url.parse (a.authServerUrl s ++ "/" ++ "refresh") with
  | error f =>
    rw [hp] at hok
    cases hok
  | ok url' => exact ⟨_, request_eq_ok_iff.2 ⟨url', by rw [authServerUrl_eq ha]; exact hp, rfl⟩⟩

/-- What comes of an exchange. -/
inductive Exchange (auth : Authentication) (w : World) (a : Account) (log : Log) : Result → Prop
  /-- It ends with its first round. -/
  | single {y : Standing} {o : Outcome}
    (h : Round auth w auth.firstKind ⟨a, log, false⟩ y (.done o)) :
    Exchange auth w a log ⟨o, y.account, y.log⟩
  /-- The first round picks a profile, and a second request is made to confirm it. -/
  | double {a₁ a₂ : Account} {q₁ q₂ : Request} {p₁ : Reply} {g : Grant} {e : ProfileEntry}
    {more : Log} {z : Standing} {o : Outcome} (ha₁ : a₁ = accountFor w a auth.firstKind)
    (hq₁ : auth.request w.settings a₁ auth.firstKind = .ok q₁) (hx : log.isStopped = false)
    (hp₁ : w.server log.requests q₁ = .reply p₁)
    (accepted : Accepted w ⟨a₁, log ++ [.sent q₁, .answered q₁ p₁ a₁], false⟩ p₁ g e true)
    (hm : Shows w ⟨a₁, log ++ [.sent q₁, .answered q₁ p₁ a₁], false⟩ p₁ more)
    (hs : more.isStopped = false) (ha₂ : a₂ = a₁.granted g e (w.clock (log.requests ++ [q₁])))
    (hq₂ : auth.request w.settings a₂ .renewal = .ok q₂)
    (h₂ : Round auth w .renewal ⟨a₂, log ++ [.sent q₁, .answered q₁ p₁ a₁] ++ more, true⟩ z
      (.done o)) :
    Exchange auth w a log ⟨o, z.account, z.log⟩

/-- **Authenticating comes to at most two rounds**, and the second request can always be
made. -/
theorem act_spec (auth : Authentication) (w : World) (a : Account) (log : Log) :
    Exchange auth w a log (auth.act w a log) := by
  obtain ⟨y, v, h₁, ⟨o, rfl, hr⟩ | ⟨rfl, z, o, h₂, hr⟩⟩ :=
    exchange_spec auth w auth.firstKind true ⟨a, log, false⟩
  · rw [act, hr]
    exact .single h₁
  · rw [act, hr]
    cases h₁ with
    | replied hq hx hp hh =>
      cases hh with
      | picks h hm hs =>
        obtain ⟨q₂, hq₂⟩ := exists_renewal hq (b := Account.granted _ _ _ _) rfl
        exact .double rfl hq hx hp h hm hs (by simp) hq₂ h₂

end Authentication

end SignIn
