import SignIn.Proofs.Authentication.Round

/-!
# What an exchange hears

An exchange hears of the world in two ways: the server replies to what is sent, and the user
picks from what is shown.  Either of them may also tell it to stop.  What is sent depends on the
replies before, and so the replies are told one after the other: the first request is replied to,
and where this reply is accepted for a pick, so is the renewal that has to confirm it.  This is
put down here from the side of the server, and without the functions that deal with replies.

An exchange hears exactly that.  Each of these replies is in its log, with the account that the
request was made for; no other reply is, up to a word to stop; and every word to stop is the
world's.

## Main definitions

* `World.Interrupts`, `World.Tells` — where the world tells an exchange to stop.
* `Gets`, `Receives` — the replies to a round and to all rounds from one on.
* `Hears` — what a log says about the replies and the words to stop.

## Main results

* `round_eq_again_iff` — which reply leads to another round.
* `Receives.exchange_eq` — an exchange comes down to what comes of any of its replies.
* `Receives.act_of_not_granted`, `Receives.act_of_selected` — which replies end it, and how.
* `act_hears` — an exchange hears what the world says, and nothing else.
-/

namespace SignIn

open SignIn.Authentication

/-! ### Words to stop -/

/-- The world tells an attempt to stop, right after the last event of a log. -/
inductive World.Interrupts (w : World) : Log → Prop
  /-- A menu is open. -/
  | menu {log : Log} {m : Menu} {name : Option String}
    (h : w.picker log.menus m = .stopped name) : Interrupts w (log ++ [.offered m])
  /-- A request is under way, whether its reply still arrives or not. -/
  | request {log : Log} {q : Request} (h : ∀ p, w.server log.requests q ≠ .reply p) :
    Interrupts w (log ++ [.sent q])

/-- Every word to stop that is added to a log is the world's. -/
def World.Tells (w : World) (log more : Log) : Prop :=
  ∀ (before : Log) (a : Account) (after : Log), more = before ++ .stopped a :: after →
    w.Interrupts (log ++ before)

namespace World.Tells

variable {w : World} {log more later : Log}

theorem of_going (h : more.isStopped = false) : w.Tells log more := by
  rintro before a after rfl
  simp at h

theorem append (h : w.Tells log more) (h' : w.Tells (log ++ more) later) :
    w.Tells log (more ++ later) := by
  intro before a after hsplit
  rcases Log.append_cons_cases hsplit with ⟨rest, hmore, -⟩ | ⟨rest, rfl, hlater⟩
  · exact h before a rest hmore
  · rw [← List.append_assoc]
    exact h' rest a after hlater

/-- A single word to stop. -/
theorem stopped (more : Log) {after : Log} {a : Account} (hm : more.isStopped = false)
    (ha : after.isStopped = false) (h : w.Interrupts (log ++ more)) :
    w.Tells log (more ++ .stopped a :: after) := by
  intro before a' after' hsplit
  obtain ⟨rfl, -, -⟩ := Log.append_cons_inj (fun _ => Log.ne_stopped_of_mem hm)
    (fun _ => Log.ne_stopped_of_mem ha) ⟨a', rfl⟩ hsplit
  exact h

/-- A world that never interrupts never tells to stop. -/
theorem going (h : w.Tells log more) (hw : ∀ log, ¬ w.Interrupts log) :
    more.isStopped = false := by
  cases hs : more.isStopped with
  | false => rfl
  | true =>
    obtain ⟨before, a, after, hmore⟩ := Log.exists_stopped hs
    exact (hw _ (h before a after hmore)).elim

end World.Tells

theorem World.Sends.tells {w : World} {a : Account} {log more : Log} {r : Request} {p : Reply}
    (h : w.Sends a log r more p) : w.Tells log more := by
  cases h with
  | unsent => exact .of_going rfl
  | answered => exact .of_going rfl
  | stopped _ hp =>
    refine World.Tells.stopped [.sent r] rfl rfl (.request ?_)
    intro p' hreply
    simp [hreply] at hp

namespace Authentication

variable {auth : Authentication} {w : World} {k : Kind} {x y : Standing} {q : Request} {p : Reply}
  {g : Grant} {e : ProfileEntry} {v : Verdict}

theorem Shows.tells {more : Log} (h : Shows w x p more) : w.Tells x.log more := by
  cases h with
  | nothing => exact .of_going rfl
  | @menu g ps stop _ _ _ _ _ hs =>
    obtain rfl | ⟨rfl, name, hname⟩ := hs
    · exact .of_going rfl
    · exact .stopped [.offered (Authentication.menu ps)] rfl rfl (.menu hname)

theorem Round.tells (h : Round auth w k x y v) :
    ∃ new, y.log = x.log ++ new ∧ w.Tells x.log new := by
  cases h with
  | unsendable => exact ⟨[], (List.append_nil _).symm, .of_going rfl⟩
  | stopped _ hs => exact ⟨_, rfl, hs.tells⟩
  | @replied q p _ _ _ _ _ hh =>
    have hround : w.Tells x.log [.sent q, .answered q p (accountFor w x.account k)] :=
      .of_going rfl
    cases hh with
    | fails _ _ _ hm => exact ⟨_, List.append_assoc .., hround.append hm.tells⟩
    | ends => exact ⟨_, rfl, hround⟩
    | picks _ hm => exact ⟨_, List.append_assoc .., hround.append hm.tells⟩

theorem Exchange.tells {a : Account} {log : Log} {r : Result} (h : Exchange auth w a log r) :
    ∃ new, r.log = log ++ new ∧ w.Tells log new := by
  cases h with
  | single h => exact h.tells
  | @double a₁ a₂ q₁ q₂ p₁ g e more z o ha₁ hq₁ hx hp₁ accepted hm hs ha₂ hq₂ h₂ =>
    obtain ⟨new, hlog, htold⟩ := h₂.tells
    have hfirst : w.Tells log ([.sent q₁, .answered q₁ p₁ a₁] ++ more) := .of_going (by simp [hs])
    refine ⟨[.sent q₁, .answered q₁ p₁ a₁] ++ more ++ new, by simp [hlog], hfirst.append ?_⟩
    rw [← List.append_assoc]
    exact htold

/-! ### Replies -/

/-- Where an exchange stands that has just got a reply, after what happened before in it and in
the attempt. -/
def Standing.upon (x : Standing) (before : Log) (q : Request) (p : Reply) (a : Account) :
    Standing where
  account := a
  log := x.log ++ (before ++ [.answered q p a])
  hasPicked := !before.exchanges.isEmpty || x.hasPicked

/-- What is shown of the profiles to pick from: a menu, if there are several. -/
def offers (ps : List ProfileEntry) : Log := if 2 ≤ ps.length then [.offered (menu ps)] else []

@[simp] theorem requests_offers (ps : List ProfileEntry) : (offers ps).requests = [] := by
  unfold offers
  split <;> rfl

@[simp] theorem exchanges_offers (ps : List ProfileEntry) : (offers ps).exchanges = [] := by
  unfold offers
  split <;> rfl

@[simp] theorem isStopped_offers (ps : List ProfileEntry) : (offers ps).isStopped = false := by
  unfold offers
  split <;> rfl

/-- Where an exchange stands after a pick. -/
def Standing.picked (w : World) (x : Standing) (g : Grant) (e : ProfileEntry)
    (ps : List ProfileEntry) : Standing where
  account := x.account.granted g e (w.clock x.log.requests)
  log := x.log ++ offers ps
  hasPicked := true

/-- The server replies to the request of a round. -/
structure Gets (auth : Authentication) (w : World) (k : Kind) (x : Standing) (q : Request)
    (p : Reply) : Prop where
  /-- The exchange was not told to stop. -/
  going : x.log.isStopped = false
  /-- The request can be made. -/
  request : auth.request w.settings (accountFor w x.account k) k = .ok q
  /-- The server replies to it, after the requests before. -/
  replies : w.server x.log.requests q = .reply p

/-- The server replies to a request of an exchange, from one round on.  What happened before is
known, and so is the account that the request is made for. -/
inductive Receives (auth : Authentication) (w : World) :
    Kind → Standing → Log → Request → Reply → Account → Prop
  /-- It is the request of this round. -/
  | now {k : Kind} {x : Standing} {q : Request} {p : Reply} (h : Gets auth w k x q p) :
    Receives auth w k x [.sent q] q p (accountFor w x.account k)
  /-- The reply to this round is accepted for a pick, and it is a request after that. -/
  | later {k : Kind} {x : Standing} {q q' : Request} {p p' : Reply} {g : Grant} {e : ProfileEntry}
    {ps : List ProfileEntry} {before : Log} {a : Account} (h : Gets auth w k x q p)
    (accepted : Accepted w (x.upon [.sent q] q p (accountFor w x.account k)) p g e true)
    (lists : g.Lists ps)
    (rest : Receives auth w .renewal
      ((x.upon [.sent q] q p (accountFor w x.account k)).picked w g e ps) before q' p' a) :
    Receives auth w k x
      ([.sent q, .answered q p (accountFor w x.account k)] ++ (offers ps ++ before)) q' p' a

/-- Where a reply arrives, a round comes down to dealing with it. -/
theorem Gets.round_eq (h : Gets auth w k x q p) (isFirst : Bool) :
    auth.round w k isFirst x =
      auth.handle w isFirst (x.upon [.sent q] q p (accountFor w x.account k)) p := by
  rw [round_of_request_ok h.request]
  dsimp only
  rw [World.send_of_not_isStopped h.going, h.replies]
  dsimp only
  rw [if_neg (by simp [h.going])]
  rfl

/-- A profile that is picked is found, and the menu for it is shown. -/
theorem pick_of_picks {ps : List ProfileEntry} (h : g.Picks w x.log.menus e) (hl : g.Lists ps) :
    pick w x.account x.log ps = (x.log ++ offers ps, .ok e) := by
  cases h with
  | sole h =>
    obtain rfl := hl.unique h
    simp [pick, offers]
  | @chosen ps' name h several answer nonempty found =>
    obtain rfl := hl.unique h
    have hnamed : named ps (some name) = .ok e := named_eq_ok_iff.2 ⟨name, rfl, nonempty, found⟩
    rcases ps with _ | ⟨e₁, _ | ⟨e₂, ps⟩⟩
    · cases several
    · exact absurd several (Nat.lt_irrefl 1)
    · simp only [pick, World.offer, answer, hnamed, offers, if_pos several]

/-- A reply that is accepted for a pick leads to another round. -/
theorem handle_of_picked {ps : List ProfileEntry} (h : Accepted w x p g e true) (hl : g.Lists ps)
    (hx : x.log.isStopped = false) (isFirst : Bool) :
    auth.handle w isFirst x p = (x.picked w g e ps, .again) := by
  obtain ⟨⟩ | ⟨hsel, hfirst, hpick⟩ := h.names
  have hresolve : resolve w x g = (x.log ++ offers ps, .ok (e, true)) := by
    unfold resolve
    rw [hsel]
    dsimp only
    rw [hfirst, if_neg Bool.false_ne_true, candidates_eq_ok_iff.2 hl]
    dsimp only
    rw [pick_of_picks hpick hl]
    rfl
  rw [handle, granted_eq_ok_iff.2 ⟨h.status, h.not_gone, h.parse⟩]
  dsimp only
  rw [process, tokenFault?_of_accepted h, hresolve]
  dsimp only
  rw [if_neg h.id_ne_empty, if_neg (by simp [hx]), if_pos rfl, commit_eq_granted,
    Log.requests_append, requests_offers, List.append_nil]
  rfl

/-- A reply that is accepted for a selected profile ends the exchange well. -/
theorem handle_of_selected (h : Accepted w x p g e false) (hx : x.log.isStopped = false)
    (isFirst : Bool) :
    auth.handle w isFirst x p =
      ({ x with account := x.account.granted g e (w.clock x.log.requests) },
        .done (.working ("Logged in as " ++ e.name ++ "."))) := by
  have hh := handle_spec auth w isFirst p hx
  generalize auth.handle w isFirst x p = yv at hh ⊢
  obtain ⟨y, v⟩ := yv
  cases hh with
  | fails _ hno => exact (hno g e false h).elim
  | ends h' =>
    obtain ⟨rfl, rfl, -⟩ := h'.unique h
    rfl
  | picks h' => cases (h'.unique h).2.2

/-- **A round asks for another one** exactly if its reply is accepted for a pick. -/
theorem round_eq_again_iff {isFirst : Bool} :
    auth.round w k isFirst x = (y, .again) ↔ ∃ q p g e ps, Gets auth w k x q p ∧
      Accepted w (x.upon [.sent q] q p (accountFor w x.account k)) p g e true ∧ g.Lists ps ∧
        y = (x.upon [.sent q] q p (accountFor w x.account k)).picked w g e ps := by
  have hround {q : Request} {p : Reply} {g : Grant} {e : ProfileEntry} {ps : List ProfileEntry}
      (h : Gets auth w k x q p)
      (hacc : Accepted w (x.upon [.sent q] q p (accountFor w x.account k)) p g e true)
      (hl : g.Lists ps) : auth.round w k isFirst x =
        ((x.upon [.sent q] q p (accountFor w x.account k)).picked w g e ps, .again) := by
    rw [h.round_eq, handle_of_picked hacc hl (by simp [Standing.upon, h.going])]
  constructor
  · intro h
    have hr := round_spec auth w k isFirst x
    rw [h] at hr
    cases hr with
    | @replied q p _ _ hq hx hp hh =>
      cases hh with
      | @picks g e _ hacc =>
        obtain ⟨ps, hl⟩ := hacc.exists_lists
        have hgets : Gets auth w k x q p := ⟨hx, hq, hp⟩
        refine ⟨q, p, g, e, ps, hgets, hacc, hl, ?_⟩
        exact congrArg Prod.fst (h.symm.trans (hround hgets hacc hl))
  · rintro ⟨q, p, g, e, ps, h, hacc, hl, rfl⟩
    exact hround h hacc hl

/-- What an exchange comes to after a round. -/
def follow (auth : Authentication) (w : World) : Standing × Verdict → Result
  | (y, .done o) => ⟨o, y.account, y.log⟩
  | (y, .again) => auth.exchange w .renewal false y

theorem exchange_eq_follow (isFirst : Bool) :
    auth.exchange w k isFirst x = auth.follow w (auth.round w k isFirst x) := by
  rcases hr : auth.round w k isFirst x with ⟨y, o | _⟩
  · exact exchange_of_done hr
  · exact exchange_of_again hr

/-- An exchange adds to its log. -/
theorem exchange_log (auth : Authentication) (w : World) (k : Kind) (isFirst : Bool)
    (x : Standing) : ∃ new, (auth.exchange w k isFirst x).log = x.log ++ new := by
  obtain ⟨y, v, h, hend⟩ := exchange_spec auth w k isFirst x
  obtain ⟨new, hnew, -⟩ := h.tells
  obtain ⟨o, -, hr⟩ | ⟨-, z, o, h', hr⟩ := hend
  · exact ⟨new, by rw [hr, hnew]⟩
  · obtain ⟨later, hlater, -⟩ := h'.tells
    exact ⟨new ++ later, by rw [hr, hlater, hnew, List.append_assoc]⟩

theorem follow_log (auth : Authentication) (w : World) (y : Standing) (v : Verdict) :
    ∃ new, (auth.follow w (y, v)).log = y.log ++ new := by
  cases v with
  | done o => exact ⟨[], (List.append_nil _).symm⟩
  | again => exact exchange_log auth w .renewal false y

/-- Dealing with a reply brings no other one. -/
theorem handle_log (auth : Authentication) (w : World) (isFirst : Bool) (p : Reply)
    (hx : x.log.isStopped = false) :
    ∃ more, (auth.handle w isFirst x p).1.log = x.log ++ more ∧ more.exchanges = [] := by
  have h := handle_spec auth w isFirst p hx
  generalize auth.handle w isFirst x p = yv at h
  obtain ⟨y, v⟩ := yv
  cases h with
  | fails _ _ _ hm => exact ⟨_, rfl, hm.exchanges_eq_nil⟩
  | ends => exact ⟨[], (List.append_nil _).symm, rfl⟩
  | picks _ hm => exact ⟨_, rfl, hm.exchanges_eq_nil⟩

namespace Receives

variable {log before : Log} {a b : Account}

/-- Up to there, nothing told the exchange to stop. -/
theorem going (h : Receives auth w k x before q p a) :
    (x.upon before q p a).log.isStopped = false := by
  induction h with
  | now h => simp [Standing.upon, h.going]
  | later h _ _ _ ih =>
    simp only [Standing.upon, Standing.picked] at ih ⊢
    simpa using ih

/-- The request was made for the account. -/
theorem exists_request (h : Receives auth w k x before q p a) :
    ∃ k', auth.request w.settings a k' = .ok q := by
  induction h with
  | now h => exact ⟨_, h.request⟩
  | later _ _ _ _ ih => exact ih

/-- **An exchange comes down to what comes of any of its replies.** -/
theorem exchange_eq (h : Receives auth w k x before q p a) (isFirst : Bool) :
    auth.exchange w k isFirst x = auth.follow w
      (auth.handle w (isFirst && before.exchanges.isEmpty) (x.upon before q p a) p) := by
  induction h generalizing isFirst with
  | now h =>
    rw [exchange_eq_follow, h.round_eq]
    simp
  | @later k x q q' p p' g e ps before a h accepted lists _ ih =>
    rw [exchange_of_again (round_eq_again_iff.2 ⟨q, p, g, e, ps, h, accepted, lists, rfl⟩),
      ih false]
    simp [Standing.upon, Standing.picked]

/-- **A reply that makes no grant ends the exchange at once**, and the account stays as it was. -/
theorem act_of_not_granted (h : Receives auth w auth.firstKind ⟨a, log, false⟩ before q p b)
    {o : Outcome} (hg : granted (before.exchanges.isEmpty && auth.detectsOffline) p = .error o) :
    auth.act w a log = ⟨o, b, log ++ (before ++ [.answered q p b])⟩ := by
  have hh : auth.handle w (true && before.exchanges.isEmpty)
      (.upon ⟨a, log, false⟩ before q p b) p =
        (.upon ⟨a, log, false⟩ before q p b, .done o) := by
    rw [handle, Bool.true_and, hg]
  rw [act, h.exchange_eq, hh]
  rfl

/-- **A reply that is accepted for a selected profile ends the exchange well**, and is taken over. -/
theorem act_of_selected (h : Receives auth w auth.firstKind ⟨a, log, false⟩ before q p b)
    (hacc : Accepted w (.upon ⟨a, log, false⟩ before q p b) p g e false) :
    auth.act w a log = ⟨.working ("Logged in as " ++ e.name ++ "."),
      b.granted g e (w.clock (log.requests ++ before.requests)),
      log ++ (before ++ [.answered q p b])⟩ := by
  rw [act, h.exchange_eq, handle_of_selected hacc h.going]
  simp [follow, Standing.upon]

/-- The reply is in the log, right after what happened before it. -/
theorem exchange_log (h : Receives auth w k x before q p a) (isFirst : Bool) :
    ∃ after, (auth.exchange w k isFirst x).log = x.log ++ (before ++ .answered q p a :: after) := by
  rw [h.exchange_eq]
  obtain ⟨more, hmore, -⟩ := handle_log auth w (isFirst && before.exchanges.isEmpty) p h.going
  rcases hh : auth.handle w (isFirst && before.exchanges.isEmpty) (x.upon before q p a) p
    with ⟨y, v⟩
  obtain ⟨new, hnew⟩ := follow_log auth w y v
  rw [hh] at hmore
  refine ⟨more ++ new, ?_⟩
  rw [hnew, show y.log = _ from hmore]
  simp [Standing.upon]

end Receives

/-- The only reply of a round is the server's. -/
theorem Round.gets {before after : Log} {a : Account} (h : Round auth w k x y v)
    (hlog : y.log = x.log ++ (before ++ .answered q p a :: after))
    (hs : (x.log ++ before).isStopped = false) :
    Gets auth w k x q p ∧ before = [.sent q] ∧ a = accountFor w x.account k := by
  rw [Log.isStopped_append, Bool.or_eq_false_iff] at hs
  cases h with
  | unsendable => simp at hlog
  | @stopped q₁ more p₁ hq hsends hstop =>
    cases hsends with
    | unsent h => simp [hs.1] at h
    | answered => simp [hs.1] at hstop
    | stopped =>
      -- the word to stop comes before the reply
      have hsplit := List.append_cancel_left hlog
      obtain ⟨rfl, -⟩ := Log.append_answered_inj [.sent q₁, .stopped _] rfl rfl hsplit
      simp at hs
  | @replied q₁ p₁ _ _ hq hx hp hh =>
    have hmore : ∃ more : Log, more.exchanges = [] ∧ y.log =
        x.log ++ ([.sent q₁] ++ .answered q₁ p₁ (accountFor w x.account k) :: more) := by
      cases hh with
      | fails _ _ _ hm => exact ⟨_, hm.exchanges_eq_nil, by simp⟩
      | ends => exact ⟨[], rfl, rfl⟩
      | picks _ hm => exact ⟨_, hm.exchanges_eq_nil, by simp⟩
    obtain ⟨more, hm, hy⟩ := hmore
    have hsplit := List.append_cancel_left (hy.symm.trans hlog)
    obtain ⟨rfl, rfl, rfl, rfl, -⟩ := Log.append_answered_inj [.sent q₁] rfl hm hsplit
    exact ⟨⟨hx, hq, hp⟩, rfl, rfl⟩

/-- **Only what the server replies is in the log**, up to a word to stop. -/
theorem receives_of_log {isFirst : Bool} {before after : Log} {a : Account}
    (hlog : (auth.exchange w k isFirst x).log = x.log ++ (before ++ .answered q p a :: after))
    (hs : (x.log ++ before).isStopped = false) : Receives auth w k x before q p a := by
  -- by induction on the rounds; the reply belongs to this one or to those after it
  induction k, isFirst, x using exchange.induct auth w generalizing before with
  | case1 k isFirst x y o hr =>
    have hround := round_spec auth w k isFirst x
    rw [hr] at hround
    rw [exchange_of_done hr] at hlog
    obtain ⟨h, rfl, rfl⟩ := hround.gets hlog hs
    exact .now h
  | case2 k isFirst x y hr ih =>
    obtain ⟨q₁, p₁, g, e, ps, h, hacc, hl, rfl⟩ := round_eq_again_iff.1 hr
    obtain ⟨new, hnew⟩ := Authentication.exchange_log auth w .renewal false
      ((x.upon [.sent q₁] q₁ p₁ (accountFor w x.account k)).picked w g e ps)
    have hy : ((x.upon [.sent q₁] q₁ p₁ (accountFor w x.account k)).picked w g e ps).log =
        x.log ++ ([.sent q₁] ++ .answered q₁ p₁ (accountFor w x.account k) :: offers ps) := by
      simp [Standing.upon, Standing.picked]
    rw [exchange_of_again hr, hnew, hy, List.append_assoc] at hlog
    have hsplit := List.append_cancel_left hlog
    rcases Log.append_cons_cases hsplit with ⟨rest, hfirst, -⟩ | ⟨rest, rfl, hrest⟩
    · obtain ⟨rfl, rfl, rfl, rfl, -⟩ :=
        Log.append_answered_inj [.sent q₁] rfl (exchanges_offers ps) hfirst
      exact .now h
    · have hlater := ih (by rw [hnew, hrest]) (by rw [hy]; simpa using hs)
      simpa using Receives.later h hacc hl hlater

/-- What a log says that an exchange adds to another one. -/
structure Hears (auth : Authentication) (w : World) (a : Account) (log new : Log) : Prop where
  /-- Whatever the server replies is received. -/
  received : ∀ before q p b, Receives auth w auth.firstKind ⟨a, log, false⟩ before q p b →
    ∃ after, new = before ++ .answered q p b :: after
  /-- Up to a word to stop, nothing else is. -/
  heard : ∀ before q p b after, new = before ++ .answered q p b :: after →
    (log ++ before).isStopped = false →
      Receives auth w auth.firstKind ⟨a, log, false⟩ before q p b
  /-- Every word to stop is the world's. -/
  told : w.Tells log new

/-- **An exchange hears what the world says**, and nothing else. -/
theorem act_hears (auth : Authentication) (w : World) (a : Account) (log : Log) :
    ∃ new, (auth.act w a log).log = log ++ new ∧ Hears auth w a log new := by
  obtain ⟨new, hlog, htold⟩ := (act_spec auth w a log).tells
  refine ⟨new, hlog, ?_, ?_, htold⟩
  · intro before q p b h
    obtain ⟨after, hafter⟩ := h.exchange_log true
    exact ⟨after, List.append_cancel_left (hlog.symm.trans hafter)⟩
  · intro before q p b after hnew hs
    subst hnew
    exact receives_of_log (x := ⟨a, log, false⟩) hlog hs

end Authentication

end SignIn
