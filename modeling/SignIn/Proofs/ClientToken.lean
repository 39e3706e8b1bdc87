import SignIn.Proofs.Authentication.Round
import SignIn.Proofs.Lookup

/-!
# Keeping to the pinned token

Once the token of the installation is pinned, no step changes it.  Every request that sends
anything says which one it is, and a reply that accepts the request with another one is turned
down as a whole.

Without a pinned token, a log-in makes one before it sends anything, and a renewal pins the
one of the first reply that it accepts.

## Main definitions

* `Request.Carries` — a request that says which token it is.
* `Keeps` — a part of an attempt that keeps to the pinned token.
* `Refuses` — a part of an attempt in which no reply is accepted.

## Main results

* `Authentication.Exchange.keeps`, `Lookup.Looks.keeps` — the steps keep to a pinned token.
* `Keeps.failedHard` — a response of status 200 with another token ends a step for good.
* `Authentication.Exchange.pins` — a renewal without one pins the token of the first reply that
  it accepts.
-/

namespace SignIn

open SignIn.Authentication SignIn.Json SignIn.Text

/-! ### Parts of an attempt -/

/-- What the request sends is an object that names the token. -/
def Request.Carries (t : String) (q : Request) : Prop :=
  ∃ members, q.body = Utf8.encode (Value.compact (.object members)) ∧
    members.lookup "clientToken" = some (.string t)

/-- The token is pinned while something happens, and is sent with whatever is sent.  Only
authenticating sends anything; the other requests ask for data. -/
def Log.Event.Keeps (t : String) : Log.Event → Prop
  | .sent q => q.kind = .upload → q.Carries t
  | .answered _ _ a => a.clientToken = some t
  | .offered _ => True
  | .stopped a => a.clientToken = some t

/-- A part of an attempt keeps to the pinned token, where it ends with the outcome and the
account, and the log is what happened in it. -/
structure Keeps (t : String) (o : Outcome) (a : Account) (log : Log) : Prop where
  /-- The token is pinned at the end. -/
  clientToken : a.clientToken = some t
  /-- It was so all along. -/
  events : ∀ e ∈ log, e.Keeps t
  /-- Unless the attempt was told to stop before, a reply that accepts the request with
  another token ends it on the spot, and leaves the account as it was; the failure stays if the
  reply is a response. -/
  rejects : ∀ (before : Log) q p a' after, log = before ++ .answered q p a' :: after →
    before.isStopped = false → q.kind = .upload → ChangesToken t p →
      o.status = p.rejection ∧ a = a' ∧ after = []

namespace Keeps

variable {t : String} {o o' : Outcome} {a a' : Account} {log more : Log}

/-- Where nothing is answered, nothing has to be turned down. -/
theorem of_exchanges_eq_nil (ha : a.clientToken = some t) (he : ∀ e ∈ log, e.Keeps t)
    (hx : log.exchanges = []) (o : Outcome) : Keeps t o a log where
  clientToken := ha
  events := he
  rejects before q p a' after h := by simp [h] at hx

theorem nil (ha : a.clientToken = some t) (o : Outcome) : Keeps t o a [] :=
  of_exchanges_eq_nil ha (by simp) rfl o

/-- One request is answered, perhaps with another token. -/
theorem of_answered {q : Request} {p : Reply} (ha : a.clientToken = some t)
    (ha' : a'.clientToken = some t) (hq : q.kind = .upload → q.Carries t)
    (he : ∀ e ∈ more, e.Keeps t) (hx : more.exchanges = [])
    (hc : q.kind = .upload → ChangesToken t p → o.status = p.rejection ∧ a' = a ∧ more = []) :
    Keeps t o a' ([.sent q, .answered q p a] ++ more) where
  clientToken := ha'
  events e h := by
    simp only [List.cons_append, List.nil_append, List.mem_cons] at h
    obtain rfl | rfl | h := h
    · exact hq
    · exact ha
    · exact he e h
  rejects before q' p' a'' after h hs hk hp := by
    obtain ⟨rfl, rfl, rfl, rfl, rfl⟩ :=
      Log.append_answered_inj [.sent q] rfl hx h
    exact hc hk hp

/-- Once told to stop, an attempt may end with any outcome. -/
theorem of_isStopped (h : Keeps t o a log) (hs : log.isStopped = true) (o' : Outcome) :
    Keeps t o' a log where
  clientToken := h.clientToken
  events := h.events
  rejects before q p a' after hlog hb hq hp := by
    obtain ⟨-, -, rfl⟩ := h.rejects before q p a' after hlog hb hq hp
    simp [hlog, hb] at hs

/-- **A response of status 200 with another token is turned down for good**, and the account stays
as it was. -/
theorem failedHard {before after : Log} {q : Request} {url : Url} {headers : Headers} {body : Bytes}
    {g : Grant} (h : Keeps t o a log)
    (hlog : log = before ++ .answered q (.ofResponse url 200 headers body) a' :: after)
    (hs : before.isStopped = false) (hq : q.kind = .upload) (hp : Grant.parse body = .ok g)
    (hne : g.clientToken ≠ "") (hchanged : g.clientToken ≠ t) :
    o.status = .failedHard ∧ a = a' ∧ after = [] := by
  have hrejects := h.rejects before q _ a' after hlog hs hq ⟨rfl, g, hp, hne, hchanged⟩
  rwa [Reply.rejection_ofResponse] at hrejects

/-- One part that did well is followed by another one. -/
theorem append (h : Keeps t o a log) (ho : o.status = .working) (h' : Keeps t o' a' more) :
    Keeps t o' a' (log ++ more) where
  clientToken := h'.clientToken
  events e he := (List.mem_append.1 he).elim (h.events e) (h'.events e)
  rejects before q p a'' after hlog hb hq hp := by
    obtain ⟨bs, rfl, hmore⟩ | ⟨bs, rfl, hmore⟩ := List.append_eq_append_iff.1 hlog
    · rw [Log.isStopped_append, Bool.or_eq_false_iff] at hb
      exact h'.rejects bs q p a'' after hmore hb.2 hq hp
    · cases bs with
      | nil => exact h'.rejects [] q p a'' after hmore.symm rfl hq hp
      | cons e bs =>
        -- the reply would have ended the first part
        obtain ⟨rfl, -⟩ := List.cons.inj hmore
        have hr := (h.rejects before q p a'' bs rfl hb hq hp).1
        rw [ho, Reply.rejection] at hr
        split at hr <;> cases hr

end Keeps

/-- No reply is accepted in a part of an attempt that leaves the account as it is. -/
def Refuses (w : World) (a : Account) (log : Log) : Prop :=
  ∀ (before : Log) q p after g e isPicked, log = before ++ .answered q p a :: after →
    before.isStopped = false → ¬ Accepted w ⟨a, before ++ [.answered q p a], false⟩ p g e isPicked

/-! ### Steps -/

/-- The reply to a request that was given up accepts nothing. -/
theorem not_changesToken_cancelled (t : String) (url : Url) :
    ¬ ChangesToken t (.cancelled url) := by
  rintro ⟨h, -⟩
  cases h

/-- An attempt that was told to stop turns nothing down. -/
theorem World.Sends.keeps {w : World} {a : Account} {log more : Log} {q : Request} {p : Reply}
    {t : String} (h : w.Sends a log q more p) (hstop : (log ++ more).isStopped = true)
    (ha : a.clientToken = some t) (hq : q.kind = .upload → q.Carries t) (o : Outcome) :
    Keeps t o a more := by
  cases h with
  | unsent =>
    refine ⟨ha, by simpa [Log.Event.Keeps] using ha, fun before q' p' a' after h _ _ hp => ?_⟩
    obtain ⟨-, rfl, rfl, -⟩ := Log.append_answered_inj [] rfl rfl h
    exact (not_changesToken_cancelled t _ hp).elim
  | answered h => simp [h] at hstop
  | stopped =>
    refine ⟨ha, by simpa [Log.Event.Keeps, ha] using hq, fun before q' p' a' after h hb _ _ => ?_⟩
    obtain ⟨rfl, -⟩ := Log.append_answered_inj [.sent q, .stopped a] rfl rfl h
    cases hb

namespace Authentication

/-- What authenticating sends says which token it is. -/
theorem carries_of_request {auth : Authentication} {s : Settings} {a : Account} {k : Kind}
    {q : Request} {t : String} (hq : auth.request s a k = .ok q) (ha : a.clientToken = some t) :
    q.Carries t := by
  obtain ⟨url, -, rfl⟩ := request_eq_ok_iff.1 hq
  have hb : (Request.upload url (auth.body a k)).withJsonHeaders.body = auth.body a k := rfl
  rw [Request.Carries, hb]
  cases k with
  | login =>
    simp only [body, LoginForm.body, LoginForm.toValue, ha]
    exact ⟨_, rfl, rfl⟩
  | renewal =>
    simp only [body, RenewalForm.body, RenewalForm.toValue, ha]
    exact ⟨_, rfl, rfl⟩

theorem Shows.events_keep {w : World} {x : Standing} {p : Reply} {more : Log} {t : String}
    (h : Shows w x p more) (ha : more.isStopped = true → x.account.clientToken = some t) :
    ∀ e ∈ more, e.Keeps t := by
  rcases h with _ | ⟨-, -, -, -, -, rfl | ⟨rfl, -⟩⟩
  · simp
  · simp [Log.Event.Keeps]
  · simpa [Log.Event.Keeps] using ha rfl

end Authentication

/-- An accepted reply is taken over, and the token stays. -/
theorem Accepted.keeps {w : World} {x : Standing} {q : Request} {p : Reply} {g : Grant}
    {e : ProfileEntry} {isPicked : Bool} {more : Log} {t : String}
    (h : Accepted w x p g e isPicked) (ha : x.account.clientToken = some t) (hq : q.Carries t)
    (hm : Shows w x p more) (now : Time.Instant) (o : Outcome) :
    Keeps t o (x.account.granted g e now) ([.sent q, .answered q p x.account] ++ more) := by
  have ht : (x.account.granted g e now).clientToken = some t := by
    rw [h.clientToken_granted, h.pinned t ha]
  exact .of_answered ha ht (fun _ => hq) (hm.events_keep fun _ => ha) hm.exchanges_eq_nil
    fun _ hc => (not_changesToken h.parse (tokenFault?_of_accepted h) ha hc).elim

namespace Authentication

/-- The last round keeps to the token. -/
theorem Round.keeps {auth : Authentication} {w : World} {k : Kind} {x y : Standing} {o : Outcome}
    {t : String} (h : Round auth w k x y (.done o))
    (ha : (accountFor w x.account k).clientToken = some t) :
    ∃ new, y.log = x.log ++ new ∧ Keeps t o y.account new := by
  cases h with
  | unsendable => exact ⟨[], (List.append_nil _).symm, .nil ha _⟩
  | stopped hq hs hstop =>
    exact ⟨_, rfl, hs.keeps hstop ha (fun _ => carries_of_request hq ha) _⟩
  | replied hq hx hp hh =>
    have hc := carries_of_request hq ha
    cases hh with
    | fails ho hno hard hm =>
      refine ⟨_, List.append_assoc .., ?_⟩
      refine .of_answered ha ha (fun _ => hc) (hm.events_keep fun _ => ha) hm.exchanges_eq_nil ?_
      intro _ hp
      obtain ⟨hr, hnil⟩ := hard t ha hp
      exact ⟨hr, rfl, hnil⟩
    | ends h => exact ⟨_, rfl, h.keeps ha hc .nothing _ _⟩

/-- **Authenticating keeps to a pinned token**, and to one that is pinned for the first
request. -/
theorem Exchange.keeps {auth : Authentication} {w : World} {a : Account} {log : Log} {r : Result}
    {t : String} (h : Exchange auth w a log r)
    (ha : (accountFor w a auth.firstKind).clientToken = some t) :
    ∃ new, r.log = log ++ new ∧ Keeps t r.outcome r.account new := by
  cases h with
  | single h => exact h.keeps ha
  | @double a₁ a₂ q₁ q₂ p₁ g e more z o ha₁ hq₁ hx hp₁ accepted hm hs ha₂ hq₂ h₂ =>
    rw [← ha₁] at ha
    -- the first reply was accepted, so nothing in the first round is turned down
    have h₁ : Keeps t (.working "") a₂ ([.sent q₁, .answered q₁ p₁ a₁] ++ more) := by
      rw [ha₂]
      exact accepted.keeps ha (carries_of_request hq₁ ha) hm _ _
    obtain ⟨new, hlog, hnew⟩ := h₂.keeps h₁.clientToken
    exact ⟨_, by simp [hlog], h₁.append rfl hnew⟩

/-- **A renewal without a pinned token** leaves the account as it is if no reply is accepted, and
pins the token of the first reply otherwise. -/
theorem Exchange.pins {auth : Authentication} {w : World} {a : Account} {r : Result}
    (h : Exchange auth w a [] r) (hk : auth.firstKind = .renewal) :
    (r.outcome.status ≠ .working ∧ r.account = a ∧ Refuses w a r.log) ∨
      ∃ q p g e isPicked new, r.log = [.sent q, .answered q p a] ++ new ∧
        Accepted w ⟨a, [.sent q, .answered q p a], false⟩ p g e isPicked ∧
        Keeps g.clientToken r.outcome r.account new := by
  cases h with
  | single h =>
    rw [hk] at h
    cases h with
    | unsendable => exact .inl ⟨nofun, rfl, fun before q p after g e b h => by simp at h⟩
    | stopped hq hs hstop =>
      refine .inl ⟨nofun, rfl, fun before q' p' after g e b h hb hacc => ?_⟩
      cases hs with
      | unsent h' => cases h'
      | answered => cases hstop
      | stopped =>
        -- the reply comes too late
        obtain ⟨rfl, -⟩ := Log.append_answered_inj [.sent _, .stopped a] rfl rfl h
        cases hb
    | replied hq hx hp hh =>
      cases hh with
      | fails ho hno _ hm =>
        refine .inl ⟨(Status.isFailure_iff.1 ho).1, rfl, ?_⟩
        intro before q' p' after g e b h hb hacc
        obtain ⟨rfl, rfl, rfl, -, rfl⟩ :=
          Log.append_answered_inj [.sent _] rfl hm.exchanges_eq_nil h
        exact hno g e b hacc
      | ends h => exact .inr ⟨_, _, _, _, _, [], rfl, h, .nil (h.clientToken_granted _) _⟩
  | @double a₁ a₂ q₁ q₂ p₁ g e more z o ha₁ hq₁ hx hp₁ accepted hm hs ha₂ hq₂ h₂ =>
    rw [hk] at ha₁
    subst ha₁
    have ha : a₂.clientToken = some g.clientToken := by
      rw [ha₂]
      exact accepted.clientToken_granted _
    have h₁ : Keeps g.clientToken (.working "") a₂ more :=
      .of_exchanges_eq_nil ha (hm.events_keep (by simp [hs])) hm.exchanges_eq_nil _
    obtain ⟨new, hlog, hnew⟩ := h₂.keeps ha
    exact .inr ⟨q₁, p₁, g, e, true, more ++ new, by simp [hlog], accepted,
      h₁.append rfl hnew⟩

end Authentication

/-- **Looking a profile up keeps to a pinned token.** -/
theorem Lookup.Looks.keeps {w : World} {a : Account} {log : Log} {r : Result} {t : String}
    (h : Lookup.Looks w a log r) (ha : a.clientToken = some t) :
    ∃ new, r.log = log ++ new ∧ Keeps t r.outcome r.account new := by
  have hkind {q : Request} (hq : Lookup.request w.settings a = .ok q) : q.kind ≠ .upload := by
    rw [Lookup.kind_of_request hq]
    exact nofun
  cases h with
  | nameless => exact ⟨[], (List.append_nil _).symm, .nil ha _⟩
  | unsendable => exact ⟨[], (List.append_nil _).symm, .nil ha _⟩
  | stopped _ hq hs hstop =>
    exact ⟨_, rfl, hs.keeps hstop ha (fun h => (hkind hq h).elim) _⟩
  | @replied q p _ hq =>
    have hk : Keeps t (judge p a.profile).1 { a with profile := (judge p a.profile).2 }
        ([.sent q, .answered q p a] ++ []) :=
      .of_answered ha ha (fun h => (hkind hq h).elim) (by simp) rfl fun h => (hkind hq h).elim
    exact ⟨_, rfl, hk⟩

end SignIn
