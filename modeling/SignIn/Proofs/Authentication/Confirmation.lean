import SignIn.Proofs.Authentication.Protocol
import SignIn.Proofs.Authentication.Received
import SignIn.Proofs.Except
import SignIn.Proofs.Routine.Cancellation

/-!
# What confirms a pick

After a pick, an exchange asks for one more grant, which has to come with a profile that the
server considers selected.  This profile is the one that the account has afterwards.  So a pick
stays exactly if the server selects what was picked: where it selects nothing the exchange fails,
and where it selects another profile, that one takes the place of the pick.

## Main definitions

* `Reply.Selects` — the profile that a reply considers selected.
* `Confirmed` — how an exchange with a pick does well.
* `swapping` — a server that selects another profile than the one that was picked.
* `Swaps` — what a renewal gets there.

## Main results

* `Round.of_working` — a last round does well only by an accepted reply that selects a profile.
* `perform_confirmed` — the account has the profile that the confirming reply selects.
* `pick_replaced` — this need not be the one that was picked.
-/

namespace SignIn

open SignIn.Authentication SignIn.Json SignIn.Text

/-- The server considers a profile selected. -/
def Reply.Selects (p : Reply) (e : ProfileEntry) : Prop :=
  ∃ g v, Grant.parse p.body = .ok g ∧ g.selected = some v ∧ ProfileEntry.ofValue? v = some e

/-- A reply that is accepted without a pick selects the profile that it is accepted for. -/
theorem Accepted.selects {w : World} {x : Standing} {p : Reply} {g : Grant} {e : ProfileEntry}
    (h : Accepted w x p g e false) : p.Selects e := by
  obtain ⟨hsel, hv⟩ := h.names
  exact ⟨g, _, h.parse, hsel, hv⟩

namespace Authentication

/-- **A last round does well only by an accepted reply** for the profile that the server
considers selected. -/
theorem Round.of_working {auth : Authentication} {w : World} {k : Kind} {x y : Standing}
    {o : Outcome} (h : Round auth w k x y (.done o)) (ho : o.status = .working) :
    ∃ q p g e,
      y.log = x.log ++ [.sent q, .answered q p (accountFor w x.account k)] ∧
      Accepted w ⟨accountFor w x.account k,
        x.log ++ [.sent q, .answered q p (accountFor w x.account k)], x.hasPicked⟩ p g e false ∧
      y.account.profile.id = e.id ∧ y.account.profile.name = e.name := by
  cases h with
  | unsendable => cases ho
  | stopped => cases ho
  | @replied q p _ _ _ _ _ hh =>
    cases hh with
    | fails ho' => exact ((Status.isFailure_iff.1 ho').1 ho).elim
    | @ends g e hacc => exact ⟨q, p, g, e, rfl, hacc, Account.profile_granted ..⟩

/-- The pick of an exchange that does well was confirmed: by a second reply, whose selected
profile the account has. -/
structure Confirmed (q : Request) (p : Reply) (new : Log) (a : Account) (q' : Request)
    (p' : Reply) (e' : ProfileEntry) : Prop where
  /-- There are two replies, the one that lists the profiles and the confirming one. -/
  exchanges : new.exchanges = [(q, p), (q', p')]
  /-- The confirming reply selects a profile. -/
  selects : p'.Selects e'
  /-- The account has its identifier. -/
  id : a.profile.id = e'.id
  /-- The account has its name. -/
  name : a.profile.name = e'.name

theorem Exchange.confirmed {auth : Authentication} {w : World} {a : Account} {log : Log}
    {r : Result} (h : Exchange auth w a log r) :
    ∃ new, r.log = log ++ new ∧ ∀ q p g e, OpensWithPick auth w a log new q p g e →
      r.outcome.status = .working → ∃ q' p' e', Confirmed q p new r.account q' p' e' := by
  cases h with
  | @single y o h =>
    obtain ⟨new, hlog, -⟩ := h.follows
    refine ⟨new, hlog, fun q p g e hpick ho => ?_⟩
    -- what is accepted for a selected profile is not accepted for a pick
    obtain ⟨q', p', g', e', hlog', hacc, -⟩ := h.of_working ho
    obtain rfl : new = _ := List.append_cancel_left (hlog.symm.trans hlog')
    obtain ⟨rfl, rfl⟩ := hpick.eq
    cases (hacc.unique hpick.accepted).2.2
  | @double a₁ a₂ q₁ q₂ p₁ g₁ e₁ more z o ha₁ hq₁ hx hp₁ accepted hm hs ha₂ hq₂ h₂ =>
    obtain ⟨new, hlog, -⟩ := h₂.of_hasPicked rfl (by simp [hx, hs]) hq₂
    refine ⟨.sent q₁ :: .answered q₁ p₁ a₁ :: (more ++ new), by simp [hlog], ?_⟩
    intro q p g e hpick ho
    obtain ⟨rfl, rfl⟩ := hpick.eq
    obtain ⟨q', p', g', e', hlog', hacc, hid, hname⟩ := h₂.of_working ho
    obtain rfl : new = _ := List.append_cancel_left (hlog.symm.trans hlog')
    exact ⟨q', p', e', by simp [hm.exchanges_eq_nil], hacc.selects, hid, hname⟩

/-- **A pick stays exactly if the server confirms it.**  An authentication step that picked a
profile and did well got a second reply, which selects a profile, and the account has this
profile: the one that was picked if both have the same identifier, and another one otherwise. -/
theorem perform_confirmed (auth : Authentication) (w : World) (a : Account) (log : Log) :
    let r := ((Step.authentication auth).perform w a log).2
    ∃ new, r.log = log ++ new ∧ ∀ q p g e, OpensWithPick auth w a log new q p g e →
      r.outcome.status = .working → ∃ q' p' e', Confirmed q p new r.account q' p' e' ∧
        (r.account.profile.id = e.id ↔ e'.id = e.id) := by
  obtain ⟨new, hlog, hnew⟩ := (act_spec auth w a log).confirmed
  refine ⟨new, hlog, fun q p g e hpick ho => ?_⟩
  obtain ⟨q', p', e', h⟩ := hnew q p g e hpick ho
  exact ⟨q', p', e', h, by rw [← h.id]; rfl⟩

/-! ### A pick that does not stay -/

/-- What a server answers that lists one profile. -/
def listing : Bytes := Utf8.encode
  ("\x7b\"clientToken\":\"t\",\"accessToken\":\"a\"," ++
    "\"availableProfiles\":[\x7b\"id\":\"1\",\"name\":\"A\"\x7d]\x7d")

/-- What a server answers that selects another one. -/
def selecting : Bytes := Utf8.encode
  ("\x7b\"clientToken\":\"t\",\"accessToken\":\"b\"," ++
    "\"selectedProfile\":\x7b\"id\":\"2\",\"name\":\"B\"\x7d\x7d")

/-- A world whose server selects another profile when it is asked to confirm the one that it
listed. -/
def swapping : World :=
  { World.silent with
    server := fun sent q =>
      .reply (.ofResponse q.url 200 [] (if sent.isEmpty then listing else selecting)) }

/-- An account with a pinned token. -/
def pinnedAccount : Account := { Account.mojang "steve" with clientToken := some "t" }

/-- An answer with the token that the account wants, if it wants one, is accepted. -/
theorem accepted_of_parse {w : World} {x : Standing} {url : Url} {body : Bytes} {g : Grant}
    {e : ProfileEntry} {b : Bool} (hx : ∀ t, x.account.clientToken = some t → t = "t")
    (hp : Grant.parse body = .ok g) (ht : g.clientToken = "t") (ha : g.accessToken ≠ "")
    (hn : g.Names w x e b) (hid : e.id ≠ "") :
    Accepted w x (.ofResponse url 200 [] body) g e b where
  status := rfl
  not_gone := nofun
  parse := hp
  clientToken_ne_empty := by simp [ht]
  pinned t h := by rw [ht, hx t h]
  accessToken_ne_empty := ha
  names := hn
  id_ne_empty := hid

theorem parse_listing : ∃ g, Grant.parse listing = .ok g ∧ g.clientToken = "t" ∧
    g.accessToken ≠ "" ∧ g.selected = none ∧ g.Lists [⟨"1", "A"⟩] := by
  have h : ((Grant.parse listing).toOption.any fun g => g.clientToken = "t" ∧
      g.accessToken ≠ "" ∧ g.selected.isNone ∧ (candidates g).toOption = some [⟨"1", "A"⟩]) =
      true := by decide +kernel
  obtain ⟨g, hp, hg⟩ := any_toOption_iff.1 h
  obtain ⟨ht, ha, hs, hc⟩ := of_decide_eq_true hg
  exact ⟨g, hp, ht, ha, Option.isNone_iff_eq_none.1 hs,
    candidates_eq_ok_iff.1 (toOption_eq_some_iff.1 hc)⟩

theorem parse_selecting : ∃ g, Grant.parse selecting = .ok g ∧ g.clientToken = "t" ∧
    g.accessToken ≠ "" ∧ ∃ v, g.selected = some v ∧ ProfileEntry.ofValue? v = some ⟨"2", "B"⟩ := by
  have h : ((Grant.parse selecting).toOption.any fun g => g.clientToken = "t" ∧
      g.accessToken ≠ "" ∧ g.selected.bind ProfileEntry.ofValue? = some ⟨"2", "B"⟩) = true := by
    decide +kernel
  obtain ⟨g, hp, hg⟩ := any_toOption_iff.1 h
  obtain ⟨ht, ha, hv⟩ := of_decide_eq_true hg
  exact ⟨g, hp, ht, ha, Option.bind_eq_some_iff.1 hv⟩

/-- The reply to the first request there. -/
def listed (q : Request) : Reply := .ofResponse q.url 200 [] listing

/-- The reply to the second one. -/
def selected (q : Request) : Reply := .ofResponse q.url 200 [] selecting

/-- What a renewal gets there. -/
structure Swaps (q₁ q₂ : Request) (b : Account) : Prop where
  /-- The reply to its first request -/
  first : Receives renewal swapping .renewal ⟨pinnedAccount, [], false⟩ [.sent q₁] q₁ (listed q₁)
    pinnedAccount
  /-- is accepted for the only profile that it lists. -/
  picked : ∃ g, Accepted swapping
    (.upon ⟨pinnedAccount, [], false⟩ [.sent q₁] q₁ (listed q₁) pinnedAccount) (listed q₁) g
    ⟨"1", "A"⟩ true
  /-- The reply to its second request -/
  second : Receives renewal swapping .renewal ⟨pinnedAccount, [], false⟩
    [.sent q₁, .answered q₁ (listed q₁) pinnedAccount, .sent q₂] q₂ (selected q₂) b
  /-- is accepted for another one. -/
  confirmed : ∃ g, Accepted swapping (.upon ⟨pinnedAccount, [], false⟩
    [.sent q₁, .answered q₁ (listed q₁) pinnedAccount, .sent q₂] q₂ (selected q₂) b) (selected q₂) g
    ⟨"2", "B"⟩ false

theorem exists_swaps : ∃ q₁ q₂ b, Swaps q₁ q₂ b := by
  obtain ⟨q₁, hq₁⟩ : ∃ q, renewal.request swapping.settings pinnedAccount .renewal = .ok q :=
    ⟨_, rfl⟩
  obtain ⟨g₁, hg₁, ht₁, ha₁, hs₁, hl₁⟩ := parse_listing
  obtain ⟨g₂, hg₂, ht₂, ha₂, v, hs₂, hv₂⟩ := parse_selecting
  have hpinned (t : String) (h : some "t" = some t) : t = "t" := (Option.some.inj h).symm
  have hgets : Gets renewal swapping .renewal ⟨pinnedAccount, [], false⟩ q₁ (listed q₁) :=
    ⟨rfl, hq₁, rfl⟩
  have hpicked : Accepted swapping (.upon ⟨pinnedAccount, [], false⟩ [.sent q₁] q₁ (listed q₁)
      pinnedAccount) (listed q₁) g₁ ⟨"1", "A"⟩ true :=
    accepted_of_parse hpinned hg₁ ht₁ ha₁ (.picked hs₁ rfl (.sole hl₁)) (by decide)
  let y := (Standing.upon ⟨pinnedAccount, [], false⟩ [.sent q₁] q₁ (listed q₁)
    pinnedAccount).picked swapping g₁ ⟨"1", "A"⟩ [⟨"1", "A"⟩]
  obtain ⟨q₂, hq₂⟩ := exists_renewal hq₁ (b := y.account) rfl
  refine ⟨q₁, q₂, y.account, .now hgets, ⟨g₁, hpicked⟩, ?_, g₂, ?_⟩
  · exact .later hgets hpicked hl₁ (.now ⟨rfl, hq₂, rfl⟩)
  · exact accepted_of_parse hpinned hg₂ ht₂ ha₂ (.selected hs₂ hv₂) (by decide)

/-- The renewal takes both replies over, and ends with the profile of the second one. -/
theorem Swaps.act_eq {q₁ q₂ : Request} {b : Account} (h : Swaps q₁ q₂ b) :
    ∃ a, a.profile.id = "2" ∧ renewal.act swapping pinnedAccount [] =
      ⟨.working "Logged in as B.", a, [.sent q₁, .answered q₁ (listed q₁) pinnedAccount, .sent q₂,
        .answered q₂ (selected q₂) b]⟩ := by
  obtain ⟨g, hacc⟩ := h.confirmed
  exact ⟨_, (Account.profile_granted ..).1, Receives.act_of_selected h.second hacc⟩

/-- **A pick need not stay.**  A server may confirm another profile than the one that was picked,
and the step does well all the same. -/
theorem pick_replaced :
    let r := ((Step.authentication renewal).perform swapping pinnedAccount []).2
    ∃ q p g e, OpensWithPick renewal swapping pinnedAccount [] r.log q p g e ∧
      r.outcome.status = .working ∧ r.account.profile.id ≠ e.id := by
  obtain ⟨q₁, q₂, b, h⟩ := exists_swaps
  obtain ⟨g, hacc⟩ := h.picked
  obtain ⟨a, ha, hact⟩ := h.act_eq
  intro r
  have hr : r = _ := hact
  refine ⟨q₁, listed q₁, g, ⟨"1", "A"⟩, ⟨⟨_, congrArg Result.log hr⟩, hacc⟩, ?_, ?_⟩
  · rw [hr]
    rfl
  · rw [hr, ha]
    decide

end Authentication

end SignIn
