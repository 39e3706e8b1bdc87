import SignIn.Proofs.Authentication.Answered
import SignIn.Proofs.Authentication.Checks
import SignIn.Proofs.Authentication.Confirmation

/-!
# What a reply of status 200 leads to

A reply of status 200 ends an exchange well if its body reads as a grant with tokens in order and
with a well-formed profile that it considers selected.  Otherwise the first check that fails
decides, and if there is none, a profile was picked and another round follows.  Which round it is
makes no difference but for what was picked before.

## Main definitions

* `Reply.IsAcceptable` — the replies that end an exchange well.
* `Judged` — what a reply of status 200 leads to.

## Main results

* `isAcceptable_iff` — they are those that are accepted for a selected profile.
* `perform_judged` — every reply of status 200 is received and judged by the checks.
-/

namespace SignIn

open SignIn.Authentication SignIn.Json

/-! ### Replies that end an exchange well -/

/-- A grant that ends an exchange well, whatever came before: the tokens are in order, and the
selected profile is an object with members, whose identifier is a text that is not empty and
whose name reads as a text. -/
structure Grant.IsAcceptable (g : Grant) (a : Account) (ms : List (String × Value)) : Prop where
  /-- There is a token of the installation. -/
  clientToken_ne_empty : g.clientToken ≠ ""
  /-- It is the pinned one, if one is pinned. -/
  pinned : ∀ t, a.clientToken = some t → g.clientToken = t
  /-- There is a token that proves the log-in. -/
  accessToken_ne_empty : g.accessToken ≠ ""
  /-- The selected profile is an object. -/
  selected : g.selectedProfile = some (.object ms)
  /-- It has members. -/
  members : ms ≠ []
  /-- The identifier reads as a text. -/
  textual_id : ProfileEntry.IsTextual (ms.lookup "id")
  /-- The name reads as a text. -/
  textual_name : ProfileEntry.IsTextual (ms.lookup "name")
  /-- The identifier is a text, and not empty. -/
  id : ∃ s, s ≠ "" ∧ ms.lookup "id" = some (.string s)

/-- The body of a reply reads as a grant that ends an exchange well. -/
def Reply.IsAcceptable (p : Reply) (a : Account) : Prop :=
  ∃ g ms, Grant.parse p.body = .ok g ∧ g.IsAcceptable a ms

namespace Authentication

variable {auth : Authentication} {w : World} {x : Standing} {p : Reply} {g : Grant}

/-- An accepted reply passes all checks. -/
theorem passes_of_accepted {e : ProfileEntry} {b : Bool} (h : Accepted w x p g e b) (c : Check) :
    ¬ g.Fails w x c := by
  by_cases hc : c = .identifier
  · subst hc
    intro hf
    cases hf with
    | identifier hn hid => exact h.id_ne_empty ((h.names.unique hn).1 ▸ hid)
  · exact h.names.passes (tokenFault?_of_accepted h) c (by revert hc; cases c <;> decide)

theorem not_failsFirst_of_accepted {g' : Grant} {e : ProfileEntry} {b : Bool} {c : Check}
    (h : Accepted w x p g e b) (hp : Grant.parse p.body = .ok g') : ¬ g'.FailsFirst w x c := by
  obtain rfl : g = g' := Except.ok.inj (h.parse.symm.trans hp)
  intro hc
  exact passes_of_accepted h c hc.fails

/-- The replies that end an exchange well are those that are accepted for the profile that the
server considers selected. -/
theorem isAcceptable_iff (w : World) (hs : p.status = some 200)
    (hk : p.failureKind? ≠ some .gone) :
    p.IsAcceptable x.account ↔ ∃ g e, Accepted w x p g e false := by
  constructor
  · rintro ⟨g, ms, hp, h⟩
    have hsome : ¬ g.SelectsNothing := by
      simp [Grant.SelectsNothing, h.selected, h.members]
    obtain ⟨e, he⟩ := ProfileEntry.exists_ofValue?_iff.2
      ⟨ms, rfl, h.textual_id, h.textual_name⟩
    exact ⟨g, e, hs, hk, hp, h.clientToken_ne_empty, h.pinned, h.accessToken_ne_empty,
      .selected (Grant.selected_eq_some_iff.2 ⟨h.selected, hsome⟩) he,
      (ProfileEntry.id_ne_empty_iff he).2 h.id⟩
  · rintro ⟨g, e, h⟩
    obtain ⟨hsel, hv⟩ := h.names
    obtain ⟨hg, hsome⟩ := Grant.selected_eq_some_iff.1 hsel
    obtain ⟨ms, rfl, hid, hname⟩ := ProfileEntry.exists_ofValue?_iff.1 ⟨e, hv⟩
    refine ⟨g, ms, h.parse, h.clientToken_ne_empty, h.pinned, h.accessToken_ne_empty, hg, ?_, hid,
      hname, (ProfileEntry.id_ne_empty_iff hv).1 h.id_ne_empty⟩
    rintro rfl
    exact hsome (.inr (.inr hg))

/-! ### Judging a reply -/

/-- What a reply of status 200 leads to that arrives where an exchange stands, given what happens
after it and what the exchange ends with. -/
structure Judged (w : World) (x : Standing) (p : Reply) (after : Log) (r : Result) : Prop where
  /-- The exchange ends with it and does well exactly if the reply is acceptable. -/
  working_iff : after.exchanges = [] ∧ r.outcome.status = .working ↔ p.IsAcceptable x.account
  /-- Then all that it grants is taken over. -/
  accepted : p.IsAcceptable x.account → ∃ g e, Grant.parse p.body = .ok g ∧
    g.Names w x e false ∧ r = ⟨.working ("Logged in as " ++ e.name ++ "."),
      x.account.granted g e (w.clock x.log.requests), x.log⟩
  /-- A body that cannot be read is a failure that may pass. -/
  unreadable : ∀ m, Grant.parse p.body = .error m →
    r = ⟨.soft ("Failed to parse the authentication server response: " ++ m.message),
      x.account, x.log⟩
  /-- The first check that fails decides, and the account stays as it was. -/
  failing : ∀ g c, Grant.parse p.body = .ok g → g.FailsFirst w x c →
    r.outcome = c.outcome ∧ r.account = x.account ∧ after.requests = []
  /-- If there is no such check, and the reply is not acceptable, then no profile was picked before,
  and another round follows. -/
  again : ∀ g, Grant.parse p.body = .ok g → (∀ c, ¬ g.FailsFirst w x c) →
    ¬ p.IsAcceptable x.account → x.hasPicked = false ∧ after.exchanges ≠ []

/-- A reply of status 200 that can be read comes down to its grant. -/
theorem handle_of_parse {isFirst : Bool} (hs : p.status = some 200)
    (hk : p.failureKind? ≠ some .gone) (hp : Grant.parse p.body = .ok g) :
    auth.handle w isFirst x p = process w x g := by
  rw [handle, granted_eq_ok_iff.2 ⟨hs, hk, hp⟩]

/-- An exchange that ends with a reply whose body cannot be read. -/
theorem Judged.of_unreadable {after : Log} {m : Mistake} (hp : Grant.parse p.body = .error m) :
    Judged w x p after ⟨.soft ("Failed to parse the authentication server response: " ++ m.message),
      x.account, x.log⟩ := by
  have hno : ¬ p.IsAcceptable x.account := by
    rintro ⟨g, ms, hp', -⟩
    simp [hp] at hp'
  refine ⟨iff_of_false (fun h => by cases h.2) hno, fun h => (hno h).elim, fun m' hp' => ?_,
    fun g c hp' => ?_, fun g hp' => ?_⟩
  · rw [hp, Except.error.injEq] at hp'
    rw [hp']
  · simp [hp] at hp'
  · simp [hp] at hp'

/-- An exchange that ends with a reply that fails a check first. -/
theorem Judged.of_failsFirst {after : Log} {y : Standing} {o : Outcome} {c : Check}
    (hp : Grant.parse p.body = .ok g) (hno : ¬ p.IsAcceptable x.account)
    (hc : g.FailsFirst w x c) (ho : o = c.outcome) (hy : y.account = x.account)
    (hafter : after.requests = []) : Judged w x p after ⟨o, y.account, y.log⟩ := by
  refine ⟨iff_of_false (fun h => ?_) hno, fun h => (hno h).elim, fun m hp' => ?_,
    fun g' c' hp' hc' => ?_, fun g' hp' hall => ?_⟩
  · have hs := c.status_outcome
    rw [← ho, h.2] at hs
    split at hs <;> cases hs
  · simp [hp] at hp'
  · obtain rfl : g = g' := Except.ok.inj (hp.symm.trans hp')
    exact ⟨by rw [ho, hc.unique hc'], hy, hafter⟩
  · obtain rfl : g = g' := Except.ok.inj (hp.symm.trans hp')
    exact (hall c hc).elim

/-- An exchange that ends with a reply that is accepted for a selected profile. -/
theorem Judged.of_accepted {after : Log} {e : ProfileEntry} (h : Accepted w x p g e false)
    (last : after.exchanges = []) :
    Judged w x p after ⟨.working ("Logged in as " ++ e.name ++ "."),
      x.account.granted g e (w.clock x.log.requests), x.log⟩ := by
  have hok := (isAcceptable_iff (x := x) w h.status h.not_gone).2 ⟨g, e, h⟩
  refine ⟨iff_of_true ⟨last, rfl⟩ hok, fun _ => ⟨g, e, h.parse, h.names, rfl⟩, fun m hp => ?_,
    fun g' c hp hc => (not_failsFirst_of_accepted h hp hc).elim, fun _ _ _ hno => (hno hok).elim⟩
  rw [h.parse] at hp
  cases hp

/-- An exchange that goes on after a reply that is accepted for a pick. -/
theorem Judged.of_picked {after : Log} {r : Result} {e : ProfileEntry}
    (h : Accepted w x p g e true) (first : x.hasPicked = false) (more : after.exchanges ≠ []) :
    Judged w x p after r := by
  have hno : ¬ p.IsAcceptable x.account := fun hok => by
    obtain ⟨g', e', h'⟩ := (isAcceptable_iff (x := x) w h.status h.not_gone).1 hok
    cases (h.unique h').2.2
  refine ⟨iff_of_false (fun h => more h.1) hno, fun h => (hno h).elim, fun m hp => ?_,
    fun g' c hp hc => (not_failsFirst_of_accepted h hp hc).elim, fun _ _ _ _ => ⟨first, more⟩⟩
  rw [h.parse] at hp
  cases hp

/-- **A reply that an exchange gets is judged by the checks**, unless it is told to stop. -/
theorem Receives.judged {a b : Account} {log before after : Log} {q : Request}
    (h : Receives auth w auth.firstKind ⟨a, log, false⟩ before q p b)
    (hlog : (auth.act w a log).log = log ++ (before ++ .answered q p b :: after))
    (hs : p.status = some 200) (hk : p.failureKind? ≠ some .gone)
    (hr : (auth.act w a log).log.isStopped = false) :
    Judged w (.upon ⟨a, log, false⟩ before q p b) p after (auth.act w a log) := by
  cases hp : Grant.parse p.body with
  | error m =>
    have hf := (failed?_of_status (before.exchanges.isEmpty && auth.detectsOffline) hs).2 hk
    have hg : granted (before.exchanges.isEmpty && auth.detectsOffline) p = .error
        (.soft ("Failed to parse the authentication server response: " ++ m.message)) := by
      simp [granted, hf, hs, hp]
    rw [h.act_of_not_granted hg]
    exact .of_unreadable hp
  | ok g =>
    have hh := process_spec (w := w) hs hk hp h.going
    cases h.deals hlog with
    | leads h first more =>
      rw [handle_of_parse hs hk hp] at h
      rw [h] at hh
      cases hh with
      | picks hacc => exact .of_picked hacc first more
    | ends h hr' hafter last =>
      rw [handle_of_parse hs hk hp] at h
      rw [h] at hh
      rw [hr'] at hr ⊢
      cases hh with
      | fails ho hno _ hm =>
        obtain rfl := List.append_cancel_left hafter
        obtain ⟨c, hc, hoc⟩ := failsFirst_of_process hp h hr ho
        refine .of_failsFirst hp ?_ hc hoc rfl hm.requests_eq_nil
        intro hok
        obtain ⟨g', e', hacc⟩ := (isAcceptable_iff w hs hk).1 hok
        exact hno g' e' false hacc
      | ends hacc => exact .of_accepted hacc last

/-- **Every reply of status 200 is received and judged by the checks**, whichever round it belongs
to, in a step that hears what the world says and is not told to stop.  That the account is gone
would come before all of the checks. -/
theorem perform_judged (auth : Authentication) (w : World) (a : Account) (log : Log) :
    let r := ((Step.authentication auth).perform w a log).2
    ∃ new, r.log = log ++ new ∧ Hears auth w a log new ∧
      ∀ before q p b, Receives auth w auth.firstKind ⟨a, log, false⟩ before q p b →
        p.status = some 200 → ∃ after : Log, new = before ++ .answered q p b :: after ∧
          (p.failureKind? ≠ some .gone → after.isStopped = false →
            Judged w (.upon ⟨a, log, false⟩ before q p b) p after r) ∧
          (p.failureKind? = some .gone →
            after = [] ∧ r.outcome.status = .failedGone ∧ r.account = b) := by
  obtain ⟨new, hlog, hhears⟩ := act_hears auth w a log
  refine ⟨new, hlog, hhears, ?_⟩
  intro before q p b h hs
  obtain ⟨after, rfl⟩ := hhears.received before q p b h
  refine ⟨after, rfl, ?_, ?_⟩
  · intro hk hafter
    apply h.judged hlog hs hk
    have hgoing := h.going
    rw [hlog]
    simp only [Standing.upon] at hgoing
    simpa [hafter] using hgoing
  · intro hk
    cases hg : granted (before.exchanges.isEmpty && auth.detectsOffline) p with
    | ok g => exact absurd hk (granted_eq_ok_iff.1 hg).2.1
    | error o =>
      have hr := h.act_of_not_granted hg
      refine ⟨?_, ?_, congrArg (·.account) hr⟩
      · rw [hr] at hlog
        simpa using hlog
      · exact (congrArg (·.outcome.status) hr).trans (status_of_granted_of_gone hg hk)

/-- A world that only ever replies does not tell to stop. -/
theorem not_interrupts_swapping (log : Log) : ¬ swapping.Interrupts log := by
  intro h
  cases h with
  | menu h => cases h
  | request h => exact h _ rfl

/-- A renewal that gets two replies: the first one is not acceptable and leads to another round, and
the second one is. -/
theorem perform_judged_swapping :
    let r := ((Step.authentication renewal).perform swapping pinnedAccount []).2
    ∃ q₁ q₂ b, Receives renewal swapping .renewal ⟨pinnedAccount, [], false⟩ [.sent q₁] q₁
        (listed q₁) pinnedAccount ∧
      Receives renewal swapping .renewal ⟨pinnedAccount, [], false⟩
        [.sent q₁, .answered q₁ (listed q₁) pinnedAccount, .sent q₂] q₂ (selected q₂) b ∧
      ¬ (listed q₁).IsAcceptable pinnedAccount ∧ (selected q₂).IsAcceptable b ∧
      r.outcome = .working "Logged in as B." ∧ r.log.exchanges.length = 2 := by
  obtain ⟨q₁, q₂, b, h⟩ := exists_swaps
  obtain ⟨new, hlog, hhears, hjudged⟩ := perform_judged renewal swapping pinnedAccount []
  have hgoing : new.isStopped = false := hhears.told.going not_interrupts_swapping
  obtain ⟨g, hacc⟩ := h.confirmed
  have hok : (selected q₂).IsAcceptable b :=
    (isAcceptable_iff swapping hacc.status hacc.not_gone).2 ⟨g, _, hacc⟩
  obtain ⟨after, rfl, hsecond, -⟩ := hjudged _ _ _ _ h.second hacc.status
  have hafter : after.isStopped = false := by simpa using hgoing
  have hj := hsecond hacc.not_gone hafter
  obtain ⟨g', e, hp, hnames, hr⟩ := hj.accepted hok
  obtain rfl : g = g' := Except.ok.inj (hacc.parse.symm.trans hp)
  obtain ⟨rfl, -⟩ := hacc.names.unique hnames
  have hlast := (hj.working_iff.2 hok).1
  -- another reply comes after the first one
  obtain ⟨after₁, hafter₁, hfirst, -⟩ := hjudged _ _ _ _ h.first rfl
  obtain rfl : .sent q₂ :: .answered q₂ (selected q₂) b :: after = after₁ :=
    (List.cons.inj (List.cons.inj hafter₁).2).2
  have hno : ¬ (listed q₁).IsAcceptable pinnedAccount := by
    intro hok₁
    have hnone := ((hfirst nofun hafter).working_iff.2 hok₁).1
    simp at hnone
  refine ⟨q₁, q₂, b, h.first, h.second, hno, hok, ?_, ?_⟩
  · exact congrArg (·.outcome) hr
  · rw [hlog]
    simp [hlast]

end Authentication

end SignIn
