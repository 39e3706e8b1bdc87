import SignIn.Proofs.ClientToken
import SignIn.Proofs.Routine.Perform

/-!
# One token for all runs

An account is used again and again: routines run on it one after the other, each in a world of
its own, and any of them may fail or be told to stop.  The token of the installation, once it
is pinned, is the same in all of them.  It gets pinned by the first log-in, which makes one, or
by the first renewal that is accepted, which takes the server's.

## Main definitions

* `Step.KeepsToken` — a step that keeps to a pinned token.
* `Visit` — one run of a ready-made routine.
* `results` — what a sequence of runs on one account comes to.
* `Unpinned` — what a sequence of runs may do to an account without a pinned token.

## Main results

* `Routine.perform_keeps` — steps that keep to a token make a routine that does.
* `clientToken_results` — any sequence of runs keeps to the token.
-/

namespace SignIn

/-! ### Steps -/

/-- A step that keeps to the token of any account that it acts on. -/
def Step.KeepsToken (s : Step) : Prop :=
  ∀ (t : String) (w : World) (a : Account) (log : Log), a.clientToken = some t →
    ∃ new, (s.perform w a log).2.log = log ++ new ∧
      Keeps t (s.perform w a log).2.outcome (s.perform w a log).2.account new

theorem keepsToken_lookup : Step.lookup.KeepsToken :=
  fun _ w a log ha => (Lookup.act_spec w a log).keeps ha

/-! ### Routines -/

namespace Routine

/-- What a routine comes to keeps to the token if its first step does, and the others do. -/
theorem Continues.keeps {w : World} {total index : Nat} {rest : List Step} {first : Result}
    {r : Control × Result} {t : String} {log new : Log}
    (h : Continues w total index rest first r) (hl : log.isStopped = false)
    (hlog : first.log = log ++ new) (hk : Keeps t first.outcome first.account new)
    (hrest : ∀ c last, IsGoing c → first.log.isStopped = false → ∃ later,
      (perform w total (index + 1) last rest c first.account first.log).2.log =
        first.log ++ later ∧
      Keeps t (perform w total (index + 1) last rest c first.account first.log).2.outcome
        (perform w total (index + 1) last rest c first.account first.log).2.account later) :
    ∃ new, r.2.log = log ++ new ∧ Keeps t r.2.outcome r.2.account new := by
  cases h with
  | stopped hs =>
    rw [hlog, Log.isStopped_append, hl, Bool.false_or] at hs
    exact ⟨new, hlog, hk.of_isStopped hs _⟩
  | failed => exact ⟨new, hlog, hk⟩
  | next hs ho hc =>
    obtain ⟨later, hlog₂, hlater⟩ := hrest _ first.outcome.message hc hs
    exact ⟨new ++ later, by rw [hlog₂, hlog, List.append_assoc], hk.append ho hlater⟩

/-- **Steps that keep to a token make a routine that does.** -/
theorem perform_keeps (w : World) (total : Nat) {steps : List Step}
    (hsteps : ∀ s ∈ steps, s.KeepsToken) (index : Nat) (last : String) {c : Control}
    {a : Account} {log : Log} {t : String} (hc : IsGoing c) (hl : log.isStopped = false)
    (ha : a.clientToken = some t) :
    ∃ new, (perform w total index last steps c a log).2.log = log ++ new ∧
      Keeps t (perform w total index last steps c a log).2.outcome
        (perform w total index last steps c a log).2.account new := by
  induction steps generalizing index last c a log with
  | nil => exact ⟨[], (List.append_nil _).symm, .nil ha _⟩
  | cons s rest ih =>
    obtain ⟨new, hlog, hk⟩ := hsteps s (by simp) t w a log ha
    exact (perform_cons w total index last s rest hc a log).keeps hl hlog hk
      fun c last hc hs => ih (fun s hs => hsteps s (by simp [hs])) _ last hc hs hk.clientToken

end Routine

/-! ### Runs -/

/-- One run of a ready-made routine. -/
structure Visit where
  /-- The routine. -/
  flow : Flow
  /-- The world it runs in. -/
  world : World
  /-- How it is told to stop before it runs, if it is. -/
  interrupted : Option Route

namespace Visit

/-- The routine as it is when it runs. -/
def routine (v : Visit) : Routine :=
  match v.interrupted with
  | none => v.flow.routine
  | some route => { v.flow.routine with control := v.flow.routine.control.stop route }

/-- What the run comes to. -/
def result (v : Visit) (a : Account) : Result := (v.routine.run v.world a).2

/-- The run is free to log in with a password. -/
def LogsIn (v : Visit) : Prop :=
  v.interrupted = none ∧ ∃ password, password ≠ "" ∧ v.flow = .login password

/-- A run that was told to stop before does nothing. -/
theorem result_of_interrupted {v : Visit} {route : Route} (h : v.interrupted = some route)
    (a : Account) : ∃ o, v.result a = ⟨o, a, [.stopped a]⟩ := by
  unfold result routine
  rw [h]
  cases v.flow <;> cases route <;> exact ⟨_, rfl⟩

/-- Any other run authenticates and goes on from there. -/
theorem result_of_not_interrupted {v : Visit} (h : v.interrupted = none) (a : Account) :
    ∃ r, Routine.Continues v.world 2 0 [.lookup] (v.flow.authentication.act v.world a []) r ∧
      v.result a = r.2 := by
  obtain ⟨c, hc, hr, -⟩ := v.flow.run_eq v.world a
  have hv : v.result a = (v.flow.routine.run v.world a).2 := by
    unfold result routine
    rw [h]
  exact ⟨_, Routine.perform_cons v.world 2 0 "" (.authentication v.flow.authentication) [.lookup]
    hc a [], hv.trans hr⟩

/-- A run keeps to the token that its first request is made with. -/
theorem keeps_of_accountFor {v : Visit} (hi : v.interrupted = none) {a : Account} {t : String}
    (ha : (Authentication.accountFor v.world a v.flow.authentication.firstKind).clientToken =
      some t) :
    Keeps t (v.result a).outcome (v.result a).account (v.result a).log := by
  obtain ⟨r, hcont, hr⟩ := result_of_not_interrupted hi a
  obtain ⟨new, hlog, hk⟩ := (v.flow.authentication.act_spec v.world a []).keeps ha
  obtain ⟨new', hlog', hk'⟩ := hcont.keeps rfl hlog hk fun c last hc hs =>
    Routine.perform_keeps v.world 2 (by simp [keepsToken_lookup]) 1 last hc hs hk.clientToken
  rw [hr, hlog', List.nil_append]
  exact hk'

/-- **A run keeps to a pinned token.** -/
theorem keeps (v : Visit) {a : Account} {t : String} (ha : a.clientToken = some t) :
    Keeps t (v.result a).outcome (v.result a).account (v.result a).log := by
  cases hi : v.interrupted with
  | none => exact keeps_of_accountFor hi (Authentication.clientToken_accountFor v.world ha _)
  | some route =>
    obtain ⟨o, ho⟩ := result_of_interrupted hi a
    rw [ho]
    exact .of_exchanges_eq_nil ha (by simpa [Log.Event.Keeps] using ha) rfl o

theorem firstKind_of_logsIn {v : Visit} (h : v.LogsIn) :
    v.flow.authentication.firstKind = .login := by
  obtain ⟨-, password, hp, hf⟩ := h
  rw [hf]
  simp [Flow.authentication, Authentication.withOfflineDetection, Authentication.login,
    Authentication.firstKind, hp]

theorem firstKind_of_not_logsIn {v : Visit} (hi : v.interrupted = none) (h : ¬ v.LogsIn) :
    v.flow.authentication.firstKind = .renewal := by
  cases hf : v.flow with
  | renewal => rfl
  | login password =>
    have hp : password = "" := by
      by_contra hp
      exact h ⟨hi, password, hp, hf⟩
    rw [hp]
    rfl

/-- Without a token of the installation, any other run than a log-in pins the one of the
first reply that it accepts. -/
theorem pins {v : Visit} (h : ¬ v.LogsIn) (a : Account) :
    ((v.result a).account = a ∧ Refuses v.world a (v.result a).log) ∨
      ∃ q p g e isPicked new, (v.result a).log = [.sent q, .answered q p a] ++ new ∧
        Accepted v.world ⟨a, [.sent q, .answered q p a], false⟩ p g e isPicked ∧
        Keeps g.clientToken (v.result a).outcome (v.result a).account new := by
  cases hi : v.interrupted with
  | some route =>
    obtain ⟨o, ho⟩ := result_of_interrupted hi a
    rw [ho]
    refine .inl ⟨rfl, fun before q p after g e b hlog => ?_⟩
    have hx := congrArg Log.exchanges hlog
    simp at hx
  | none =>
    obtain ⟨r, hcont, hr⟩ := result_of_not_interrupted hi a
    rw [hr]
    rcases (v.flow.authentication.act_spec v.world a []).pins (firstKind_of_not_logsIn hi h) with
      ⟨ho, ha, hno⟩ | ⟨q, p, g, e, isPicked, new, hlog, hacc, hk⟩
    · cases hcont with
      | stopped => exact .inl ⟨ha, hno⟩
      | failed => exact .inl ⟨ha, hno⟩
      | next _ ho' => exact (ho ho').elim
    · obtain ⟨new', hlog', hk'⟩ := hcont.keeps rfl hlog hk fun c last hc hs =>
        Routine.perform_keeps v.world 2 (by simp [keepsToken_lookup]) 1 last hc hs hk.clientToken
      exact .inr ⟨q, p, g, e, isPicked, new', hlog', hacc, hk'⟩

end Visit

/-! ### Sequences of runs -/

/-- What runs on one account come to, one after the other. -/
def results : Account → List Visit → List Result
  | _, [] => []
  | a, v :: visits => v.result a :: results (v.result a).account visits

/-- Each of some runs keeps to the token. -/
def AllKeep (t : String) (rs : List Result) : Prop :=
  ∀ r ∈ rs, Keeps t r.outcome r.account r.log

theorem allKeep_results {t : String} {a : Account} (ha : a.clientToken = some t)
    (visits : List Visit) : AllKeep t (results a visits) := by
  induction visits generalizing a with
  | nil => simp [AllKeep, results]
  | cons v visits ih =>
    have hv := v.keeps ha
    exact List.forall_mem_cons.2 ⟨hv, ih hv.clientToken⟩

/-- What a sequence of runs comes to on an account without a token of the installation. -/
inductive Unpinned : Account → List Visit → Prop
  /-- There is no run. -/
  | nil {a : Account} : Unpinned a []
  /-- No reply is accepted, and the account is as it was. -/
  | refused {a : Account} {v : Visit} {visits : List Visit} (hv : ¬ v.LogsIn)
    (account : (v.result a).account = a) (refuses : Refuses v.world a (v.result a).log)
    (later : Unpinned a visits) : Unpinned a (v :: visits)
  /-- A log-in makes a token, which is kept from its first request on. -/
  | login {a : Account} {v : Visit} {visits : List Visit} (hv : v.LogsIn)
    (all : AllKeep (freshToken v.world.random) (results a (v :: visits))) :
    Unpinned a (v :: visits)
  /-- The first reply to a renewal is accepted, and its token is kept from there on. -/
  | renewal {a : Account} {v : Visit} {visits : List Visit} {q : Request} {p : Reply} {g : Grant}
    {e : ProfileEntry} {isPicked : Bool} {new : Log} (hv : ¬ v.LogsIn)
    (hlog : (v.result a).log = [.sent q, .answered q p a] ++ new)
    (accepted : Accepted v.world ⟨a, [.sent q, .answered q p a], false⟩ p g e isPicked)
    (now : Keeps g.clientToken (v.result a).outcome (v.result a).account new)
    (later : AllKeep g.clientToken (results (v.result a).account visits)) :
    Unpinned a (v :: visits)

theorem unpinned_of_none {a : Account} (ha : a.clientToken = none) (visits : List Visit) :
    Unpinned a visits := by
  -- a run that pins no token leaves the account as it was, and so the others start from it
  induction visits with
  | nil => exact .nil
  | cons v visits ih =>
    by_cases hv : v.LogsIn
    · have ht : (Authentication.accountFor v.world a
          v.flow.authentication.firstKind).clientToken = some (freshToken v.world.random) := by
        rw [Visit.firstKind_of_logsIn hv]
        simp [Authentication.accountFor, Account.ensureClientToken, ha]
      have hk := Visit.keeps_of_accountFor hv.1 ht
      exact .login hv (List.forall_mem_cons.2 ⟨hk, allKeep_results hk.clientToken visits⟩)
    · obtain ⟨hacc, hno⟩ | ⟨q, p, g, e, isPicked, new, hlog, hacc, hk⟩ := Visit.pins hv a
      · exact .refused hv hacc hno ih
      · exact .renewal hv hlog hacc hk (allKeep_results hk.clientToken visits)

/-- **There is one token for all runs.**  Any sequence of runs keeps to a pinned token.
Without one, it keeps to the token that the first log-in makes or the first accepted renewal
brings, from there on. -/
theorem clientToken_results (a : Account) (visits : List Visit) :
    (∀ t, a.clientToken = some t → AllKeep t (results a visits)) ∧
      (a.clientToken = none → Unpinned a visits) :=
  ⟨fun _ ha => allKeep_results ha visits, fun ha => unpinned_of_none ha visits⟩

end SignIn
