import SignIn.Proofs.Authentication.Confirmation
import SignIn.Proofs.Routine.Cancellation
import SignIn.Proofs.Routine.Pinning
import SignIn.Proofs.Routine.Twin

/-!
# Running again

A routine that failed may be run again, on the account that it left.  Where the servers send the
same replies and the user picks alike, this comes to the same, although the account may have
changed meanwhile: a token of the installation may have been made or adopted, and a first reply
may have been taken over before a second one was turned down.

The reason is that the first run ends with the token that it began to use: the one that was
pinned, or the one that the first reply brought.

## Main results

* `Authentication.act_first_answer` — the first reply is the server's.
* `Flow.tokenFault?_rerun` — the account that a run leaves agrees on the tokens of the first reply.
* `Flow.run_again` — running again comes to the same.
-/

namespace SignIn

open SignIn.Authentication SignIn.Text SignIn.Time

namespace Authentication

/-- The first reply is the server's. -/
theorem act_first_answer {auth : Authentication} {w : World} {a : Account} {q : Request} {p : Reply}
    (hq : auth.request w.settings (accountFor w a auth.firstKind) auth.firstKind = .ok q)
    (hp : w.server [] q = .reply p) :
    ∃ new, (auth.act w a []).log =
      [.sent q, .answered q p (accountFor w a auth.firstKind)] ++ new := by
  have h : Receives auth w auth.firstKind ⟨a, [], false⟩ [.sent q] q p
      (accountFor w a auth.firstKind) := .now ⟨rfl, hq, hp⟩
  exact h.exchange_log true

theorem service_act (auth : Authentication) (w : World) (a : Account) (log : Log) :
    (auth.act w a log).account.service = a.service := by
  obtain ⟨new, -, hc⟩ := (act_spec auth w a log).commits
  exact hc.service_username.1.trans (service_accountFor w a auth.firstKind)

end Authentication

theorem Lookup.service_act (w : World) (a : Account) (log : Log) :
    (act w a log).account.service = a.service := by
  have h := act_spec w a log
  generalize act w a log = r at h
  cases h <;> rfl

/-- Whatever all steps keep of the account, a routine keeps. -/
theorem Routine.account_perform {P : Account → Prop} {w : World} {steps : List Step}
    (hsteps : ∀ s ∈ steps, ∀ a log, P a → P (s.perform w a log).2.account) (total index : Nat)
    (last : String) (c : Control) {a : Account} (log : Log) (ha : P a) :
    P (perform w total index last steps c a log).2.account := by
  induction steps generalizing index last c a log with
  | nil => exact ha
  | cons s rest ih =>
    have hs := hsteps s (by simp) a log ha
    rw [perform]
    split
    · exact ha
    · dsimp only
      split
      · exact hs
      · split
        · exact ih (fun s h => hsteps s (by simp [h])) _ _ _ _ hs
        · exact hs

namespace Flow

/-- A routine leaves the account on its service. -/
theorem service_run (f : Flow) (w : World) (a : Account) :
    (f.routine.run w a).2.account.service = a.service := by
  rw [(f.run_eq_perform w a).2]
  refine Routine.account_perform (P := fun b => b.service = a.service) ?_ 2 0 "" _ [] rfl
  intro s hs b log hb
  simp only [List.mem_cons, List.not_mem_nil, or_false] at hs
  rcases hs with rfl | rfl
  · exact (service_act f.authentication w b log).trans hb
  · exact (Lookup.service_act w b log).trans hb

/-- What two runs of one routine have in common, however much the first one changed: the service
of the account. -/
def rerun : Likeness where
  accounts a a' := a'.service = a.service
  requests _ _ := True

theorem rerun_fits (s : Settings) (auth : Authentication) : rerun.Fits s auth auth where
  service h := h
  granted _ _ _ _ h := h
  judged _ h := h
  first _ _ _ := trivial
  renewal _ _ _ _ _ := trivial
  lookup _ _ _ _ _ := trivial

/-- What a routine logs begins with the server's reply to the first request. -/
theorem first_answer (f : Flow) {w : World} {a : Account} {q : Request} {p : Reply}
    (hq : f.authentication.request w.settings (accountFor w a f.authentication.firstKind)
      f.authentication.firstKind = .ok q)
    (hp : w.server [] q = .reply p) :
    ∃ new, (f.routine.run w a).2.log =
      [.sent q, .answered q p (accountFor w a f.authentication.firstKind)] ++ new := by
  obtain ⟨new, hact⟩ := act_first_answer hq hp
  obtain ⟨r, hcont, hr⟩ := Visit.result_of_not_interrupted (v := ⟨f, w, none⟩) rfl a
  change (f.routine.run w a).2 = r.2 at hr
  rw [hr]
  cases hcont with
  | stopped => exact ⟨new, hact⟩
  | failed => exact ⟨new, hact⟩
  | next hs _ hc =>
    have hlookup : ∀ s ∈ [Step.lookup], Step.Halts s := by
      intro s hs
      rw [List.mem_singleton.1 hs]
      exact halts_lookup
    obtain ⟨later, hlog, -⟩ := Routine.perform_of_stopped w 2 hlookup 1
      (f.authentication.act w a []).outcome.message (f.authentication.act w a []).account hc hs
    exact ⟨new ++ later, by rw [hlog, hact, List.append_assoc]⟩

/-- **The account that a run leaves agrees on the tokens of the first reply.** -/
theorem tokenFault?_rerun (f : Flow) {w : World} {a : Account} {q : Request} {p : Reply} {g : Grant}
    (hq : f.authentication.request w.settings (accountFor w a f.authentication.firstKind)
      f.authentication.firstKind = .ok q)
    (hp : w.server [] q = .reply p) (hg : Grant.parse p.body = .ok g) (w' : World) :
    tokenFault? (accountFor w' (f.routine.run w a).2.account f.authentication.firstKind) g =
      tokenFault? (accountFor w a f.authentication.firstKind) g := by
  cases ht : (accountFor w a f.authentication.firstKind).clientToken with
  | some t =>
    -- the token of the first request is kept
    have hkeeps := Visit.keeps_of_accountFor (v := ⟨f, w, none⟩) rfl ht
    have ht' := clientToken_accountFor w' hkeeps.clientToken f.authentication.firstKind
    exact tokenFault?_congr (ht'.trans ht.symm) g
  | none =>
    have hk : f.authentication.firstKind = .renewal := by
      cases hk : f.authentication.firstKind with
      | renewal => rfl
      | login =>
        rw [hk] at ht
        cases ht
    have hno : ¬ Visit.LogsIn ⟨f, w, none⟩ := by
      intro h
      have hlogin := Visit.firstKind_of_logsIn h
      rw [hk] at hlogin
      cases hlogin
    obtain ⟨hacc, -⟩ | ⟨q₀, p₀, g₀, e, isPicked, new, hlog, hacc, hkeeps⟩ := Visit.pins hno a
    · -- nothing was taken over
      have ha : (f.routine.run w a).2.account = a := hacc
      rw [ha, hk]
      rfl
    · -- the first reply was, with its token
      obtain ⟨later, hopens⟩ := f.first_answer hq hp
      obtain ⟨rfl, rfl⟩ : q₀ = q ∧ p₀ = p := by
        have heq := hlog.symm.trans hopens
        simp only [List.cons_append, List.nil_append, List.cons.injEq, Log.Event.sent.injEq,
          Log.Event.answered.injEq] at heq
        exact ⟨heq.1, heq.2.1.2.1⟩
      obtain rfl : g₀ = g := Except.ok.inj (hacc.parse.symm.trans hg)
      rw [hk]
      have hnone : tokenFault? a g₀ = none := tokenFault?_of_accepted hacc
      refine Eq.trans (tokenFault?_eq_none_iff.2 ⟨hacc.clientToken_ne_empty, fun t h => ?_,
        hacc.accessToken_ne_empty⟩) hnone.symm
      exact Option.some.inj (hkeeps.clientToken.symm.trans h)

/-- **Running again comes to the same.**  Whatever a routine ends with, running it once more on
the account that it left ends with the same, after the same number of requests. -/
theorem run_again (f : Flow) (w : World) (hw : w.server.IsScripted) (a : Account)
    (clock : List Request → Instant) (random : BitVec 128) :
    let first := (f.routine.run w a).2
    let second := (f.routine.run (w.anew clock random) first.account).2
    second.outcome = first.outcome ∧
      second.log.requests.length = first.log.requests.length ∧
      second.log.isStopped = first.log.isStopped := by
  intro first second
  have hservice : (accountFor (w.anew clock random) first.account
        f.authentication.firstKind).service =
      (accountFor w a f.authentication.firstKind).service := by
    rw [service_accountFor, service_accountFor]
    exact f.service_run w a
  obtain ⟨-, h⟩ := Flow.run_alike (l := rerun) clock random f f rfl ⟨rfl, rfl⟩
    (rerun_fits w.settings f.authentication) hw a first.account trivial hservice
    fun q p g hq hp hg => f.tokenFault?_rerun hq hp hg (w.anew clock random)
  exact ⟨h.outcome, h.log.length, h.log.isStopped⟩

/-- What a server answers that turns a log-in down. -/
def forbidding : Bytes := Utf8.encode
  ("\x7b\"error\":\"ForbiddenOperationException\"," ++
    "\"errorMessage\":\"Invalid credentials.\"\x7d")

/-- A world whose server turns every log-in down. -/
def refusing : World :=
  { World.silent with server := fun _ q => .reply (.ofResponse q.url 403 [] forbidding) }

theorem refused_forbidding : refused forbidding = .hard "Invalid credentials." := by
  decide +kernel

theorem outcome_refusing : ((login "secret").routine.run refusing (.mojang "steve")).2.outcome =
    .hard "Invalid credentials." := by
  obtain ⟨q, hq⟩ : ∃ q, (login "secret").authentication.request refusing.settings
      (accountFor refusing (.mojang "steve") .login) .login = .ok q := ⟨_, rfl⟩
  let auth := (login "secret").authentication
  let a := accountFor refusing (.mojang "steve") .login
  have h : Receives auth refusing auth.firstKind ⟨.mojang "steve", [], false⟩ [.sent q] q
      (.ofResponse q.url 403 [] forbidding) a := .now ⟨rfl, hq, rfl⟩
  have hact := h.act_of_not_granted (congrArg Except.error refused_forbidding)
  rw [(run_eq_perform _ _ _).2]
  have hstep : ((Step.authentication auth).perform refusing (.mojang "steve") []).2 = _ := hact
  rw [Routine.perform_cons_of_not_stopped (isGoing_start _) (by rw [hstep]; rfl)]
  dsimp only
  rw [hstep]
  rfl

/-- A log-in that makes a token and is turned down is turned down again. -/
theorem run_again_refusing :
    refusing.server.IsScripted ∧
    ∃ clock random,
      let first := ((login "secret").routine.run refusing (.mojang "steve")).2
      let second := ((login "secret").routine.run (refusing.anew clock random) first.account).2
      first.outcome = .hard "Invalid credentials." ∧ second.outcome = first.outcome ∧
        second.log.requests.length = first.log.requests.length ∧
        second.log.isStopped = first.log.isStopped := by
  have hw : refusing.server.IsScripted := by
    intro sent sent' q q' _ hu
    simp only [refusing, hu]
  exact ⟨hw, refusing.clock, 1, outcome_refusing,
    run_again (login "secret") refusing hw (.mojang "steve") refusing.clock 1⟩

end Flow

end SignIn
