import SignIn.Proofs.Authentication.Round
import SignIn.Proofs.Lookup
import SignIn.Proofs.Routine.Perform

/-!
# Being told to stop

A routine may be told to stop while a request is under way or a menu is open.  From then
on it starts nothing more, it leaves the account as it is, whatever reply or pick still
arrives, and it ends aborted.

The steps do most of it, and end in different ways then.  The routine looks after each step
and turns whatever outcome it has into one.

## Main definitions

* `Step.Halts` — a step that starts nothing more once it is told to stop.

## Main results

* `halts_authentication`, `halts_lookup` — the steps do so.
* `Flow.run_of_stopped` — the routines do so, and end aborted.
-/

namespace SignIn

/-! ### Steps -/

/-- Once told to stop, the step starts nothing more and leaves the account as it is. -/
def Step.Halts (s : Step) : Prop :=
  ∀ (w : World) (a : Account) (log : Log), log.isStopped = false →
    ∃ new, (s.perform w a log).2.log = log ++ new ∧
      (new.isStopped = true → new.HaltsAt (s.perform w a log).2.account)

/-- What happened before the word to stop does not matter. -/
theorem Log.HaltsAt.append {a : Account} {log : Log} (h : log.HaltsAt a) {before : Log}
    (hb : before.isStopped = false) : Log.HaltsAt a (before ++ log) := by
  obtain ⟨before', after, rfl, hb', ha⟩ := h
  exact ⟨before ++ before', after, by simp, by simp [hb, hb'], ha⟩

namespace World

/-- Told to stop while a request is under way, a batch sends nothing more. -/
theorem Sends.haltsAt {w : World} {a : Account} {log more : Log} {r : Request} {p : Reply}
    (h : w.Sends a log r more p) (hl : log.isStopped = false) (hs : more.isStopped = true) :
    more.HaltsAt a := by
  cases h with
  | unsent h => simp [hl] at h
  | answered => simp at hs
  | stopped => exact ⟨[.sent r], [.answered r p a], rfl, rfl, rfl, rfl, rfl⟩

end World

namespace Authentication

theorem Round.halts {auth : Authentication} {w : World} {k : Kind} {x y : Standing} {v : Verdict}
    (h : Round auth w k x y v) (hx : x.log.isStopped = false) :
    ∃ new, y.log = x.log ++ new ∧ (new.isStopped = true → new.HaltsAt y.account) := by
  cases h with
  | unsendable => exact ⟨[], (List.append_nil _).symm, nofun⟩
  | stopped _ hs => exact ⟨_, rfl, hs.haltsAt hx⟩
  | @replied q p _ _ _ _ _ hh =>
    have hb : Log.isStopped [.sent q, .answered q p (accountFor w x.account k)] = false := rfl
    cases hh with
    | fails _ _ _ hm =>
      -- only at a menu can the word to stop come here
      refine ⟨_, List.append_assoc .., fun h => (hm.haltsAt ?_).append hb⟩
      simpa using h
    | ends => exact ⟨_, rfl, nofun⟩
    | picks _ hm hs => exact ⟨_, List.append_assoc .., fun h => by simp [hs] at h⟩

theorem Exchange.halts {auth : Authentication} {w : World} {a : Account} {log : Log} {r : Result}
    (h : Exchange auth w a log r) (hl : log.isStopped = false) :
    ∃ new, r.log = log ++ new ∧ (new.isStopped = true → new.HaltsAt r.account) := by
  cases h with
  | single h => exact h.halts hl
  | @double a₁ a₂ q₁ q₂ p₁ g e more z o ha₁ hq₁ hx hp₁ accepted hm hs ha₂ hq₂ h₂ =>
    have hb : Log.isStopped ([.sent q₁, .answered q₁ p₁ a₁] ++ more) = false := by simp [hs]
    obtain ⟨new, hlog, hnew⟩ := h₂.halts (by simp [hl, hs])
    refine ⟨[.sent q₁, .answered q₁ p₁ a₁] ++ more ++ new, by simp [hlog], fun h => ?_⟩
    rw [Log.isStopped_append, hb, Bool.false_or] at h
    exact (hnew h).append hb

/-- Where nothing answers, an exchange is told to stop at its first request. -/
theorem Exchange.log_of_silence {auth : Authentication} {w : World} {a : Account} {log : Log}
    {r : Result} {q : Request} (h : Exchange auth w a log r)
    (hw : w.server log.requests q = .silence) (hl : log.isStopped = false)
    (hq : auth.request w.settings (accountFor w a auth.firstKind) auth.firstKind = .ok q) :
    r.log = log ++ [.sent q, .stopped (accountFor w a auth.firstKind),
        .answered q (.cancelled q.url) (accountFor w a auth.firstKind)] := by
  cases h with
  | single h =>
    cases h with
    | unsendable he => exact (request_ne_ok he q hq).elim
    | stopped hq' hs hstop =>
      obtain rfl := Except.ok.inj (hq'.symm.trans hq)
      cases hs with
      | unsent h => simp [hl] at h
      | answered => simp [hl] at hstop
      | stopped _ hp =>
        simp only [hw, reduceCtorEq, true_and, false_or] at hp
        rw [hp]
    | replied hq' _ hp =>
      obtain rfl := Except.ok.inj (hq'.symm.trans hq)
      simp [hw] at hp
  | double ha₁ hq₁ _ hp₁ =>
    obtain rfl := Except.ok.inj (hq₁.symm.trans (ha₁ ▸ hq))
    simp [hw] at hp₁

end Authentication

theorem halts_authentication (auth : Authentication) : (Step.authentication auth).Halts :=
  fun w a log hl => (Authentication.act_spec auth w a log).halts hl

theorem Lookup.Looks.halts {w : World} {a : Account} {log : Log} {r : Result}
    (h : Lookup.Looks w a log r) (hl : log.isStopped = false) :
    ∃ new, r.log = log ++ new ∧ (new.isStopped = true → new.HaltsAt r.account) := by
  cases h with
  | nameless => exact ⟨[], (List.append_nil _).symm, nofun⟩
  | unsendable => exact ⟨[], (List.append_nil _).symm, nofun⟩
  | stopped _ _ hs => exact ⟨_, rfl, hs.haltsAt hl⟩
  | replied => exact ⟨_, rfl, nofun⟩

theorem halts_lookup : Step.lookup.Halts :=
  fun w a log hl => (Lookup.act_spec w a log).halts hl

/-! ### Routines -/

/-- **Steps that halt make a routine that halts**, and ends aborted. -/
theorem Routine.perform_of_stopped (w : World) (total : Nat) {steps : List Step}
    (hsteps : ∀ s ∈ steps, s.Halts) (index : Nat) (last : String) {c : Control} (a : Account)
    {log : Log} (hc : IsGoing c) (hl : log.isStopped = false) :
    ∃ new, (perform w total index last steps c a log).2.log = log ++ new ∧
      (new.isStopped = true →
        (perform w total index last steps c a log).2.outcome = .aborted ∧
        (perform w total index last steps c a log).1.activity.phase = .aborted ∧
        new.HaltsAt (perform w total index last steps c a log).2.account) := by
  -- by induction on the steps left; up to each of them the log has no word to stop
  induction steps generalizing index last c a log with
  | nil => exact ⟨[], (List.append_nil _).symm, nofun⟩
  | cons s rest ih =>
    obtain ⟨new, hlog, hnew⟩ := hsteps s (by simp) w a log hl
    have hstop : (s.perform w a log).2.log.isStopped = new.isStopped := by simp [hlog, hl]
    have hcont := perform_cons w total index last s rest hc a log
    generalize perform w total index last (s :: rest) c a log = r at hcont ⊢
    cases hcont with
    | stopped _ hphase => exact ⟨new, hlog, fun h => ⟨rfl, hphase, hnew h⟩⟩
    | failed hs => exact ⟨new, hlog, fun h => by simp [hstop, h] at hs⟩
    | next hs _ hc' =>
      obtain ⟨later, hlog₂, hlater⟩ := ih (fun s hs => hsteps s (by simp [hs])) (index + 1)
        (s.perform w a log).2.outcome.message (s.perform w a log).2.account hc' hs
      rw [hstop] at hs
      refine ⟨new ++ later, by rw [hlog₂, hlog, List.append_assoc], fun h => ?_⟩
      rw [Log.isStopped_append, hs, Bool.false_or] at h
      obtain ⟨ho, hp, hh⟩ := hlater h
      exact ⟨ho, hp, hh.append hs⟩

namespace Flow

/-- **A ready-made routine that is told to stop** ends aborted at once, starts no further
request and shows no further menu, and the account stays as it is at that moment. -/
theorem run_of_stopped (f : Flow) (w : World) (a a' : Account) (before after : Log)
    (h : (f.routine.run w a).2.log = before ++ .stopped a' :: after) :
    (f.routine.run w a).2.outcome = ⟨.failedSoft, "Authentication aborted."⟩ ∧
    (f.routine.run w a).1.control.activity.phase = .aborted ∧
    after.requests = [] ∧ after.menus = [] ∧ (f.routine.run w a).2.account = a' := by
  obtain ⟨c, hc, hr, hcontrol⟩ := f.run_eq w a
  have hsteps : ∀ s ∈ [Step.authentication f.authentication, .lookup], s.Halts := by
    simp [halts_authentication, halts_lookup]
  obtain ⟨new, hlog, hnew⟩ := Routine.perform_of_stopped w 2 hsteps 0 "" a hc
    Log.isStopped_nil
  rw [← hr, List.nil_append] at hlog
  have hstop : new.isStopped = true := by simp [← hlog, h]
  obtain ⟨ho, hp, hh⟩ := hnew hstop
  rw [← hr] at ho hh
  rw [← hcontrol] at hp
  obtain ⟨ha, hreq, hmenus⟩ := hh.eq_of_append (hlog.symm.trans h)
  exact ⟨ho, hp, hreq, hmenus, ha⟩

end Flow

theorem isTime_midnight : Time.IsTime 0 0 := by decide

/-- A world in which nothing answers. -/
def World.silent : World where
  settings := ⟨"a:", "a:", "", 1⟩
  server := fun _ _ => .silence
  picker := fun _ _ => .chosen none
  clock := fun _ => ⟨Time.Instant.epoch, 0, 0, isTime_midnight⟩
  random := 0
  route := .activity

/-- A renewal that nothing answers is told to stop in the end. -/
theorem run_of_stopped_silent :
    let r := Flow.renewal.routine.run .silent (.mojang "player")
    ∃ (before : Log) (a' : Account) (after : Log),
      r.2.log = before ++ .stopped a' :: after ∧
        r.2.outcome = ⟨.failedSoft, "Authentication aborted."⟩ ∧
        r.1.control.activity.phase = .aborted ∧ after.requests = [] ∧ after.menus = [] ∧
        r.2.account = a' := by
  intro r
  let auth := Flow.renewal.authentication
  obtain ⟨q, hq⟩ : ∃ q, auth.request World.silent.settings (.mojang "player") .renewal = .ok q :=
    ⟨_, rfl⟩
  have hact := (auth.act_spec .silent (.mojang "player") []).log_of_silence rfl rfl hq
  have hstop : (auth.act .silent (.mojang "player") []).log.isStopped = true := by simp [hact]
  have hlog : r.2.log = [.sent q] ++ .stopped (.mojang "player") ::
      [.answered q (.cancelled q.url) (.mojang "player")] := by
    obtain ⟨c, hc, hr, -⟩ := Flow.renewal.run_eq .silent (.mojang "player")
    have hcont := Routine.perform_cons .silent 2 0 "" (.authentication auth) [.lookup] hc
      (.mojang "player") []
    rw [show r.2 = _ from hr]
    generalize Routine.perform _ 2 0 "" [.authentication auth, .lookup] c _ [] = r' at hcont ⊢
    cases hcont with
    | stopped => exact hact
    | failed => exact hact
    | next hs => exact (Bool.false_ne_true (hs.symm.trans hstop)).elim
  exact ⟨_, _, _, hlog, Flow.run_of_stopped .renewal .silent _ _ _ _ hlog⟩

end SignIn
