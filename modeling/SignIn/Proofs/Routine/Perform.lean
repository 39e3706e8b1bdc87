import SignIn.Routine

/-!
# What performing steps comes to

A routine takes one step after the other.  After each of them it either stops, because it was
told to or because the step did not do its part, or it goes on with the others from where the
step left the account and the log.

## Main definitions

* `Flow` — the ready-made routines.

## Main results

* `Routine.perform_cons` — what a routine comes to, in terms of its first step.
* `Flow.run_eq` — running a ready-made routine is performing two steps.
-/

namespace SignIn

namespace Routine

/-! ### One step after the other -/

theorem hear_of_stopped {c : Control} (hs : c.isStopped = false) {log : Log}
    (hl : log.isStopped = true) (route : Route) : hear c route log = c.stop route :=
  if_pos ⟨hl, by simp [hs]⟩

theorem hear_of_not_stopped (c : Control) {log : Log} (hl : log.isStopped = false)
    (route : Route) : hear c route log = c :=
  if_neg (by simp [hl])

theorem phase_announce (c : Control) (index total : Nat) (label : String) :
    (announce c index total label).activity.phase = c.activity.phase := by
  simp [announce]

/-- What has not started starts. -/
theorem phase_tell_start {c : Control} (h : c.activity.phase = .inactive) :
    (c.tell .start).activity.phase = .running := by
  have hp : c.activity.snapshot.phase = .inactive := h
  simp [Activity.tell, Activity.update, Activity.phase, Snapshot.after?, hp]

/-- What runs can succeed. -/
theorem phase_tell_succeed {c : Control} (h : c.activity.phase = .running) :
    (c.tell .succeed).activity.phase = .succeeded := by
  have hp : c.activity.snapshot.phase = .running := h
  simp [Activity.tell, Activity.update, Activity.phase, Snapshot.after?, hp]

/-- The steps are under way and may go on. -/
def IsGoing (c : Control) : Prop := c.activity.phase = .running ∧ c.isStopped = false

theorem IsGoing.announce {c : Control} (h : IsGoing c) (index total : Nat) (label : String) :
    IsGoing (announce c index total label) :=
  ⟨(phase_announce ..).trans h.1, h.2⟩

theorem IsGoing.isTerminal_eq {c : Control} (h : IsGoing c) :
    c.activity.phase.isTerminal = false := by
  rw [h.1]
  rfl

/-- What a routine comes to, given what its first step comes to. -/
inductive Continues (w : World) (total index : Nat) (rest : List Step) (first : Result) :
    Control × Result → Prop
  /-- It was told to stop meanwhile. -/
  | stopped {c : Control} (hs : first.log.isStopped = true) (hc : c.activity.phase = .aborted) :
    Continues w total index rest first (c, { first with outcome := .aborted })
  /-- The step did not do its part. -/
  | failed {c : Control} (hs : first.log.isStopped = false)
    (ho : first.outcome.status ≠ .working) : Continues w total index rest first (c, first)
  /-- The other steps follow. -/
  | next {c : Control} (hs : first.log.isStopped = false) (ho : first.outcome.status = .working)
    (hc : IsGoing c) : Continues w total index rest first
      (perform w total (index + 1) first.outcome.message rest c first.account first.log)

/-- A routine that is not told to stop meanwhile fails by its first step, or goes on with the
others. -/
theorem perform_cons_of_not_stopped {w : World} {s : Step} {c : Control} (hc : IsGoing c)
    {a : Account} {log : Log} (hl : (s.perform w a log).2.log.isStopped = false)
    (total index : Nat) (last : String) (rest : List Step) :
    perform w total index last (s :: rest) c a log =
      let r := (s.perform w a log).2
      let c := announce c index total s.label
      if r.outcome.status = .working then
        perform w total (index + 1) r.outcome.message rest c r.account r.log
      else (c.tell (.fail r.outcome.message), r) := by
  have ha := hc.announce index total s.label
  rw [perform, if_neg (by simp [hc.2])]
  dsimp only
  rw [hear_of_not_stopped _ hl, if_neg (by simp [ha.2])]

/-- **A routine takes its first step**, and then it is over or goes on with the others. -/
theorem perform_cons (w : World) (total index : Nat) (last : String) (s : Step)
    (rest : List Step) {c : Control} (hc : IsGoing c) (a : Account) (log : Log) :
    Continues w total index rest (s.perform w a log).2
      (perform w total index last (s :: rest) c a log) := by
  have ha := hc.announce index total s.label
  cases hl : (s.perform w a log).2.log.isStopped with
  | true =>
    rw [perform, if_neg (by simp [hc.2])]
    dsimp only
    rw [hear_of_stopped ha.2 hl, if_pos (Control.isStopped_stop ha.isTerminal_eq w.route)]
    exact .stopped hl (Control.phase_stop_abort ha.isTerminal_eq w.route)
  | false =>
    rw [perform_cons_of_not_stopped hc hl]
    dsimp only
    split
    · rename_i ho
      exact .next hl ho ha
    · rename_i ho
      exact .failed hl ho

/-- A routine that is not told to stop at all is not told so by its first step. -/
theorem isStopped_of_perform_cons {w : World} {total index : Nat} {last : String} {s : Step}
    {rest : List Step} {c : Control} (hc : IsGoing c) {a : Account} {log : Log}
    (h : (perform w total index last (s :: rest) c a log).2.log.isStopped = false) :
    (s.perform w a log).2.log.isStopped = false := by
  have hcont := perform_cons w total index last s rest hc a log
  generalize perform w total index last (s :: rest) c a log = r at hcont h
  cases hcont with
  | stopped => exact h
  | failed hs => exact hs
  | next hs => exact hs

end Routine

/-! ### The ready-made routines -/

/-- The ready-made routines. -/
inductive Flow where
  /-- Logging an account in with a password. -/
  | login (password : String)
  /-- Renewing the token of an account. -/
  | renewal
  deriving DecidableEq, Repr

namespace Flow

/-- The routine that has not started. -/
def routine : Flow → Routine
  | .login password => .login password
  | .renewal => .renewal

/-- How it authenticates. -/
def authentication : Flow → Authentication
  | .login password => (Authentication.login password).withOfflineDetection
  | .renewal => Authentication.renewal.withOfflineDetection

theorem run_eq (f : Flow) (w : World) (a : Account) :
    ∃ c : Control, Routine.IsGoing c ∧
      (f.routine.run w a).2 =
        (Routine.perform w 2 0 "" [.authentication f.authentication, .lookup] c a []).2 ∧
      (f.routine.run w a).1.control =
        (Routine.perform w 2 0 "" [.authentication f.authentication, .lookup] c a []).1 := by
  cases f with
  | login password => exact ⟨(Control.new "login").tell .start, ⟨rfl, rfl⟩, rfl, rfl⟩
  | renewal => exact ⟨(Control.new "refresh").tell .start, ⟨rfl, rfl⟩, rfl, rfl⟩

end Flow

end SignIn
