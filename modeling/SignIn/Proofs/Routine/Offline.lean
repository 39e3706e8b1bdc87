import SignIn.Proofs.Authentication.Classification
import SignIn.Proofs.Routine.Cancellation

/-!
# When a service counts as offline

The ready-made routines report that the service is offline exactly if the first request that they
send reaches no server: later requests, and the look-up of the profile, never lead to this.

## Main definitions

* `Flow.OpensUnreached` — the first request of a routine reaches no server.

## Main results

* `Flow.run_offline_iff` — when a ready-made routine reports that the service is offline.
* `replies_classified` — what a reply of another status than 200 leads to, in a step and in a
  routine.
-/

namespace SignIn

open SignIn.Authentication

namespace Lookup

/-- A look-up never reports that the service is offline. -/
theorem Looks.status_ne {w : World} {a : Account} {log : Log} {r : Result} (h : Looks w a log r) :
    r.outcome.status ≠ .offline := by
  cases h with
  | nameless => exact nofun
  | unsendable => exact nofun
  | stopped => exact nofun
  | @replied q p =>
    dsimp only
    unfold judge failed described
    repeat' split
    all_goals exact nofun

end Lookup

namespace Flow

/-- The first request of a routine reaches no server. -/
structure OpensUnreached (f : Flow) (c : Control) (w : World) (a : Account) (q : Request)
    (p : Reply) : Prop where
  /-- The routine has not run. -/
  idle : c.activity.phase = .inactive
  /-- It was not told to stop. -/
  going : c.isStopped = false
  /-- Its first request can be made, and has a reply. -/
  gets : Gets f.authentication w f.authentication.firstKind ⟨a, [], false⟩ q p
  /-- The reply is no server's. -/
  unreached : p.IsUnreached

theorem isGoing_of_inactive {c : Control} (hp : c.activity.phase = .inactive)
    (hs : c.isStopped = false) : Routine.IsGoing (c.tell .start) :=
  ⟨Routine.phase_tell_start hp, hs⟩

/-- After the authentication, no look-up reports that the service is offline. -/
theorem status_ne_of_lookup (w : World) {c : Control} (hc : Routine.IsGoing c) (index : Nat)
    (last : String) (a : Account) (log : Log) :
    (Routine.perform w 2 index last [.lookup] c a log).2.outcome.status ≠ .offline := by
  have hcont := Routine.perform_cons w 2 index last .lookup [] hc a log
  generalize Routine.perform w 2 index last [.lookup] c a log = r at hcont ⊢
  cases hcont with
  | stopped => exact nofun
  | failed => exact (Lookup.act_spec w a log).status_ne
  | next => exact nofun

/-- Two steps that are under way report that the service is offline exactly if the first one does,
without being told to stop. -/
theorem perform_offline_iff (auth : Authentication) (w : World) {c : Control}
    (hc : Routine.IsGoing c) (a : Account) :
    (Routine.perform w 2 0 "" [.authentication auth, .lookup] c a []).2.outcome.status =
        .offline ↔
      (auth.act w a []).log.isStopped = false ∧ (auth.act w a []).outcome.status = .offline := by
  have hcont := Routine.perform_cons w 2 0 "" (.authentication auth) [.lookup] hc a []
  generalize Routine.perform w 2 0 "" [.authentication auth, .lookup] c a [] = r at hcont ⊢
  cases hcont with
  | stopped hs =>
    refine iff_of_false nofun ?_
    rintro ⟨hgoing, -⟩
    exact Bool.false_ne_true (hgoing.symm.trans hs)
  | failed hs => exact (and_iff_right hs).symm
  | @next c hs ho hc' =>
    refine iff_of_false (status_ne_of_lookup w hc' 1 _ _ _) ?_
    rintro ⟨-, hoffline⟩
    have hworking : (auth.act w a []).outcome.status = .working := ho
    rw [hworking] at hoffline
    cases hoffline

/-- They end with the first one then. -/
theorem perform_of_offline {auth : Authentication} {w : World} {c : Control}
    (hc : Routine.IsGoing c) {a : Account}
    (h : (Routine.perform w 2 0 "" [.authentication auth, .lookup] c a []).2.outcome.status =
      .offline) :
    (Routine.perform w 2 0 "" [.authentication auth, .lookup] c a []).2 = auth.act w a [] := by
  have hcont := Routine.perform_cons w 2 0 "" (.authentication auth) [.lookup] hc a []
  generalize Routine.perform w 2 0 "" [.authentication auth, .lookup] c a [] = r at hcont h ⊢
  cases hcont with
  | stopped => cases h
  | failed => rfl
  | next _ _ hc' => exact (status_ne_of_lookup w hc' 1 _ _ _ h).elim

theorem steps_routine (f : Flow) :
    f.routine.steps = [.authentication f.authentication, .lookup] := by
  cases f <;> rfl

/-- A routine that can run performs its two steps. -/
theorem run_eq_perform_of_idle (f : Flow) {c : Control} (hp : c.activity.phase = .inactive)
    (hs : c.isStopped = false) (w : World) (a : Account) :
    (({ f.routine with control := c }).run w a).2 =
      (Routine.perform w 2 0 "" [.authentication f.authentication, .lookup] (c.tell .start) a
        []).2 := by
  have hnil : ({ f.routine with control := c } : Routine).before a = [] := by
    simp [Routine.before, hs]
  unfold Routine.run
  rw [if_pos hp, hnil]
  dsimp only
  rw [f.steps_routine]
  rfl

/-- A routine that cannot run reports something else. -/
theorem status_ne_of_not_idle (f : Flow) {c : Control}
    (h : ¬ (c.activity.phase = .inactive ∧ c.isStopped = false)) (w : World) (a : Account) :
    (({ f.routine with control := c }).run w a).2.outcome.status ≠ .offline := by
  intro ho
  unfold Routine.run at ho
  by_cases hp : c.activity.phase = .inactive
  · have hs : c.isStopped = true := by simpa [hp] using h
    rw [if_pos hp] at ho
    dsimp only at ho
    rw [f.steps_routine, Routine.perform, if_pos (by simpa using hs)] at ho
    cases ho
  · rw [if_neg hp] at ho
    cases ho

/-- **A ready-made routine reports that the service is offline** exactly if it can run and its
first request reaches no server. -/
theorem run_offline_iff (f : Flow) (c : Control) (w : World) (a : Account) :
    (({ f.routine with control := c }).run w a).2.outcome.status = .offline ↔
      ∃ q p, f.OpensUnreached c w a q p := by
  by_cases h : c.activity.phase = .inactive ∧ c.isStopped = false
  · obtain ⟨hp, hs⟩ := h
    have hd : f.authentication.detectsOffline = true := by cases f <;> rfl
    rw [f.run_eq_perform_of_idle hp hs, perform_offline_iff _ w (isGoing_of_inactive hp hs)]
    constructor
    · rintro ⟨hstop, ho⟩
      obtain ⟨-, q, p, hgets, hunreached⟩ := (act_offline_iff hstop).1 ho
      exact ⟨q, p, hp, hs, hgets, hunreached⟩
    · rintro ⟨q, p, h⟩
      have hstop := (Receives.now h.gets).going_of_status_ne (by simp [h.unreached.1])
      exact ⟨hstop, (act_offline_iff hstop).2 ⟨hd, q, p, h.gets, h.unreached⟩⟩
  · refine iff_of_false (f.status_ne_of_not_idle h w a) ?_
    rintro ⟨q, p, hopens⟩
    exact h ⟨hopens.idle, hopens.going⟩

/-- Such a routine ends with its first reply, and leaves the account as it was then. -/
theorem run_of_opensUnreached {f : Flow} {c : Control} {w : World} {a : Account} {q : Request}
    {p : Reply} (h : f.OpensUnreached c w a q p) :
    (({ f.routine with control := c }).run w a).2.account =
        accountFor w a f.authentication.firstKind ∧
      (({ f.routine with control := c }).run w a).2.log =
        [.sent q, .answered q p (accountFor w a f.authentication.firstKind)] := by
  have ho := (f.run_offline_iff c w a).2 ⟨q, p, h⟩
  rw [f.run_eq_perform_of_idle h.idle h.going] at ho ⊢
  rw [perform_of_offline (isGoing_of_inactive h.idle h.going) ho]
  exact ((Receives.now h.gets).ungranted (by simp [h.unreached.1])).2

end Flow

/-- **What a reply of another status than 200 leads to.**  A step that hears what the world says
ends with it, in the way that its failure, its status and its body determine, and leaves the account
as it was; and a ready-made routine reports that the service is offline exactly if its first request
reached no server, and then this is all that happened. -/
theorem replies_classified :
    (∀ (auth : Authentication) (w : World) (a : Account) (log : Log),
      let r := ((Step.authentication auth).perform w a log).2
      ∃ new, r.log = log ++ new ∧ Hears auth w a log new ∧
        ∀ before q p b, Receives auth w auth.firstKind ⟨a, log, false⟩ before q p b →
          p.status ≠ some 200 →
          Ungranted (before.exchanges.isEmpty && auth.detectsOffline) p r.outcome ∧
            r.account = b ∧ new = before ++ [.answered q p b]) ∧
    ∀ (f : Flow) (c : Control) (w : World) (a : Account),
      let r := (({ f.routine with control := c }).run w a).2
      (r.outcome.status = .offline ↔ ∃ q p, f.OpensUnreached c w a q p) ∧
        ∀ q p, f.OpensUnreached c w a q p → r.account = accountFor w a f.authentication.firstKind ∧
          r.log = [.sent q, .answered q p (accountFor w a f.authentication.firstKind)] := by
  constructor
  · intro auth w a log
    obtain ⟨new, hlog, hhears⟩ := act_hears auth w a log
    refine ⟨new, hlog, hhears, ?_⟩
    intro before q p b h hs
    obtain ⟨hungranted, haccount, hlog'⟩ := h.ungranted hs
    exact ⟨hungranted, haccount, List.append_cancel_left (hlog.symm.trans hlog')⟩
  · intro f c w a
    exact ⟨f.run_offline_iff c w a, fun q p h => Flow.run_of_opensUnreached h⟩

/-- A world in which no server is reached. -/
def unreachable : World :=
  { World.silent with
    server := fun _ q => .reply (.ofFailure q.url .connectionRefused "Connection refused") }

/-- A renewal there ends with its first request, and the service counts as offline. -/
theorem replies_classified_unreachable :
    let auth := Authentication.renewal.withOfflineDetection
    let a := Account.mojang "steve"
    let step := ((Step.authentication auth).perform unreachable a []).2
    let run := (Flow.renewal.routine.run unreachable a).2
    ∃ q, let p := Reply.ofFailure q.url .connectionRefused "Connection refused"
      auth.request unreachable.settings a .renewal = .ok q ∧
      step.outcome = .offline
        "Authentication operation failed due to a network error: Connection refused" ∧
      step.account = a ∧ step.log = [.sent q, .answered q p a] ∧
      run.outcome.status = .offline ∧ run.account = a ∧ run.log = [.sent q, .answered q p a] := by
  obtain ⟨hsteps, hruns⟩ := replies_classified
  obtain ⟨q, hq⟩ : ∃ q, Authentication.renewal.withOfflineDetection.request unreachable.settings
      (.mojang "steve") .renewal = .ok q := ⟨_, rfl⟩
  intro auth a step run
  have hgets : Gets auth unreachable .renewal ⟨a, [], false⟩ q
      (.ofFailure q.url .connectionRefused "Connection refused") := ⟨rfl, hq, rfl⟩
  have hunreached : (Reply.ofFailure q.url .connectionRefused "Connection refused").IsUnreached :=
    ⟨rfl, .connectionRefused, rfl, by decide, by decide⟩
  refine ⟨q, hq, ?_⟩
  obtain ⟨new, hlog, -, hends⟩ := hsteps auth unreachable a []
  obtain ⟨hungranted, haccount, rfl⟩ := hends _ _ _ _ (.now hgets) nofun
  obtain ⟨hoffline, hopens⟩ := hruns .renewal Flow.renewal.routine.control unreachable a
  have h : Flow.renewal.OpensUnreached Flow.renewal.routine.control unreachable a q
      (.ofFailure q.url .connectionRefused "Connection refused") := ⟨rfl, rfl, hgets, hunreached⟩
  obtain ⟨haccount', hlog'⟩ := hopens _ _ h
  exact ⟨hungranted.unreached _ rfl rfl nofun nofun, haccount, hlog, hoffline.2 ⟨q, _, h⟩,
    haccount', hlog'⟩

end SignIn
