import Mathlib.Data.List.Induction
import SignIn.Proofs.Routine.Cancellation

/-!
# Being told to stop beforehand

A routine may be told to stop before it runs, by one route or by both.  It does nothing then: no
step is performed, nothing is sent, and the account stays as it is.  But what it says depends on the
route, because it looks in two places.  If its activity was cancelled, the routine cannot start, and
says that it was started already.  If only a token was, the routine starts, and looks before each
step; it ends aborted, unless there is no step to look before.

## Main definitions

* `Routine.stoppedBy` — a routine that was told to stop before it runs.
* `Routine.Idles` — what comes of its run.

## Main results

* `Routine.Heard.stop`, `Routine.heard_stoppedBy` — one route, and all of them.
* `Routine.run_stoppedBy` — **what comes of such a run.**
* `Routine.run_stoppedBy_unlike` — outcomes that are not the aborted one.
-/

namespace SignIn.Routine

/-- A routine that was told to stop by some routes, one after the other, before it runs. -/
def stoppedBy (name : String) (steps : List Step) (routes : List Route) : Routine :=
  ⟨routes.foldl Control.stop (.new name), steps⟩

/-! ### The word to stop -/

/-- What a control has heard that was told to stop by some routes before anything started. -/
structure Heard (name : String) (routes : List Route) (c : Control) : Prop where
  /-- It is told to stop if there was a word. -/
  isStopped : c.isStopped = true ↔ routes ≠ []
  /-- Only the activity's own cancellation ends it. -/
  phase_eq : c.activity.phase = if .activity ∈ routes then .aborted else .inactive
  /-- It keeps its name. -/
  name_eq : c.activity.name = name

/-- What one more word adds. -/
theorem Heard.stop {name : String} {routes : List Route} {c : Control} (h : Heard name routes c)
    (route : Route) : Heard name (routes ++ [route]) (c.stop route) := by
  have hne : routes ++ [route] ≠ [] := by simp
  cases route with
  | token =>
    refine ⟨iff_of_true rfl hne, ?_, h.name_eq⟩
    simpa [Control.stop] using h.phase_eq
  | activity =>
    have hmem : Route.activity ∈ routes ++ [.activity] := by simp
    by_cases hactivity : Route.activity ∈ routes
    · -- the activity has ended before
      have hphase : c.activity.phase = .aborted := h.phase_eq.trans (if_pos hactivity)
      have hstay : c.stop .activity = c := by
        simp [Control.stop, Control.cancel, hphase, Phase.isTerminal]
      rw [hstay]
      refine ⟨iff_of_true (h.isStopped.2 (List.ne_nil_of_mem hactivity)) hne, ?_, h.name_eq⟩
      rw [hphase, if_pos hmem]
    · have hphase : c.activity.phase = .inactive := h.phase_eq.trans (if_neg hactivity)
      have hopen : c.activity.phase.isTerminal = false := by
        rw [hphase]
        rfl
      have hcancel : (c.stop .activity).activity = c.activity.tell .abort := by
        simp [Control.stop, Control.cancel, hopen, Activity.tell]
      refine ⟨iff_of_true (Control.isStopped_stop hopen .activity) hne, ?_, ?_⟩
      · rw [hcancel, Activity.phase_tell_abort hopen, if_pos hmem]
      · rw [hcancel, Activity.name_tell]
        exact h.name_eq

/-- **What all words come to.** -/
theorem heard_stoppedBy (name : String) (steps : List Step) (routes : List Route) :
    Heard name routes (stoppedBy name steps routes).control := by
  -- by induction on the routes, from the first one on
  induction routes using List.reverseRecOn with
  | nil => exact ⟨iff_of_false Bool.false_ne_true (fun h => h rfl), rfl, rfl⟩
  | append_singleton routes route ih =>
    have hlast : (stoppedBy name steps (routes ++ [route])).control =
        (stoppedBy name steps routes).control.stop route := List.foldl_append
    rw [hlast]
    exact ih.stop route

/-! ### The run -/

/-- What comes of the run of a routine that was told to stop beforehand. -/
structure Idles (name : String) (steps : List Step) (routes : List Route) (a : Account)
    (r : Routine × Result) : Prop where
  /-- Nothing has happened but the word to stop. -/
  log_eq : r.2.log = [.stopped a]
  /-- The account stays as it is. -/
  account_eq : r.2.account = a
  /-- If its activity was cancelled, the routine cannot start. -/
  cancelled : .activity ∈ routes →
    r.2.outcome = .hard ("Task '" ++ name ++ "' was already started") ∧
      r.1.control.activity.phase = .aborted
  /-- If only its token was, the routine is aborted before its first step. -/
  aborted : .activity ∉ routes → steps ≠ [] →
    r.2.outcome = .aborted ∧ r.1.control.activity.phase = .aborted
  /-- But it succeeds if there is none. -/
  succeeded : .activity ∉ routes → steps = [] →
    r.2.outcome = ⟨.succeeded, ""⟩ ∧ r.1.control.activity.phase = .succeeded

/-- **What comes of the run of a routine that was told to stop beforehand**, whatever its steps would
do and in whatever world. -/
theorem run_stoppedBy (name : String) (steps : List Step) {routes : List Route}
    (h : routes ≠ []) (w : World) (a : Account) :
    Idles name steps routes a ((stoppedBy name steps routes).run w a) := by
  obtain ⟨hstop, hphase, hname⟩ := heard_stoppedBy name steps routes
  have hstopped : (stoppedBy name steps routes).control.isStopped = true := hstop.2 h
  have hbefore : (stoppedBy name steps routes).before a = [.stopped a] := if_pos hstopped
  by_cases hactivity : Route.activity ∈ routes
  · -- the activity has ended, so that it does not start
    have haborted : (stoppedBy name steps routes).control.activity.phase = .aborted :=
      hphase.trans (if_pos hactivity)
    have hrun : (stoppedBy name steps routes).run w a = (stoppedBy name steps routes,
        ⟨.hard (Error.activityStarted name).message, a, [.stopped a]⟩) := by
      rw [run, if_neg (by simp [haborted]), hname, hbefore]
    rw [hrun]
    exact ⟨rfl, rfl, fun _ => ⟨rfl, haborted⟩, fun hn => absurd hactivity hn,
      fun hn => absurd hactivity hn⟩
  · -- it starts, and has not looked yet
    have hinactive : (stoppedBy name steps routes).control.activity.phase = .inactive :=
      hphase.trans (if_neg hactivity)
    have hrun : (stoppedBy name steps routes).run w a =
        ({ stoppedBy name steps routes with control := (perform w steps.length 0 "" steps
            ((stoppedBy name steps routes).control.tell .start) a [.stopped a]).1 },
          (perform w steps.length 0 "" steps ((stoppedBy name steps routes).control.tell .start) a
            [.stopped a]).2) := by
      rw [run, if_pos hinactive, hbefore]
      rfl
    rw [hrun]
    generalize hcontrol : (stoppedBy name steps routes).control.tell .start = c
    have hstays : c.isStopped = true := by
      rw [← hcontrol]
      exact hstopped
    have hrunning : c.activity.phase = .running := by
      rw [← hcontrol]
      exact phase_tell_start hinactive
    cases steps with
    | nil =>
      refine ⟨rfl, rfl, fun hin => absurd hin hactivity, fun _ hne => absurd rfl hne,
        fun _ _ => ⟨rfl, ?_⟩⟩
      exact phase_tell_succeed ((Activity.phase_tell_progress ..).trans hrunning)
    | cons s rest =>
      rw [perform, if_pos hstays]
      refine ⟨rfl, rfl, fun hin => absurd hin hactivity, fun _ _ => ⟨rfl, ?_⟩,
        fun _ hnil => absurd hnil (List.cons_ne_nil s rest)⟩
      exact Activity.phase_tell_abort (by rw [hrunning]; rfl)

/-- A step that does well and changes nothing. -/
def content : Step := .new "content" fun _ a log => ⟨.working "", a, log⟩

/-- A routine of one step that is told to stop by a token is aborted. -/
theorem run_stoppedBy_token :
    ((stoppedBy "pipeline" [content] [.token]).run .silent (.mojang "player")).2.outcome =
      .aborted :=
  have hidles := run_stoppedBy "pipeline" [content] (List.cons_ne_nil .token []) .silent
    (.mojang "player")
  (hidles.aborted (by decide) (List.cons_ne_nil _ _)).1

/-- **Outcomes that are not the aborted one.**  A routine whose activity was cancelled says that it
was started already, and one without steps whose token was cancelled succeeds. -/
theorem run_stoppedBy_unlike :
    ((stoppedBy "pipeline" [content] [.activity]).run .silent (.mojang "player")).2.outcome =
        .hard "Task 'pipeline' was already started" ∧
      ((stoppedBy "pipeline" [] [.token]).run .silent (.mojang "player")).2.outcome =
        ⟨.succeeded, ""⟩ :=
  ⟨rfl, rfl⟩

end SignIn.Routine
