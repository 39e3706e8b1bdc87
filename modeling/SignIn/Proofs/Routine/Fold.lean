import SignIn.Proofs.Routine.Cancellation

/-!
# A routine as a fold

A routine that is not told to stop folds its steps: each of them takes over where the one before
left the account and the log, and the first one that does not do its part ends it all.  What the
activity shows in the end agrees with the outcome, because no step claims the success that is the
routine's alone to claim.

## Main definitions

* `Step.IsBuiltIn` — the steps there are.
* `Step.follow` — a step takes over.
* `Routine.Ends` — what a routine ends with, and what its activity shows then.

## Main results

* `Step.IsBuiltIn.ne_succeeded` — no step claims success.
* `Routine.run_folds` — a routine is a fold over its steps, and runs once.
-/

namespace SignIn

/-! ### Steps -/

/-- The steps there are, whether or not they have acted. -/
inductive Step.IsBuiltIn : Step → Prop
  /-- To authenticate an account. -/
  | authentication (auth : Authentication) (isDone : Bool) :
    IsBuiltIn { Step.authentication auth with isDone := isDone }
  /-- To look a profile up. -/
  | lookup (isDone : Bool) : IsBuiltIn { Step.lookup with isDone := isDone }

namespace Authentication

theorem Round.ne_succeeded {auth : Authentication} {w : World} {k : Kind} {x y : Standing}
    {o : Outcome} (h : Round auth w k x y (.done o)) : o.status ≠ .succeeded := by
  cases h with
  | unsendable => exact nofun
  | stopped => exact nofun
  | replied _ _ _ hh =>
    cases hh with
    | fails ho => exact (Status.isFailure_iff.1 ho).2
    | ends => exact nofun

theorem act_ne_succeeded (auth : Authentication) (w : World) (a : Account) (log : Log) :
    (auth.act w a log).outcome.status ≠ .succeeded := by
  have h := act_spec auth w a log
  generalize auth.act w a log = r at h
  cases h with
  | single h => exact h.ne_succeeded
  | double _ _ _ _ _ _ _ _ _ h₂ => exact h₂.ne_succeeded

end Authentication

namespace Lookup

theorem judge_ne_succeeded (p : Reply) (profile : Profile) :
    (judge p profile).1.status ≠ .succeeded := by
  unfold judge failed described
  repeat' split
  all_goals exact nofun

theorem act_ne_succeeded (w : World) (a : Account) (log : Log) :
    (act w a log).outcome.status ≠ .succeeded := by
  have h := act_spec w a log
  generalize act w a log = r at h
  cases h with
  | nameless => exact nofun
  | unsendable => exact nofun
  | stopped => exact nofun
  | replied => exact judge_ne_succeeded _ _

end Lookup

/-- **No step claims success.**  It fails, or it leaves the rest to the others. -/
theorem Step.IsBuiltIn.ne_succeeded {s : Step} (h : s.IsBuiltIn) (w : World) (a : Account)
    (log : Log) : (s.perform w a log).2.outcome.status ≠ .succeeded := by
  unfold perform
  split
  · exact nofun
  · cases h with
    | authentication auth => exact auth.act_ne_succeeded w a log
    | lookup => exact Lookup.act_ne_succeeded w a log

/-- A step takes over from what another one came to.  If it does not do its part, nothing
follows. -/
def Step.follow (w : World) (r : Result) (s : Step) : Except Result Result :=
  let next := (s.perform w r.account r.log).2
  if next.outcome.status = .working then .ok next else .error next

theorem Step.follow_eq_ok {w : World} {r : Result} {s : Step}
    (h : (s.perform w r.account r.log).2.outcome.status = .working) :
    Step.follow w r s = .ok (s.perform w r.account r.log).2 := if_pos h

theorem Step.follow_eq_error_iff {w : World} {r fault : Result} {s : Step} :
    Step.follow w r s = .error fault ↔
      fault.outcome.status ≠ .working ∧ (s.perform w r.account r.log).2 = fault := by
  unfold Step.follow
  dsimp only
  split
  · rename_i ho
    refine iff_of_false nofun ?_
    rintro ⟨hf, rfl⟩
    exact hf ho
  · rename_i ho
    rw [Except.error.injEq]
    refine ⟨?_, And.right⟩
    rintro rfl
    exact ⟨ho, rfl⟩

/-- What there is before the first step. -/
def Result.start (a : Account) : Result := ⟨.working "", a, []⟩

/-! ### Snapshots -/

namespace Routine

section Going

variable {c : Control} (hc : IsGoing c)

include hc

/-- The activity of a routine at the start of a step. -/
theorem snapshot_announce (index total : Nat) (label : String) :
    (announce c index total label).activity.snapshot =
      { c.activity.snapshot with progress := ⟨index, total⟩, status := label } := by
  refine Control.snapshot_tell ?_
  rw [Control.snapshot_tell_progress, if_pos hc.1]
  exact if_pos hc.1

/-- The activity of a routine that succeeds. -/
theorem snapshot_succeed (total : Nat) :
    ((c.tell (.progress total total)).tell .succeed).activity.snapshot =
      ⟨.succeeded, ⟨total, total⟩, c.activity.snapshot.status, none⟩ := by
  refine Control.snapshot_tell ?_
  rw [Control.snapshot_tell_progress, if_pos hc.1]
  exact if_pos hc.1

/-- The activity of a routine that fails. -/
theorem snapshot_fail (message : String) :
    (c.tell (.fail message)).activity.snapshot =
      { c.activity.snapshot with phase := .failed, failure := some message } :=
  Control.snapshot_tell (by exact if_pos hc.1)

end Going

/-- What a routine ends with, and what its activity shows then.  It starts with the step of a
number, while the status of an earlier one is shown. -/
inductive Ends (w : World) (total index : Nat) (status : String) (steps : List Step) (r : Result) :
    Snapshot → Result → Prop
  /-- All steps do their part. -/
  | succeeded {last : Result} (h : steps.foldlM (Step.follow w) r = .ok last) :
    Ends w total index status steps r
      ⟨.succeeded, ⟨total, total⟩, (steps.getLast?.map (·.label)).getD status, none⟩
      { last with outcome := ⟨.succeeded, last.outcome.message⟩ }
  /-- A step does not. -/
  | failed {before after : List Step} {s : Step} {last fault : Result}
    (hsteps : steps = before ++ s :: after)
    (hbefore : before.foldlM (Step.follow w) r = .ok last)
    (hs : Step.follow w last s = .error fault) :
    Ends w total index status steps r
      ⟨.failed, ⟨index + before.length, total⟩, s.label, some fault.outcome.message⟩ fault

namespace Ends

variable {w : World} {total index : Nat} {status : String} {steps : List Step} {r result : Result}
  {shown : Snapshot}

/-- A step that does its part comes before what the others end with. -/
theorem cons {s : Step} {next : Result} (hs : Step.follow w r s = .ok next)
    (h : Ends w total (index + 1) s.label steps next shown result) :
    Ends w total index status (s :: steps) r shown result := by
  cases h with
  | @succeeded last h =>
    have hall : (s :: steps).foldlM (Step.follow w) r = .ok last := by
      rw [List.foldlM_cons, hs]
      exact h
    have hlabel : (steps.getLast?.map (·.label)).getD s.label =
        ((s :: steps).getLast?.map (·.label)).getD status := by
      rw [List.getLast?_cons]
      cases steps.getLast? <;> rfl
    rw [hlabel]
    exact .succeeded hall
  | @failed before after s' last fault hsteps hbefore hs' =>
    have hall : (s :: before).foldlM (Step.follow w) r = .ok last := by
      rw [List.foldlM_cons, hs]
      exact hbefore
    have hlength : index + 1 + before.length = index + (s :: before).length := by
      rw [List.length_cons]
      omega
    rw [hlength]
    exact .failed (by rw [hsteps, List.cons_append]) hall hs'

/-- What a routine ends with is what the fold comes to. -/
theorem eq_fold (h : Ends w total index status steps r shown result) :
    result = match steps.foldlM (Step.follow w) r with
      | .ok last => { last with outcome := ⟨.succeeded, last.outcome.message⟩ }
      | .error fault => fault := by
  cases h with
  | succeeded h => rw [h]
  | @failed before after s last fault hsteps hbefore hs =>
    have hall : steps.foldlM (Step.follow w) r = .error result := by
      rw [hsteps, List.foldlM_append, hbefore]
      change (s :: after).foldlM (Step.follow w) last = _
      rw [List.foldlM_cons, hs]
      rfl
    rw [hall]

/-- What the activity shows agrees with the outcome. -/
theorem agrees (hsteps : ∀ s ∈ steps, s.IsBuiltIn)
    (h : Ends w total index status steps r shown result) :
    result.outcome.status ≠ .working ∧ shown.phase ≠ .inactive ∧
      (result.outcome.status = .succeeded ↔ shown.phase = .succeeded) ∧
      (result.outcome.status ≠ .succeeded ↔
        shown.phase = .failed ∧ shown.failure = some result.outcome.message) := by
  cases h with
  | succeeded => exact ⟨nofun, nofun, iff_of_true rfl rfl, iff_of_false (fun h => h rfl) nofun⟩
  | @failed before after s last fault hsplit _ hs =>
    obtain ⟨hworking, hperform⟩ := Step.follow_eq_error_iff.1 hs
    have hne : result.outcome.status ≠ .succeeded := by
      rw [← hperform]
      exact (hsteps s (by simp [hsplit])).ne_succeeded w last.account last.log
    exact ⟨hworking, nofun, iff_of_false hne nofun, iff_of_true hne ⟨rfl, rfl⟩⟩

end Ends

/-- **A routine that is not told to stop is a fold over its steps.** -/
theorem perform_ends {w : World} {total : Nat} (steps : List Step) {index : Nat} {c : Control}
    {r : Result} (hc : IsGoing c)
    (h : (perform w total index r.outcome.message steps c r.account r.log).2.log.isStopped =
      false) :
    Ends w total index c.activity.snapshot.status steps r
        (perform w total index r.outcome.message steps c r.account r.log).1.activity.snapshot
        (perform w total index r.outcome.message steps c r.account r.log).2 ∧
      (perform w total index r.outcome.message steps c r.account r.log).1.isStopped = false := by
  -- by induction on the steps left; the status shown is the label of the step before them
  induction steps generalizing index c r with
  | nil =>
    refine ⟨?_, hc.2⟩
    rw [perform, snapshot_succeed hc]
    exact .succeeded rfl
  | cons s rest ih =>
    have hl := isStopped_of_perform_cons hc h
    have hgoing := hc.announce index total s.label
    have hshown := snapshot_announce hc index total s.label
    rw [perform_cons_of_not_stopped hc hl] at h ⊢
    dsimp only at h ⊢
    split
    · rename_i ho
      rw [if_pos ho] at h
      obtain ⟨hends, hs⟩ := ih hgoing h
      rw [hshown] at hends
      exact ⟨hends.cons (Step.follow_eq_ok ho), hs⟩
    · rename_i ho
      refine ⟨?_, hgoing.2⟩
      rw [snapshot_fail hgoing, hshown]
      have hbefore : [].foldlM (Step.follow w) r = .ok r := rfl
      exact .failed (List.nil_append _).symm hbefore (Step.follow_eq_error_iff.2 ⟨ho, rfl⟩)

/-- A routine as a fold over its steps, on an account. -/
structure Folds (w : World) (steps : List Step) (a : Account) (r : Routine × Result) : Prop where
  /-- What it comes to is what the fold comes to: its first failure, or success with the message
  of the last step. -/
  eq_fold : r.2 = match steps.foldlM (Step.follow w) (.start a) with
    | .ok last => { last with outcome := ⟨.succeeded, last.outcome.message⟩ }
    | .error fault => fault
  /-- The activity shows where it ended. -/
  ends : Ends w steps.length 0 "" steps (.start a) r.1.control.activity.snapshot r.2
  /-- It never asks for a further step. -/
  ne_working : r.2.outcome.status ≠ .working
  /-- It claims success exactly if its activity shows it. -/
  succeeded_iff : r.2.outcome.status = .succeeded ↔ r.1.control.activity.phase = .succeeded
  /-- Otherwise its activity shows the failure. -/
  failed_iff : r.2.outcome.status ≠ .succeeded ↔
    r.1.control.activity.phase = .failed ∧
      r.1.control.activity.snapshot.failure = some r.2.outcome.message
  /-- Running it again, with whatever steps, is an error and changes nothing. -/
  again (others : List Step) (w' : World) (a' : Account) :
    ({ r.1 with steps := others } : Routine).run w' a' =
      ({ r.1 with steps := others },
        ⟨.hard (Error.activityStarted r.1.control.activity.name).message, a', []⟩)

/-- A routine that has started does not start again. -/
theorem run_of_started {r : Routine} (hp : r.control.activity.phase ≠ .inactive)
    (hs : r.control.isStopped = false) (w : World) (a : Account) :
    r.run w a =
      (r, ⟨.hard (Error.activityStarted r.control.activity.name).message, a, []⟩) := by
  rw [run, if_neg hp, before, if_neg (by simp [hs])]

/-- **A routine that is not told to stop is a fold over its steps**, its activity agrees with
its outcome, and it does not run again. -/
theorem run_folds (name : String) {steps : List Step} (hsteps : ∀ s ∈ steps, s.IsBuiltIn)
    (w : World) (a : Account) (h : ((new name steps).run w a).2.log.isStopped = false) :
    Folds w steps a ((new name steps).run w a) := by
  have hc : IsGoing ((new name steps).control.tell .start) := ⟨rfl, rfl⟩
  obtain ⟨hends, hs⟩ : Ends w steps.length 0 "" steps (.start a)
        ((new name steps).run w a).1.control.activity.snapshot ((new name steps).run w a).2 ∧
      ((new name steps).run w a).1.control.isStopped = false :=
    perform_ends (r := .start a) steps hc h
  generalize (new name steps).run w a = r at hends hs ⊢
  obtain ⟨hworking, hphase, hsucceeded, hfailed⟩ := hends.agrees hsteps
  exact ⟨hends.eq_fold, hends, hworking, hsucceeded, hfailed,
    fun others w' a' => run_of_started (r := { r.1 with steps := others }) hphase hs w' a'⟩

/-- Nothing but its steps tells a routine to stop. -/
theorem isStopped_perform {w : World} (total : Nat) {steps : List Step}
    (hsteps : ∀ s ∈ steps, ∀ (a : Account) (log : Log), log.isStopped = false →
      (s.perform w a log).2.log.isStopped = false)
    (index : Nat) (last : String) {c : Control} (hc : IsGoing c) (a : Account) {log : Log}
    (hl : log.isStopped = false) :
    (perform w total index last steps c a log).2.log.isStopped = false := by
  induction steps generalizing index last c a log with
  | nil => exact hl
  | cons s rest ih =>
    have hs := hsteps s (by simp) a log hl
    have hcont := perform_cons w total index last s rest hc a log
    generalize perform w total index last (s :: rest) c a log = r at hcont ⊢
    cases hcont with
    | stopped => exact hs
    | failed => exact hs
    | next _ _ hc' => exact ih (fun s h => hsteps s (by simp [h])) _ _ hc' _ hs

theorem isStopped_run (name : String) {w : World} {steps : List Step}
    (hsteps : ∀ s ∈ steps, ∀ (a : Account) (log : Log), log.isStopped = false →
      (s.perform w a log).2.log.isStopped = false) (a : Account) :
    ((new name steps).run w a).2.log.isStopped = false :=
  isStopped_perform steps.length hsteps 0 "" (c := (new name steps).control.tell .start)
    ⟨rfl, rfl⟩ a Log.isStopped_nil

end Routine

/-- Where the server answers every request, nothing tells the look-up of a profile to stop. -/
theorem Lookup.isStopped_act {w : World} (hw : ∀ sent q, ∃ p, w.server sent q = .reply p)
    (a : Account) {log : Log} (hl : log.isStopped = false) :
    (act w a log).log.isStopped = false := by
  have h := act_spec w a log
  generalize act w a log = r at h
  cases h with
  | nameless => exact hl
  | unsendable => exact hl
  | replied => simp [hl]
  | @stopped q _ _ _ _ hs hstop =>
    obtain ⟨p, hp⟩ := hw log.requests q
    cases hs with
    | unsent h => simp [hl] at h
    | answered => simp [hl] at hstop
    | stopped _ hp' => simp [hp] at hp'

/-- A world in which no profile is known to the server. -/
def World.unknowing : World :=
  { World.silent with server := fun _ q => .reply (.ofResponse q.url 404 [] []) }

/-- An account with a profile. -/
def Account.known : Account :=
  { Account.mojang "steve" with profile := .plain "1" "A" }

/-- Looking up twice a profile that is not known. -/
theorem Routine.run_folds_unknowing :
    (∀ s ∈ [Step.lookup, .lookup], s.IsBuiltIn) ∧
      ((new "lookup" [.lookup, .lookup]).run .unknowing .known).2.log.isStopped = false ∧
      Folds .unknowing [.lookup, .lookup] .known
        ((new "lookup" [.lookup, .lookup]).run .unknowing .known) := by
  have hlookup {s : Step} (h : s ∈ [Step.lookup, .lookup]) : s = .lookup := by simpa using h
  have hsteps : ∀ s ∈ [Step.lookup, .lookup], s.IsBuiltIn := by
    intro s hs
    rw [hlookup hs]
    exact .lookup false
  have hl : ((new "lookup" [.lookup, .lookup]).run .unknowing .known).2.log.isStopped = false := by
    refine isStopped_run "lookup" (fun s hs a log hlog => ?_) .known
    rw [hlookup hs]
    exact Lookup.isStopped_act (fun _ q => ⟨_, rfl⟩) a hlog
  exact ⟨hsteps, hl, run_folds "lookup" hsteps .unknowing .known hl⟩

end SignIn
