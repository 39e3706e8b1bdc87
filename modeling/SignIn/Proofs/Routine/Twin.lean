import SignIn.Proofs.Authentication.Twin
import SignIn.Proofs.Routine.Perform

/-!
# Two runs side by side

A routine sees nothing of its steps but how they end.  So two routines whose steps come to the
same come to the same, and show the same meanwhile.

## Main definitions

* `Routine.Twins` — two runs that come to the same.
* `Flow.start` — a ready-made routine as it starts.

## Main results

* `Routine.perform_cons_alike` — two steps that come to the same, followed by others.
* `Flow.run_alike` — two ready-made routines.
-/

namespace SignIn

open SignIn.Authentication SignIn.Time

variable {l : Likeness} {w : World} (clock : List Request → Instant) (random : BitVec 128)

namespace Routine

/-- Two runs come to the same. -/
structure Twins (l : Likeness) (r r' : Control × Result) : Prop where
  /-- Their activities show the same, and are told to stop alike. -/
  control : r'.1 = r.1
  /-- So do the results. -/
  result : r.2.Alike l r'.2

/-- A routine that may go on takes its next step and then looks whether to stop. -/
theorem perform_cons_of_isGoing {w : World} {s : Step} {c : Control} (hc : IsGoing c)
    (total index : Nat) (last : String) (rest : List Step) (a : Account) (log : Log) :
    perform w total index last (s :: rest) c a log =
      let r := (s.perform w a log).2
      let c := hear (announce c index total s.label) w.route r.log
      if c.isStopped then (c.tell .abort, { r with outcome := .aborted })
      else if r.outcome.status = .working then
        perform w total (index + 1) r.outcome.message rest c r.account r.log
      else (c.tell (.fail r.outcome.message), r) := by
  rw [perform, if_neg (by simp [hc.2])]

/-- **Two routines come to the same** if their first steps do, and the others do from there. -/
theorem perform_cons_alike (s s' : Step) {c : Control} (hc : IsGoing c)
    (hlabel : s'.label = s.label) {a a' : Account} {log log' : Log}
    (h : (s.perform w a log).2.Alike l (s'.perform (w.anew clock random) a' log').2)
    (total index : Nat) (last : String) (rest rest' : List Step)
    (hrest : (s.perform w a log).2.outcome.status = .working → ∀ c last, IsGoing c →
      Twins l
        (perform w total (index + 1) last rest c (s.perform w a log).2.account
          (s.perform w a log).2.log)
        (perform (w.anew clock random) total (index + 1) last rest' c
          (s'.perform (w.anew clock random) a' log').2.account
          (s'.perform (w.anew clock random) a' log').2.log)) :
    Twins l (perform w total index last (s :: rest) c a log)
      (perform (w.anew clock random) total index last (s' :: rest') c a' log') := by
  have hhear : hear (announce c index total s.label) w.route
        (s'.perform (w.anew clock random) a' log').2.log =
      hear (announce c index total s.label) w.route (s.perform w a log).2.log := by
    rw [hear, hear, h.log.isStopped]
  have hroute : (w.anew clock random).route = w.route := rfl
  have ha := hc.announce index total s.label
  rw [perform_cons_of_isGoing hc, perform_cons_of_isGoing hc]
  dsimp only
  rw [hlabel, hroute, hhear, h.outcome]
  cases hs : (s.perform w a log).2.log.isStopped with
  | true =>
    rw [hear_of_stopped ha.2 hs, if_pos (Control.isStopped_stop ha.isTerminal_eq w.route),
      if_pos (Control.isStopped_stop ha.isTerminal_eq w.route)]
    exact ⟨rfl, rfl, h.account, h.log⟩
  | false =>
    have hgoes : ¬ (announce c index total s.label).isStopped = true := by simp [ha.2]
    rw [hear_of_not_stopped _ hs, if_neg hgoes, if_neg hgoes]
    split
    · rename_i ho
      exact hrest ho _ _ ha
    · exact ⟨rfl, h⟩

end Routine

namespace Flow

/-- A ready-made routine as it starts. -/
def start (f : Flow) : Control := f.routine.control.tell .start

theorem isGoing_start (f : Flow) : Routine.IsGoing f.start := by
  cases f with
  | login password => exact ⟨rfl, rfl⟩
  | renewal => exact ⟨rfl, rfl⟩

/-- A run is two steps from there. -/
theorem run_eq_perform (f : Flow) (w : World) (a : Account) :
    (f.routine.run w a).1.control =
        (Routine.perform w 2 0 "" [.authentication f.authentication, .lookup] f.start a []).1 ∧
      (f.routine.run w a).2 =
        (Routine.perform w 2 0 "" [.authentication f.authentication, .lookup] f.start a []).2 := by
  cases f with
  | login password => exact ⟨rfl, rfl⟩
  | renewal => exact ⟨rfl, rfl⟩

/-- **Two ready-made routines come to the same**, if the accounts agree on the tokens of the first
reply. -/
theorem run_alike (f f' : Flow) (hstart : f'.start = f.start)
    (hk : SameKind f.authentication f'.authentication)
    (hl : l.Fits w.settings f.authentication f'.authentication) (hw : w.server.IsScripted)
    (a a' : Account) (hnil : l.requests [] [])
    (ha : l.accounts (accountFor w a f.authentication.firstKind)
      (accountFor (w.anew clock random) a' f.authentication.firstKind))
    (hfault : ∀ q p g, f.authentication.request w.settings
        (accountFor w a f.authentication.firstKind) f.authentication.firstKind = .ok q →
      w.server [] q = .reply p → Grant.parse p.body = .ok g →
      tokenFault? (accountFor (w.anew clock random) a' f.authentication.firstKind) g =
        tokenFault? (accountFor w a f.authentication.firstKind) g) :
    (f'.routine.run (w.anew clock random) a').1.control = (f.routine.run w a).1.control ∧
      (f.routine.run w a).2.Alike l (f'.routine.run (w.anew clock random) a').2 := by
  obtain ⟨hcontrol, hresult⟩ := f.run_eq_perform w a
  obtain ⟨hcontrol', hresult'⟩ := f'.run_eq_perform (w.anew clock random) a'
  obtain ⟨hact, hagrees⟩ := Authentication.act_alike clock random hl hw hk hnil ha hfault
  have htwins := Routine.perform_cons_alike clock random (.authentication f.authentication)
    (.authentication f'.authentication) f.isGoing_start hk.label hact 2 0 "" [.lookup]
    [.lookup] fun ho c last hc => ?_
  · rw [hcontrol, hcontrol', hresult, hresult', hstart]
    exact ⟨htwins.control, htwins.result⟩
  · -- the step has asked for something, and both accounts have the profile that was granted
    have hne := (act_spec f.authentication w a []).requests_ne_nil ho
    have hlook := Lookup.act_alike clock random hl hw hact.account (hagrees ho).id hact.log hne
    refine Routine.perform_cons_alike clock random .lookup .lookup hc rfl hlook 2 1
      last [] [] fun _ c last hc => ?_
    rw [Routine.perform, Routine.perform]
    exact ⟨rfl, rfl, hlook.account, hlook.log⟩

end Flow

end SignIn
