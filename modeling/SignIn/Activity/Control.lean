import SignIn.Activity

/-!
# Activities under control

Work carries on until it is told to stop, and looks at certain moments whether it
was.  Two ways lead there.  The activity itself can be cancelled, which aborts it on
the spot; or a token that it depends on is cancelled, and the activity goes on until
the work looks.

## Main definitions

* `Control` — an activity, and whether its work is told to stop.
* `Control.cancel` — cancels the activity itself.
* `Route`, `Control.stop` — the two ways of being told to stop.
-/

namespace SignIn

/-- How work is told to stop. -/
inductive Route where
  /-- Its activity is cancelled. -/
  | activity
  /-- A token that it depends on is cancelled. -/
  | token
  deriving DecidableEq, Repr

/-- An activity, and whether its work is told to stop. -/
structure Control where
  /-- What watchers see. -/
  activity : Activity
  /-- Whether the work is told to stop. -/
  isStopped : Bool
  deriving DecidableEq, Repr

namespace Control

/-- Work that has not started. -/
def new (name : String) : Control := ⟨.new name, false⟩

/-- Asks the activity for an update. -/
def tell (c : Control) (u : Update) : Control := { c with activity := c.activity.tell u }

/-- Cancels the activity, unless it has ended; tells whether it was aborted by that. -/
def cancel (c : Control) : Control × Bool :=
  if c.activity.phase.isTerminal then (c, false)
  else
    let (activity, accepted) := c.activity.update .abort
    (⟨activity, true⟩, accepted)

/-- Tells the work to stop. -/
def stop (c : Control) : Route → Control
  | .activity => c.cancel.1
  | .token => { c with isStopped := true }

@[simp] theorem isStopped_tell (c : Control) (u : Update) :
    (c.tell u).isStopped = c.isStopped := rfl

@[simp] theorem activity_tell (c : Control) (u : Update) :
    (c.tell u).activity = c.activity.tell u := rfl

/-- What watchers see after an update that is accepted. -/
theorem snapshot_tell {c : Control} {u : Update} {s : Snapshot}
    (h : c.activity.snapshot.after? u = some s) : (c.tell u).activity.snapshot = s := by
  simp [Activity.tell, Activity.update, h]

/-- Progress is shown while the activity runs. -/
theorem snapshot_tell_progress (c : Control) (current total : Nat) :
    (c.tell (.progress current total)).activity.snapshot =
      if c.activity.phase = .running then
        { c.activity.snapshot with progress := ⟨current, total⟩ }
      else c.activity.snapshot := by
  by_cases h : c.activity.snapshot.phase = .running <;>
    simp [Activity.tell, Activity.update, Activity.phase, Snapshot.after?, h]

/-- Being told to stop shows no progress. -/
theorem progress_stop (c : Control) (route : Route) :
    (c.stop route).activity.snapshot.progress = c.activity.snapshot.progress := by
  cases route with
  | token => rfl
  | activity =>
    by_cases h : c.activity.snapshot.phase.isTerminal = true <;>
      simp [stop, cancel, Activity.update, Activity.phase, Snapshot.after?, h]

/-- Being told to stop starts nothing. -/
theorem phase_of_stop {c : Control} {route : Route}
    (h : (c.stop route).activity.phase = .running) : c.activity.phase = .running := by
  cases route with
  | token => exact h
  | activity =>
    by_cases ht : c.activity.snapshot.phase.isTerminal = true <;>
      simp_all [stop, cancel, Activity.update, Activity.phase, Snapshot.after?]

/-- Work that was told to stop and gives up ends aborted, either way. -/
theorem phase_stop_abort {c : Control} (h : c.activity.phase.isTerminal = false) (route : Route) :
    ((c.stop route).tell .abort).activity.phase = .aborted := by
  have ha := Activity.phase_tell_abort h
  cases route with
  | token => exact ha
  | activity =>
    have hc : (c.stop .activity).activity = c.activity.tell .abort := by
      simp [stop, cancel, h, Activity.tell]
    rw [activity_tell, hc, Activity.tell,
      Activity.update_of_isTerminal (by rw [ha]; rfl), ha]

/-- Work that has not ended hears it either way. -/
theorem isStopped_stop {c : Control} (h : c.activity.phase.isTerminal = false) (route : Route) :
    (c.stop route).isStopped = true := by
  cases route <;> simp [stop, cancel, h]

/-- Who is told to stop stays so. -/
theorem isStopped_stop_of_isStopped {c : Control} (h : c.isStopped = true) (route : Route) :
    (c.stop route).isStopped = true := by
  cases hend : c.activity.phase.isTerminal with
  | false => exact isStopped_stop hend route
  | true => cases route <;> simp [stop, cancel, hend, h]

end Control

end SignIn
