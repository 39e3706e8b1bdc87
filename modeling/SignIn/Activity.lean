import SignIn.Text.Quoted

/-!
# Activities

An activity is one piece of work that others watch.  It starts once, reports
progress and status while it runs, and ends once: by success, by failure with a
message, or aborted, which may also happen before it starts.  After its end nothing
changes any more.

Every change is an *update* that is either accepted or ignored.  Watchers are told
of each accepted update, also of one that leaves everything as it was.

## Main definitions

* `Phase`, `Snapshot` — where an activity stands, and all that a watcher sees.
* `Update` — what can be asked of an activity.
* `Snapshot.after?` — the snapshot after an accepted update.
* `Activity` — a named snapshot with the count of its accepted updates.
* `Activity.update` — asks for an update; tells whether it was accepted.
-/

namespace SignIn

open SignIn.Text

/-- Where an activity stands. -/
inductive Phase where
  /-- It has not started. -/
  | inactive
  /-- It runs. -/
  | running
  /-- It has succeeded. -/
  | succeeded
  /-- It has failed. -/
  | failed
  /-- It was given up. -/
  | aborted
  deriving DecidableEq, Repr, Inhabited

/-- Whether an activity has ended. -/
def Phase.isTerminal : Phase → Bool
  | .succeeded | .failed | .aborted => true
  | .inactive | .running => false

/-- The word that a log shows for a phase. -/
def Phase.debugText : Phase → String
  | .inactive => "Inactive"
  | .running => "Running"
  | .succeeded => "Succeeded"
  | .failed => "Failed"
  | .aborted => "Aborted"

/-- How far an activity has come. -/
structure Progress where
  /-- What is done. -/
  current : Nat
  /-- What there is to do. -/
  total : Nat
  deriving DecidableEq, Repr, Inhabited

/-- All that a watcher sees of an activity at one moment. -/
structure Snapshot where
  /-- Where it stands. -/
  phase : Phase
  /-- How far it has come. -/
  progress : Progress
  /-- What it is at. -/
  status : String
  /-- Why it failed, if it did. -/
  failure : Option String
  deriving DecidableEq, Repr, Inhabited

/-- What can be asked of an activity. -/
inductive Update where
  /-- To start. -/
  | start
  /-- To end with success. -/
  | succeed
  /-- To end with a failure. -/
  | fail (message : String)
  /-- To be given up. -/
  | abort
  /-- To show progress. -/
  | progress (current total : Nat)
  /-- To show a status. -/
  | status (text : String)
  deriving DecidableEq, Repr

namespace Snapshot

/-- An activity that has not started. -/
def initial : Snapshot := ⟨.inactive, ⟨0, 0⟩, "", none⟩

/-- The snapshot after an update, if it is accepted.  Only what has not started can
start; only what runs can end, except that it can be aborted before; only what runs
shows progress and status. -/
def after? (s : Snapshot) : Update → Option Snapshot
  | .start => if s.phase = .inactive then some { s with phase := .running } else none
  | .succeed =>
    if s.phase = .running then some { s with phase := .succeeded, failure := none } else none
  | .fail message =>
    if s.phase = .running then some { s with phase := .failed, failure := some message } else none
  | .abort =>
    if s.phase.isTerminal then none else some { s with phase := .aborted, failure := none }
  | .progress current total =>
    if s.phase = .running then some { s with progress := ⟨current, total⟩ } else none
  | .status text => if s.phase = .running then some { s with status := text } else none

/-- Nothing is accepted after the end. -/
theorem after?_eq_none {s : Snapshot} (h : s.phase.isTerminal = true) (u : Update) :
    s.after? u = none := by
  obtain ⟨phase, _, _, _⟩ := s
  cases phase <;> cases u <;> simp_all [after?, Phase.isTerminal]

end Snapshot

/-- A named piece of work. -/
structure Activity where
  /-- Its name. -/
  name : String
  /-- All that a watcher sees. -/
  snapshot : Snapshot
  /-- How many updates were accepted. -/
  version : Nat
  deriving DecidableEq, Repr

namespace Activity

/-- A piece of work that has not started. -/
def new (name : String) : Activity := ⟨name, .initial, 0⟩

/-- Where it stands. -/
def phase (a : Activity) : Phase := a.snapshot.phase

/-- Asks for an update; tells whether it was accepted. -/
def update (a : Activity) (u : Update) : Activity × Bool :=
  match a.snapshot.after? u with
  | some s => ({ a with snapshot := s, version := a.version + 1 }, true)
  | none => (a, false)

/-- Asks for an update, whatever comes of it. -/
def tell (a : Activity) (u : Update) : Activity := (a.update u).1

/-- The text that a log shows for an activity. -/
def debugText (a : Activity) : String :=
  "AsyncTask \x7b name: " ++ quote a.name ++ ", state: " ++ a.phase.debugText ++ " \x7d"

/-- The last snapshot, once the activity has ended. -/
def final? (a : Activity) : Option Snapshot :=
  if a.phase.isTerminal then some a.snapshot else none

/-- The name never changes. -/
@[simp] theorem name_tell (a : Activity) (u : Update) : (a.tell u).name = a.name := by
  unfold tell update
  split <;> rfl

/-- Showing progress does not change where it stands. -/
@[simp] theorem phase_tell_progress (a : Activity) (current total : Nat) :
    (a.tell (.progress current total)).phase = a.phase := by
  by_cases h : a.snapshot.phase = .running <;> simp [tell, update, phase, Snapshot.after?, h]

/-- Showing a status does not change where it stands. -/
@[simp] theorem phase_tell_status (a : Activity) (text : String) :
    (a.tell (.status text)).phase = a.phase := by
  by_cases h : a.snapshot.phase = .running <;> simp [tell, update, phase, Snapshot.after?, h]

/-- What has not ended can be aborted. -/
theorem phase_tell_abort {a : Activity} (h : a.phase.isTerminal = false) :
    (a.tell .abort).phase = .aborted := by
  have h' : a.snapshot.phase.isTerminal = false := h
  simp [tell, update, phase, Snapshot.after?, h']

/-- After the end every update is ignored. -/
theorem update_of_isTerminal {a : Activity} (h : a.phase.isTerminal = true) (u : Update) :
    a.update u = (a, false) := by
  simp [update, Snapshot.after?_eq_none h u]

end Activity

/-- What a watcher has seen of an activity: the count of updates at its last look. -/
structure Watch where
  /-- The count of updates at the last look. -/
  seen : Nat
  deriving DecidableEq, Repr

namespace Watch

/-- Starts watching; what happened before does not count. -/
def start (a : Activity) : Watch := ⟨a.version⟩

/-- Whether an update was accepted since the last look. -/
def isPending (w : Watch) (a : Activity) : Bool := w.seen != a.version

end Watch

end SignIn
