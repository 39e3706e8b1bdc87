import SignIn.Error
import SignIn.Step.Authentication
import SignIn.Step.Lookup

/-!
# Routines

A routine performs steps one after the other on one account, as long as each of them
does its part.  It runs once, under an activity that shows which step it is at, and it
looks before and after every step whether it is told to stop.

## Main definitions

* `Routine` — steps under an activity.
* `Routine.run` — performs them.
* `Routine.login`, `Routine.renewal` — authenticating and then looking the profile up.
-/

namespace SignIn

/-- Steps under an activity. -/
structure Routine where
  /-- The activity, and whether it is told to stop. -/
  control : Control
  /-- The steps, in order. -/
  steps : List Step

namespace Routine

/-- A routine that has not started. -/
def new (name : String) (steps : List Step) : Routine := ⟨.new name, steps⟩

/-- Shows that a step begins. -/
def announce (c : Control) (index total : Nat) (label : String) : Control :=
  (c.tell (.progress index total)).tell (.status label)

/-- Lets the word to stop that a log holds reach the activity. -/
def hear (c : Control) (route : Route) (log : Log) : Control :=
  if log.isStopped ∧ ¬ c.isStopped then c.stop route else c

/-- Performs the steps from the one with a number on; `last` is the message of the step
before it. -/
def perform (w : World) (total : Nat) :
    Nat → String → List Step → Control → Account → Log → Control × Result
  | _, last, [], c, a, log =>
    ((c.tell (.progress total total)).tell .succeed, ⟨⟨.succeeded, last⟩, a, log⟩)
  | index, _, s :: rest, c, a, log =>
    if c.isStopped then (c.tell .abort, ⟨.aborted, a, log⟩)
    else
      let r := (s.perform w a log).2
      let c := hear (announce c index total s.label) w.route r.log
      if c.isStopped then (c.tell .abort, { r with outcome := .aborted })
      else if r.outcome.status = .working then
        perform w total (index + 1) r.outcome.message rest c r.account r.log
      else (c.tell (.fail r.outcome.message), r)

/-- What happened before a run, as far as its log shows it. -/
def before (r : Routine) (a : Account) : Log := if r.control.isStopped then [.stopped a] else []

/-- Performs the steps, which is possible once. -/
def run (r : Routine) (w : World) (a : Account) : Routine × Result :=
  if r.control.activity.phase = .inactive then
    let (c, result) :=
      perform w r.steps.length 0 "" r.steps (r.control.tell .start) a (r.before a)
    ({ r with control := c }, result)
  else
    (r, ⟨.hard (Error.activityStarted r.control.activity.name).message, a, r.before a⟩)

/-! ### Ready-made routines -/

/-- The steps that authenticate an account and then look its profile up. -/
def stepsFor (auth : Authentication) : List Step :=
  [.authentication auth.withOfflineDetection, .lookup]

/-- Logs an account in with a password. -/
def login (password : String) : Routine := new "login" (stepsFor (.login password))

/-- Renews the token of an account. -/
def renewal : Routine := new "refresh" (stepsFor .renewal)

end Routine

end SignIn
