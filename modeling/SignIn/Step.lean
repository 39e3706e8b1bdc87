import SignIn.Attempt

/-!
# Steps

An attempt is made of steps.  A step acts once on an account; asked again, it does
nothing but fail.

## Main definitions

* `Step` — a step with its label.
* `Step.perform` — acts, once.
-/

namespace SignIn

/-- A step of an attempt. -/
structure Step where
  /-- What is shown while it acts. -/
  label : String
  /-- What it does. -/
  act : World → Account → Log → Result
  /-- Whether it has acted. -/
  isDone : Bool

namespace Step

/-- A step that has not acted. -/
def new (label : String) (act : World → Account → Log → Result) : Step := ⟨label, act, false⟩

/-- Acts, unless the step has acted before. -/
def perform (s : Step) (w : World) (a : Account) (log : Log) : Step × Result :=
  if s.isDone then (s, ⟨.hard "This authentication step already finished.", a, log⟩)
  else ({ s with isDone := true }, s.act w a log)

end Step

end SignIn
