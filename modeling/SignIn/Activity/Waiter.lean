import SignIn.Activity

/-!
# Waiting for the end of an activity

Who waits for the end of an activity watches it.  A waiter looks at once; if the activity has
not ended yet, it sleeps until there is a notification, looks again, and so on.  It takes the
snapshot at which it finds the end, and looks no more.

## Main definitions

* `Waiter` — asleep, or done with the last snapshot.
* `Waiter.start`, `Waiter.turn` — begins to wait, and goes on when it is notified.
-/

namespace SignIn

/-- Someone who waits for the end of an activity. -/
inductive Waiter where
  /-- Sleeps until there is a notification. -/
  | asleep (watch : Watch)
  /-- Has found the end. -/
  | done (final : Snapshot)
  deriving DecidableEq, Repr

namespace Waiter

/-- Begins to wait: watches from now on, and looks whether the end has come. -/
def start (a : Activity) : Waiter :=
  match a.final? with
  | some final => .done final
  | none => .asleep (.start a)

/-- Goes on: a notification wakes it, and it looks again. -/
def turn (a : Activity) : Waiter → Waiter
  | .asleep watch => if watch.isPending a then start a else .asleep watch
  | .done final => .done final

/-- The snapshot that was waited for, once it is there. -/
def final? : Waiter → Option Snapshot
  | .asleep _ => none
  | .done final => some final

end Waiter

end SignIn
