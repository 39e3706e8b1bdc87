/-!
# Outcomes

Every step of an authentication, and the whole of it, ends with a status and a
message for the user.

## Main definitions

* `Status` — what an outcome says.
* `Outcome` — a status with its message.
* `Outcome.aborted` — the outcome of anything that was cancelled.
-/

namespace SignIn

/-- What an outcome says. -/
inductive Status where
  /-- The step did its part and the next one may start. -/
  | working
  /-- All steps did their part. -/
  | succeeded
  /-- A failure that may pass; trying again later may help. -/
  | failedSoft
  /-- A failure that trying again unchanged will not mend. -/
  | failedHard
  /-- The account no longer exists. -/
  | failedGone
  /-- The service could not be reached at all. -/
  | offline
  deriving DecidableEq, Repr, Inhabited

/-- Whether nothing further can come of the attempt. -/
def Status.isFailure : Status → Bool
  | .working | .succeeded => false
  | _ => true

theorem Status.isFailure_iff {s : Status} :
    s.isFailure = true ↔ s ≠ .working ∧ s ≠ .succeeded := by
  cases s <;> simp [isFailure]

/-- A status with its message. -/
structure Outcome where
  /-- What the outcome says. -/
  status : Status
  /-- The message for the user. -/
  message : String
  deriving DecidableEq, Repr, Inhabited

namespace Outcome

/-- The step did its part. -/
def working (message : String) : Outcome := ⟨.working, message⟩

/-- A failure that may pass. -/
def soft (message : String) : Outcome := ⟨.failedSoft, message⟩

/-- A failure that stays. -/
def hard (message : String) : Outcome := ⟨.failedHard, message⟩

/-- The account no longer exists. -/
def gone (message : String) : Outcome := ⟨.failedGone, message⟩

/-- The service could not be reached. -/
def offline (message : String) : Outcome := ⟨.offline, message⟩

/-- The attempt was cancelled. -/
def aborted : Outcome := soft "Authentication aborted."

end Outcome

end SignIn
