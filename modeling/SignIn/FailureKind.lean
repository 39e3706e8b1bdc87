/-!
# Why a request did not succeed

A failure either kept a request from being answered, or is the answer: a status
outside the successful ones.

## Main definitions

* `FailureKind` — the kinds of failure.
* `FailureKind.ofStatus?` — the kind that a status stands for.
* `FailureKind.isApplication`, `FailureKind.isTransient` — the two classes that
  callers tell apart.
-/

namespace SignIn

/-- Why a request did not succeed. -/
inductive FailureKind where
  /-- No answer in time. -/
  | timeout
  /-- Given up on request. -/
  | cancelled
  /-- No secure connection. -/
  | tlsHandshake
  /-- No connection. -/
  | connectionRefused
  /-- No such host. -/
  | hostNotFound
  /-- Any other failure on the way. -/
  | transport
  /-- Status 400. -/
  | badRequest
  /-- Status 401. -/
  | authenticationRequired
  /-- Status 403. -/
  | accessDenied
  /-- Status 404. -/
  | notFound
  /-- Status 405. -/
  | operationNotPermitted
  /-- Status 410. -/
  | gone
  /-- Any other status from 402 to 499. -/
  | clientError
  /-- Status 500. -/
  | internalServerError
  /-- Status 501. -/
  | operationNotImplemented
  /-- Status 503. -/
  | serviceUnavailable
  /-- Any other status from 502 to 599. -/
  | serverError
  /-- Any status that is none of these and no success. -/
  | unexpectedStatus
  deriving DecidableEq, Repr, Inhabited

namespace FailureKind

/-- The failure that a status outside the successful ones stands for. -/
def ofBadStatus (status : Nat) : FailureKind :=
  if status < 400 ∨ 600 ≤ status then .unexpectedStatus
  else if status < 500 then
    match status with
    | 400 => .badRequest
    | 401 => .authenticationRequired
    | 403 => .accessDenied
    | 404 => .notFound
    | 405 => .operationNotPermitted
    | 410 => .gone
    | _ => .clientError
  else
    match status with
    | 500 => .internalServerError
    | 501 => .operationNotImplemented
    | 503 => .serviceUnavailable
    | _ => .serverError

/-- The failure that a status stands for; a success stands for none. -/
def ofStatus? (status : Nat) : Option FailureKind :=
  if 200 ≤ status ∧ status ≤ 299 then none else some (ofBadStatus status)

/-- Whether the server answered and the answer was an error, as opposed to the
request never completing. -/
def isApplication : FailureKind → Bool
  | .timeout | .cancelled | .tlsHandshake | .connectionRefused | .hostNotFound | .transport => false
  | _ => true

/-- Whether sending the same request again may help. -/
def isTransient : FailureKind → Bool
  | .timeout | .connectionRefused | .hostNotFound | .transport | .serviceUnavailable => true
  | _ => false

/-- The statuses from 200 to 299 and no others are successes. -/
theorem ofStatus?_eq_none_iff {status : Nat} :
    ofStatus? status = none ↔ 200 ≤ status ∧ status ≤ 299 := by
  by_cases h : 200 ≤ status ∧ status ≤ 299 <;> simp [ofStatus?, h]

end FailureKind

end SignIn
