import SignIn.Activity.Control
import SignIn.Error
import SignIn.Server

/-!
# Batches of requests

A batch sends several requests under one activity.  A request that fails in a way
that may pass is sent again at once, up to a limit, and beyond the limit somebody may
be asked whether to go on.  The batch ends with one reply per request, in the order
in which the requests were added.

## Main definitions

* `RetryPolicy` — when a request is sent again.
* `Batch`, `Batch.add` — requests that wait to be sent.
* `Batch.Event` — what happens in a run.
* `Batch.Report` — what came of a run.
-/

namespace SignIn

/-- When a request that failed is sent again. -/
structure RetryPolicy where
  /-- Whether somebody is asked before the batch gives up on a request. -/
  asks : Bool
  /-- How often a request is sent again without asking. -/
  limit : Nat
  deriving DecidableEq, Repr

/-- No request is sent again. -/
def RetryPolicy.disabled : RetryPolicy := ⟨false, 0⟩

namespace Batch

/-- What happens in a run. -/
inductive Event where
  /-- A request is sent. -/
  | sent (request : Request)
  /-- Somebody is asked whether to go on after a failure. -/
  | asked (failure : Failure)
  /-- The batch is told to stop. -/
  | stopped
  deriving DecidableEq, Repr

/-- The requests that were sent, in order. -/
def sentIn (log : List Event) : List Request :=
  log.filterMap fun
    | .sent r => some r
    | _ => none

/-- The failures after which somebody was asked, in order. -/
def askedIn (log : List Event) : List Failure :=
  log.filterMap fun
    | .asked f => some f
    | _ => none

/-- The request that a batch failed at. -/
structure Fault where
  /-- Its place among the requests. -/
  index : Nat
  /-- The status of its reply, if there is one. -/
  status : Option Nat
  /-- The message of its failure. -/
  message : String
  deriving DecidableEq, Repr

/-- What came of a run. -/
structure Report where
  /-- Where the activity stands. -/
  phase : Phase
  /-- One reply per request, in the order of the requests. -/
  replies : List Reply
  /-- The first of the replies that is a failure. -/
  fault : Option Fault
  deriving DecidableEq, Repr

/-- Whether every request succeeded. -/
def Report.isSuccess (r : Report) : Bool := r.phase == .succeeded

/-- The first reply that is a failure, with its place. -/
def fault? (replies : List Reply) : Option Fault :=
  replies.zipIdx.findSome? fun (r, i) => r.failure.map fun f => ⟨i, r.status, f.message⟩

end Batch

/-- Requests under one activity. -/
structure Batch where
  /-- The activity, and whether it is told to stop. -/
  control : Control
  /-- The requests in the order in which they were added. -/
  requests : List Request
  /-- When a request is sent again. -/
  policy : RetryPolicy
  /-- What happened when it ran, in order. -/
  log : List Batch.Event
  deriving DecidableEq, Repr

namespace Batch

/-- A batch without requests. -/
def new (name : String) : Batch := ⟨.new name, [], .disabled, []⟩

/-- A batch without requests below a token, which may have been cancelled already. -/
def below (name : String) (isCancelled : Bool) : Batch :=
  { new name with control := ⟨.new name, isCancelled⟩ }

/-- Adds a request at the end, which is possible until the batch has started. -/
def add (b : Batch) (r : Request) : Except Error Batch :=
  if b.control.activity.phase = .inactive then .ok { b with requests := b.requests ++ [r] }
  else .error (.batchStarted b.control.activity.name)

/-- Cancels the batch; tells whether it was aborted by that. -/
def cancel (b : Batch) : Batch × Bool :=
  let (control, accepted) := b.control.cancel
  ({ b with control := control }, accepted)

end Batch

end SignIn
