import SignIn.Account
import SignIn.Batch.Run
import SignIn.Menu
import SignIn.Outcome

/-!
# Attempts

An attempt to authenticate acts on the world in two ways: it sends requests, each in a
batch of its own, and it offers menus.  At any of these moments it may be told to stop,
and the batch under way is told along with it.  A log keeps what happened, in order.

Being told to stop does not end an attempt by itself: the attempt has to look whether it
was, whatever reply or pick it got.

The world is all that an attempt depends on beside the account: what servers and the
user do, the settings, the time, and chance.

## Main definitions

* `World` — what an attempt depends on.
* `Log` — what happened in an attempt.
* `World.send`, `World.offer` — acting on the world.
* `Result` — what an attempt ends with.
-/

namespace SignIn

open SignIn.Time

/-- What an attempt depends on. -/
structure World where
  /-- The settings. -/
  settings : Settings
  /-- What the servers do. -/
  server : Server
  /-- What the user does. -/
  picker : Picker
  /-- The time after some requests. -/
  clock : List Request → Instant
  /-- The bits for a fresh token. -/
  random : BitVec 128
  /-- How the attempt is told to stop. -/
  route : Route

/-- What happens in an attempt. -/
inductive Log.Event where
  /-- A request is sent. -/
  | sent (request : Request)
  /-- The batch of a request ends with a reply, while the account stands as given. -/
  | answered (request : Request) (reply : Reply) (account : Account)
  /-- A menu is offered. -/
  | offered (menu : Menu)
  /-- The attempt is told to stop, while the account stands as given. -/
  | stopped (account : Account)
  deriving DecidableEq, Repr

/-- What happened in an attempt, in order. -/
abbrev Log := List Log.Event

namespace Log

/-- The requests that were sent, in order. -/
def requests (log : Log) : List Request :=
  log.filterMap fun
    | .sent r => some r
    | _ => none

/-- The requests whose batches have ended, each with its reply, in order. -/
def exchanges (log : Log) : List (Request × Reply) :=
  log.filterMap fun
    | .answered r p _ => some (r, p)
    | _ => none

/-- The menus that were offered, in order. -/
def menus (log : Log) : List Menu :=
  log.filterMap fun
    | .offered m => some m
    | _ => none

/-- Whether the attempt was told to stop. -/
def isStopped (log : Log) : Bool :=
  log.any fun
    | .stopped _ => true
    | _ => false

/-- What an attempt sees of a batch that works for it, while the account stands as
given. -/
def ofBatch (a : Account) (events : List Batch.Event) : Log :=
  events.filterMap fun
    | .sent r => some (.sent r)
    | .asked _ => none
    | .stopped => some (.stopped a)

/-! ### Reading a log piece by piece -/

@[simp] theorem requests_nil : requests [] = [] := rfl

@[simp] theorem requests_sent (r : Request) (log : Log) :
    requests (.sent r :: log) = r :: requests log := rfl

@[simp] theorem requests_answered (r : Request) (p : Reply) (a : Account) (log : Log) :
    requests (.answered r p a :: log) = requests log := rfl

@[simp] theorem requests_offered (m : Menu) (log : Log) :
    requests (.offered m :: log) = requests log := rfl

@[simp] theorem requests_stopped (a : Account) (log : Log) :
    requests (.stopped a :: log) = requests log := rfl

@[simp] theorem requests_append (log more : Log) :
    requests (log ++ more) = requests log ++ requests more := by
  simp [requests]

@[simp] theorem exchanges_nil : exchanges [] = [] := rfl

@[simp] theorem exchanges_sent (r : Request) (log : Log) :
    exchanges (.sent r :: log) = exchanges log := rfl

@[simp] theorem exchanges_answered (r : Request) (p : Reply) (a : Account) (log : Log) :
    exchanges (.answered r p a :: log) = (r, p) :: exchanges log := rfl

@[simp] theorem exchanges_offered (m : Menu) (log : Log) :
    exchanges (.offered m :: log) = exchanges log := rfl

@[simp] theorem exchanges_stopped (a : Account) (log : Log) :
    exchanges (.stopped a :: log) = exchanges log := rfl

@[simp] theorem exchanges_append (log more : Log) :
    exchanges (log ++ more) = exchanges log ++ exchanges more := by
  simp [exchanges]

@[simp] theorem menus_nil : menus [] = [] := rfl

@[simp] theorem menus_sent (r : Request) (log : Log) : menus (.sent r :: log) = menus log := rfl

@[simp] theorem menus_answered (r : Request) (p : Reply) (a : Account) (log : Log) :
    menus (.answered r p a :: log) = menus log := rfl

@[simp] theorem menus_offered (m : Menu) (log : Log) :
    menus (.offered m :: log) = m :: menus log := rfl

@[simp] theorem menus_stopped (a : Account) (log : Log) :
    menus (.stopped a :: log) = menus log := rfl

@[simp] theorem menus_append (log more : Log) : menus (log ++ more) = menus log ++ menus more := by
  simp [menus]

@[simp] theorem isStopped_nil : isStopped [] = false := rfl

@[simp] theorem isStopped_sent (r : Request) (log : Log) :
    isStopped (.sent r :: log) = isStopped log := rfl

@[simp] theorem isStopped_answered (r : Request) (p : Reply) (a : Account) (log : Log) :
    isStopped (.answered r p a :: log) = isStopped log := rfl

@[simp] theorem isStopped_offered (m : Menu) (log : Log) :
    isStopped (.offered m :: log) = isStopped log := rfl

@[simp] theorem isStopped_stopped (a : Account) (log : Log) :
    isStopped (.stopped a :: log) = true := rfl

@[simp] theorem isStopped_append (log more : Log) :
    isStopped (log ++ more) = (isStopped log || isStopped more) := by
  simp [isStopped]

end Log

namespace World

/-- The batch that sends one request, once.  It starts told to stop if the attempt was. -/
def batchFor (name : String) (log : Log) (r : Request) : Except Error Batch :=
  ({ Batch.below name log.isStopped with policy := .disabled }).add r

/-- Sends a request and waits until its batch ends; the reply is the one that the batch
reports. -/
def send (w : World) (name : String) (a : Account) (log : Log) (r : Request) :
    Log × Except Error Reply :=
  match (batchFor name log r).bind fun b =>
      b.run (fun sent => w.server (log.requests ++ sent)) .token none with
  | .error e => (log, .error e)
  | .ok (report, b) =>
    let log := log ++ Log.ofBatch a b.log
    match report.replies with
    | [] => (log, .error (.other "network job returned no reply"))
    | p :: _ => (log ++ [.answered r p a], .ok p)

/-- Offers a menu and waits for the pick. -/
def offer (w : World) (a : Account) (log : Log) (m : Menu) : Log × Option String :=
  match w.picker log.menus m with
  | .chosen name => (log ++ [.offered m], name)
  | .stopped name => (log ++ [.offered m, .stopped a], name)

end World

/-- What an attempt, or a part of one, ends with. -/
structure Result where
  /-- The outcome. -/
  outcome : Outcome
  /-- The account afterwards. -/
  account : Account
  /-- What happened so far. -/
  log : Log
  deriving DecidableEq, Repr

end SignIn
