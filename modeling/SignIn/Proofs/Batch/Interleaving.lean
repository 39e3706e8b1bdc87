import Mathlib.Data.List.Induction
import SignIn.Batch.Run

/-!
# Runs of a batch in any order

The requests of a batch are under way all at once.  Their replies arrive in any order, answers to
questions come at any time, and so does the word to stop.  What may happen is told here move by
move, each move about one request, so that a run is any sequence of moves that the requests allow.

The batch looks whether it is told to stop when it starts and whenever a request is finished.
Once it has noticed, nothing happens to the requests any more.  It may also notice at any other
moment; so its run can end as soon as it is told to stop, and has to end when all requests are
finished.

## Main definitions

* `Stage`, `Stage.after?` — where one request stands, and what can happen to it.
* `Move`, `Scene`, `Scene.after?` — what can happen in a run, and where the run stands.
* `Batch.scene?` — where a run stands after some moves.
* `Batch.Runs`, `Batch.ended` — whole runs, and what they end with.
* `lastReceived` — the last reply that arrived for a request.

## Main results

* `Scene.after?_act` — what a move of a request does.
* `Batch.scene?_concat` — a run goes on move by move.
* `Batch.scene?_induction` — what every move keeps holds at every moment of a run.
-/

namespace SignIn

namespace Batch

/-! ### One request -/

/-- Where a request stands. -/
inductive Stage where
  /-- It can be sent, and as often again as given. -/
  | ready (retries : Nat)
  /-- It was sent, and can be sent as often again as given. -/
  | underWay (retries : Nat)
  /-- Somebody is asked whether to go on after a reply. -/
  | asking (reply : Reply)
  /-- It is finished with a reply. -/
  | finished (reply : Reply)
  deriving DecidableEq, Repr

/-- What can happen to a request. -/
inductive Act where
  /-- It is sent. -/
  | send
  /-- Its reply arrives. -/
  | receive (reply : Reply)
  /-- The question whether to go on is answered. -/
  | answer (yes : Bool)
  deriving DecidableEq, Repr

namespace Stage

/-- What follows from a reply, if the request can be sent as often again as given. -/
def received (policy : RetryPolicy) (retries : Nat) (p : Reply) : Stage :=
  match p.failure with
  | none => .finished p
  | some f =>
    if f.kind.isTransient then
      match retries with
      | retries + 1 => .ready retries
      | 0 => if policy.asks then .asking p else .finished p
    else .finished p

/-- Where a request stands after an act, if this can happen to it. -/
def after? (policy : RetryPolicy) : Stage → Act → Option Stage
  | .ready retries, .send => some (.underWay retries)
  | .underWay retries, .receive p => some (received policy retries p)
  | .asking _, .answer true => some (.ready policy.limit)
  | .asking p, .answer false => some (.finished p)
  | _, _ => none

/-- The reply of a finished request. -/
def reply? : Stage → Option Reply
  | .finished p => some p
  | _ => none

/-- Whether a request is finished. -/
def isFinished (s : Stage) : Bool := s.reply?.isSome

theorem reply?_eq_none {s : Stage} (h : s.isFinished = false) : s.reply? = none := by
  simpa [isFinished] using h

/-- A reply is what a request is finished with, or what somebody is asked about. -/
theorem eq_of_received {policy : RetryPolicy} {retries : Nat} {p p' : Reply}
    (h : received policy retries p = .finished p' ∨ received policy retries p = .asking p') :
    p = p' := by
  unfold received at h
  repeat' split at h
  all_goals simp_all

/-- Nothing happens to a finished request. -/
theorem isFinished_of_after? {policy : RetryPolicy} {s next : Stage} {a : Act}
    (h : s.after? policy a = some next) : s.isFinished = false := by
  cases s with
  | finished => cases h
  | ready | underWay | asking => rfl

end Stage

/-- What the log gains when an act brings a request to its next stage. -/
def Act.events (r : Request) : Act → Stage → List Event
  | .send, _ => [.sent r]
  | .receive p, .asking _ => p.failure.toList.map .asked
  | _, _ => []

/-- What an act sends. -/
theorem sentIn_events (a : Act) (r : Request) (next : Stage) :
    sentIn (a.events r next) = if a = .send then [r] else [] := by
  cases a with
  | send => rfl
  | answer yes => cases next <;> rfl
  | receive p =>
    cases next with
    | ready | underWay | finished => rfl
    | asking q => cases hf : p.failure <;> simp [Act.events, hf, sentIn]

/-- A request tells nobody to stop. -/
theorem stopped_notMem_events (a : Act) (r : Request) (next : Stage) :
    Event.stopped ∉ a.events r next := by
  cases a <;> cases next <;> simp [Act.events]

/-! ### All requests -/

/-- What can happen in a run. -/
inductive Move where
  /-- Something happens to the request of a place. -/
  | act (index : Nat) (a : Act)
  /-- The batch is told to stop. -/
  | stop (route : Route)
  deriving DecidableEq, Repr

/-- Whether a move tells the batch to stop. -/
def Move.isStop : Move → Bool
  | .stop _ => true
  | .act _ _ => false

/-- Where a run stands. -/
structure Scene where
  /-- The activity, and whether it is told to stop. -/
  control : Control
  /-- What has happened, in order. -/
  log : List Event
  /-- Where the requests stand. -/
  stages : List Stage
  /-- Whether the batch has noticed that it is told to stop. -/
  hasNoticed : Bool
  deriving DecidableEq, Repr

namespace Scene

/-- How many requests are finished. -/
def done (s : Scene) : Nat := s.stages.countP (·.isFinished)

/-- The progress that is shown. -/
def progress (s : Scene) : Progress := s.control.activity.snapshot.progress

/-- Brings a request to its next stage.  When it is finished the progress is shown, and the batch
looks whether it is told to stop. -/
def put (s : Scene) (i : Nat) (next : Stage) (events : List Event) : Scene :=
  let s' := { s with stages := s.stages.set i next, log := s.log ++ events }
  if next.isFinished then
    { s' with
      control := s.control.tell (.progress s'.done s.stages.length)
      hasNoticed := s.control.isStopped }
  else s'

/-- Tells the batch to stop. -/
def stop (s : Scene) (route : Route) : Scene :=
  { s with
    control := s.control.stop route
    log := if s.control.isStopped then s.log else s.log ++ [.stopped] }

/-- Where a run stands after a move, if it is possible. -/
def after? (policy : RetryPolicy) (requests : List Request) (s : Scene) : Move → Option Scene
  | .stop route => some (s.stop route)
  | .act i a =>
    if s.hasNoticed then none
    else match requests[i]?, s.stages[i]? with
      | some r, some stage =>
        (stage.after? policy a).map fun next => s.put i next (a.events r next)
      | _, _ => none

@[simp] theorem stages_put (s : Scene) (i : Nat) (next : Stage) (events : List Event) :
    (s.put i next events).stages = s.stages.set i next := by
  unfold put
  split <;> rfl

@[simp] theorem log_put (s : Scene) (i : Nat) (next : Stage) (events : List Event) :
    (s.put i next events).log = s.log ++ events := by
  unfold put
  split <;> rfl

@[simp] theorem isStopped_put (s : Scene) (i : Nat) (next : Stage) (events : List Event) :
    (s.put i next events).control.isStopped = s.control.isStopped := by
  unfold put
  split <;> rfl

theorem put_of_not_finished (s : Scene) (i : Nat) {next : Stage} (h : next.isFinished = false)
    (events : List Event) :
    s.put i next events = { s with stages := s.stages.set i next, log := s.log ++ events } := by
  unfold put
  rw [if_neg (by simp [h])]

/-- **What a move of a request does.** -/
theorem after?_act {policy : RetryPolicy} {requests : List Request} {s s' : Scene} {i : Nat}
    {a : Act} :
    s.after? policy requests (.act i a) = some s' ↔
      s.hasNoticed = false ∧ ∃ r stage next, requests[i]? = some r ∧ s.stages[i]? = some stage ∧
        stage.after? policy a = some next ∧ s' = s.put i next (a.events r next) := by
  rw [after?]
  cases hn : s.hasNoticed with
  | true => simp
  | false =>
    rw [if_neg Bool.false_ne_true]
    cases hr : requests[i]? with
    | none => simp
    | some r =>
      cases hs : s.stages[i]? with
      | none => simp
      | some stage =>
        rw [Option.map_eq_some_iff]
        constructor
        · rintro ⟨next, hnext, rfl⟩
          exact ⟨rfl, r, stage, next, rfl, rfl, hnext, rfl⟩
        · rintro ⟨-, _, _, next, hr', hs', hnext, rfl⟩
          obtain rfl := Option.some.inj hr'
          obtain rfl := Option.some.inj hs'
          exact ⟨next, hnext, rfl⟩

/-- One more request is finished when an unfinished one is. -/
theorem done_put {s : Scene} {i : Nat} {stage : Stage} (hs : s.stages[i]? = some stage)
    (hf : stage.isFinished = false) (next : Stage) (events : List Event) :
    (s.put i next events).done = s.done + if next.isFinished then 1 else 0 := by
  obtain ⟨hi, rfl⟩ := List.getElem?_eq_some_iff.1 hs
  rw [done, stages_put, List.countP_set hi, hf]
  rfl

theorem done_le_length (s : Scene) : s.done ≤ s.stages.length := List.countP_le_length

end Scene

/-! ### Whole runs -/

/-- When a request is sent again, which depends on whether there is somebody to ask. -/
def policyFor (b : Batch) (canAsk : Bool) : RetryPolicy :=
  { b.policy with asks := b.policy.asks && canAsk }

/-- Where a run begins: it has started, and no request was sent. -/
def scene (b : Batch) : Scene where
  control := (b.control.tell .start).tell (.progress 0 b.requests.length)
  log := b.log
  stages := b.requests.map fun _ => .ready b.policy.limit
  hasNoticed := b.control.isStopped

/-- Where a run stands after some moves, if they are possible. -/
def scene? (b : Batch) (canAsk : Bool) (moves : List Move) : Option Scene :=
  moves.foldlM (Scene.after? (b.policyFor canAsk) b.requests) b.scene

/-- A run of a batch along some moves. -/
structure Runs (b : Batch) (canAsk : Bool) (moves : List Move) (s : Scene) : Prop where
  /-- It has not started before. -/
  inactive : b.control.activity.phase = .inactive
  /-- The moves are possible, and lead to where it ends. -/
  reaches : b.scene? canAsk moves = some s
  /-- It ends because it is told to stop, or when all requests are finished. -/
  isOver : s.control.isStopped = true ∨ ∀ stage ∈ s.stages, stage.isFinished = true

/-- The replies that a run ends with; a request that is not finished is given up. -/
def repliesAt (b : Batch) (s : Scene) : List Reply :=
  List.zipWith (fun r stage => stage.reply?.getD (.cancelled r.url)) b.requests s.stages

/-- What a run ends with. -/
def ended (b : Batch) (s : Scene) : Report × Batch :=
  let replies := b.repliesAt s
  let control := conclude s.control (fault? replies)
  (⟨control.activity.phase, replies, fault? replies⟩, { b with control := control, log := s.log })

/-- At the beginning every request can be sent. -/
theorem eq_ready_of_scene {b : Batch} {i : Nat} {stage : Stage}
    (h : b.scene.stages[i]? = some stage) : stage = .ready b.policy.limit := by
  simp only [scene, List.getElem?_map, Option.map_eq_some_iff] at h
  obtain ⟨_, -, rfl⟩ := h
  rfl

/-- At the beginning no request is finished. -/
theorem done_scene (b : Batch) : b.scene.done = 0 := by
  rw [Scene.done, List.countP_eq_zero]
  intro stage hstage
  obtain ⟨i, hi⟩ := List.mem_iff_getElem?.1 hstage
  rw [eq_ready_of_scene hi]
  exact Bool.false_ne_true

/-- A run goes on move by move. -/
theorem scene?_concat (b : Batch) (canAsk : Bool) (moves : List Move) (m : Move) :
    b.scene? canAsk (moves ++ [m]) =
      (b.scene? canAsk moves).bind (Scene.after? (b.policyFor canAsk) b.requests · m) := by
  unfold scene?
  rw [List.foldlM_append]
  cases moves.foldlM (Scene.after? (b.policyFor canAsk) b.requests) b.scene with
  | none => rfl
  | some s =>
    change [m].foldlM (Scene.after? (b.policyFor canAsk) b.requests) s = _
    rw [List.foldlM_cons]
    exact bind_pure _

theorem scene?_concat_eq_some_iff {b : Batch} {canAsk : Bool} {moves : List Move} {m : Move}
    {s' : Scene} :
    b.scene? canAsk (moves ++ [m]) = some s' ↔
      ∃ s, b.scene? canAsk moves = some s ∧
        s.after? (b.policyFor canAsk) b.requests m = some s' := by
  rw [scene?_concat, Option.bind_eq_some_iff]

/-- **Induction over a run**: what holds at its beginning and is kept by every move holds at every
moment of it. -/
@[elab_as_elim]
theorem scene?_induction {b : Batch} {canAsk : Bool}
    {motive : (moves : List Move) → (s : Scene) → b.scene? canAsk moves = some s → Prop}
    (start : motive [] b.scene rfl)
    (move : ∀ {moves m s s'} (hs : b.scene? canAsk moves = some s)
      (hm : s.after? (b.policyFor canAsk) b.requests m = some s'), motive moves s hs →
      motive (moves ++ [m]) s' (scene?_concat_eq_some_iff.2 ⟨s, hs, hm⟩))
    {moves : List Move} {s : Scene} (h : b.scene? canAsk moves = some s) : motive moves s h := by
  induction moves using List.reverseRecOn generalizing s with
  | nil =>
    obtain rfl := Option.some.inj h
    exact start
  | append_singleton moves m ih =>
    obtain ⟨s₁, hs₁, hm⟩ := scene?_concat_eq_some_iff.1 h
    exact move hs₁ hm (ih hs₁)

/-- The reply that a move brings for a request. -/
def Move.received? (i : Nat) : Move → Option Reply
  | .act j (.receive p) => if j = i then some p else none
  | _ => none

/-- The last reply that arrived for a request. -/
def lastReceived (i : Nat) (moves : List Move) : Option Reply :=
  (moves.filterMap (Move.received? i)).getLast?

theorem lastReceived_concat (i : Nat) (moves : List Move) (m : Move) :
    lastReceived i (moves ++ [m]) = (m.received? i).or (lastReceived i moves) := by
  unfold lastReceived
  rw [List.filterMap_append]
  cases h : m.received? i with
  | none => simp [h]
  | some p => simp [h]

end Batch

end SignIn
