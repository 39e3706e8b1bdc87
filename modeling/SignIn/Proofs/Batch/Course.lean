import SignIn.Proofs.Batch.Interleaving

/-!
# A run in turns, step by step

A run in turns is a loop over the requests that wait.  It is taken apart here once, so that no
other proof has to look into the loop: where it begins and ends, and what follows from a turn.

## Main definitions

* `Reply.mayPass` — a reply after which sending the same request again may help.
* `Batch.pendings`, `Batch.course` — the requests that wait at first, and how far a run comes.
* `Batch.closing` — what a run comes to.

## Main results

* `Batch.run_of_inactive` — a run comes to what its course comes to.
* `Course.attempt_of_reply` — what a turn does with a reply.
* `Course.work_round`, `Course.work_turn` — how turns follow each other.
-/

namespace SignIn

/-- The reply is a failure that may pass, so that sending the request again may help. -/
def Reply.mayPass (p : Reply) : Bool := p.failure.any (·.kind.isTransient)

namespace Batch

@[simp] theorem sentIn_append (log more : List Event) :
    sentIn (log ++ more) = sentIn log ++ sentIn more := by simp [sentIn]

@[simp] theorem askedIn_append (log more : List Event) :
    askedIn (log ++ more) = askedIn log ++ askedIn more := by simp [askedIn]

/-! ### Whole runs -/

/-- The requests that wait for their turns at first. -/
def pendings (b : Batch) : List Pending := b.requests.zipIdx.map fun (r, i) => ⟨i, r, none⟩

theorem map_request_pendings (b : Batch) : b.pendings.map (·.request) = b.requests := by
  rw [pendings, List.map_map]
  exact List.zipIdx_map_fst 0 b.requests

theorem declined_of_mem_pendings {b : Batch} {q : Pending} (h : q ∈ b.pendings) :
    q.declined = none := by
  obtain ⟨_, -, rfl⟩ := List.mem_map.1 h
  rfl

/-- How far a run comes. -/
def course (b : Batch) (server : Server) (route : Route) (answers : Option (List Bool)) : Course :=
  (Course.work server route (b.policyFor answers.isSome) b.requests.length
    ⟨b.scene.control, b.log, [], answers.getD []⟩ [] b.pendings).release route b.requests.length

/-- What a run comes to that has come so far. -/
def closing (b : Batch) (c : Course) : Report × Batch :=
  let replies := b.requests.zipIdx.map fun (r, i) => finalReply c.finished i r
  let control := conclude c.control (fault? replies)
  (⟨control.activity.phase, replies, fault? replies⟩, { b with control := control, log := c.log })

theorem replies_closing (b : Batch) (c : Course) :
    (b.closing c).1.replies = b.requests.zipIdx.map fun (r, i) => finalReply c.finished i r := rfl

theorem log_closing (b : Batch) (c : Course) : (b.closing c).2.log = c.log := rfl

theorem phase_closing (b : Batch) (c : Course) :
    (b.closing c).1.phase = (conclude c.control (b.closing c).1.fault).activity.phase := rfl

theorem run_of_inactive {b : Batch} (h : b.control.activity.phase = .inactive) (server : Server)
    (route : Route) (answers : Option (List Bool)) :
    b.run server route answers = .ok (b.closing (b.course server route answers)) := if_pos h

/-! ### Turns -/

/-- How a turn ends with a reply. -/
def Pause.of (asks : Bool) (p : Reply) : Pause :=
  match p.failure with
  | some f => if f.kind.isTransient && asks then .asks f p else .finished p
  | none => .finished p

theorem Pause.of_of_mayPass {p : Reply} (h : p.mayPass = true) :
    ∃ f, p.failure = some f ∧ Pause.of true p = .asks f p := by
  unfold Reply.mayPass at h
  unfold Pause.of
  cases hf : p.failure with
  | none =>
    rw [hf] at h
    cases h
  | some f =>
    rw [hf, Option.any_some] at h
    exact ⟨f, rfl, by simp [h]⟩

theorem Pause.of_eq_finished {asks : Bool} {p : Reply} (h : (asks && p.mayPass) = false) :
    Pause.of asks p = .finished p := by
  unfold Reply.mayPass at h
  unfold Pause.of
  cases hf : p.failure with
  | none => rfl
  | some f =>
    rw [hf, Option.any_some, Bool.and_comm] at h
    simp [h]

namespace Course

variable {server : Server} {route : Route} {policy : RetryPolicy} {c : Course} {total : Nat}

/-- A server that replies. -/
theorem send_of_reply {r : Request} {p : Reply} (h : server (sentIn c.log) r = .reply p) :
    c.send server route r = ({ c with log := c.log ++ [.sent r] }, some p) := by
  simp only [send, h]

/-- What a turn does when a reply arrives. -/
theorem attempt_of_reply {r : Request} {c' : Course} {p : Reply}
    (h : c.send server route r = (c', some p)) (asks : Bool) (limit : Nat) :
    c.attempt server route asks limit r =
      if p.mayPass = true ∧ 0 < limit then attempt server route asks (limit - 1) c' r
      else (c', .of asks p) := by
  rw [attempt, h]
  unfold Reply.mayPass Pause.of
  cases hf : p.failure with
  | none => simp [hf]
  | some f =>
    cases hkind : f.kind.isTransient with
    | false => simp [hf, hkind]
    | true => cases limit <;> simp [hf, hkind]

/-- What it does when none arrives. -/
theorem attempt_of_silence {r : Request} {c' : Course}
    (h : c.send server route r = (c', none)) (asks : Bool) (limit : Nat) :
    c.attempt server route asks limit r = (c', .silent) := by
  rw [attempt, h]

/-- A round of turns begins unless the batch is told to stop. -/
theorem work_round (hc : c.control.isStopped = false) (q : Pending) (later : List Pending) :
    c.work server route policy total [] (q :: later) =
      c.work server route policy total (q :: later) [] := by
  conv => lhs; rw [work, if_neg (by simp [hc])]

/-- The first round of turns. -/
theorem work_start (hc : c.control.isStopped = false) (waiting : List Pending) :
    c.work server route policy total [] waiting = c.work server route policy total waiting [] := by
  cases waiting with
  | nil => rfl
  | cons q waiting => exact work_round hc q waiting

/-- What follows from the turn of a request. -/
theorem work_turn (c : Course) (q : Pending) (now later : List Pending) :
    c.work server route policy total (q :: now) later =
      match c.turn server route policy q with
      | (c', .finished p) =>
        if c'.control.isStopped then c'.finish total q.index p
        else (c'.finish total q.index p).work server route policy total now later
      | (c', .silent) => c'.work server route policy total now later
      | (c', .again q') => c'.work server route policy total now (later ++ [q']) := by
  conv => lhs; rw [work]
  split
  · rename_i heq
    rw [heq]
    rfl
  · rename_i heq
    rw [heq]
  · rename_i heq
    rw [heq]

/-- A request that is finished in its turn, and is the only one, has no other turn. -/
theorem work_of_finished {c' : Course} {q : Pending} {p : Reply}
    (hc : c.control.isStopped = false) (h : c.turn server route policy q = (c', .finished p)) :
    c.work server route policy total [] [q] = c'.finish total q.index p := by
  rw [work_round hc, work_turn, h]
  dsimp only
  split
  · rfl
  · rw [work]

/-- A request that has another turn has it at once if it is the only one. -/
theorem work_of_again {c' : Course} {q q' : Pending}
    (hc : c.control.isStopped = false) (h : c.turn server route policy q = (c', .again q')) :
    c.work server route policy total [] [q] = c'.work server route policy total [] [q'] := by
  rw [work_round hc, work_turn, h]
  rfl

/-- A request that no reply arrives for is left where it is. -/
theorem work_of_silent {c' : Course} {q : Pending}
    (hc : c.control.isStopped = false) (h : c.turn server route policy q = (c', .silent)) :
    c.work server route policy total [] [q] = c' := by
  rw [work_round hc, work_turn, h]
  dsimp only
  rw [work]

end Course

end Batch

end SignIn
