import SignIn.Batch

/-!
# Running a batch

The requests are worked on in turns.  In its turn a request is sent, and sent again
while it fails in a way that may pass and the limit allows it; after that it is
finished, or waits for the answer to a question and has another turn after the other
requests.  A request to which no reply arrives has no further turn.

The batch looks whether it is told to stop before the first turn, when a request is
finished, and before every further round of turns.  It does not look while it sends a
request again.

## Main definitions

* `Course` — how far a run has come.
* `Course.attempt` — one turn of a request.
* `Course.work` — all turns.
* `Batch.run` — a whole run, with its report.
-/

namespace SignIn

namespace Batch

/-- How far a run has come. -/
structure Course where
  /-- The activity, and whether it is told to stop. -/
  control : Control
  /-- What has happened, in order. -/
  log : List Event
  /-- The finished requests, each its place and its reply, in the order in which they
  were finished. -/
  finished : List (Nat × Reply)
  /-- The answers still to be given to questions; afterwards the answer is no. -/
  answers : List Bool
  deriving DecidableEq, Repr

/-- A request that is not finished. -/
structure Pending where
  /-- Its place among the requests. -/
  index : Nat
  /-- The request. -/
  request : Request
  /-- The reply to finish with, once going on was declined. -/
  declined : Option Reply
  deriving DecidableEq, Repr

/-- How many turns a request may still have without a question answered by yes. -/
def Pending.weight (p : Pending) : Nat := if p.declined.isSome then 1 else 2

/-- How one turn of a request ends. -/
inductive Pause where
  /-- With its reply. -/
  | finished (reply : Reply)
  /-- With a question. -/
  | asks (failure : Failure) (reply : Reply)
  /-- Never. -/
  | silent
  deriving DecidableEq, Repr

namespace Course

/-- Tells the batch to stop; being told again changes nothing. -/
def stop (c : Course) (route : Route) : Course :=
  if c.control.isStopped then c
  else { c with control := c.control.stop route, log := c.log ++ [.stopped] }

/-- Sends a request; gives the reply, if one arrives. -/
def send (server : Server) (route : Route) (c : Course) (r : Request) : Course × Option Reply :=
  let turn := server (sentIn c.log) r
  let c := { c with log := c.log ++ [.sent r] }
  match turn with
  | .reply p => (c, some p)
  | .stopped p => (c.stop route, some p)
  | .silence => (c, none)

/-- Sends a request, and again up to a number of times while its failure may pass. -/
def attempt (server : Server) (route : Route) (asks : Bool) :
    Nat → Course → Request → Course × Pause
  | limit, c, r =>
    match c.send server route r with
    | (c, none) => (c, .silent)
    | (c, some p) =>
      match p.failure with
      | none => (c, .finished p)
      | some f =>
        if f.kind.isTransient then
          match limit with
          | limit + 1 => attempt server route asks limit c r
          | 0 => (c, if asks then .asks f p else .finished p)
        else (c, .finished p)

/-- Keeps the reply of a finished request and shows the progress. -/
def finish (total : Nat) (c : Course) (index : Nat) (reply : Reply) : Course :=
  { c with
    finished := c.finished ++ [(index, reply)]
    control := c.control.tell (.progress (c.finished.length + 1) total) }

/-- Asks whether to go on after a failure. -/
def ask (c : Course) (f : Failure) : Course × Bool :=
  ({ c with log := c.log ++ [.asked f], answers := c.answers.tail }, c.answers.headD false)

/-! ### What a turn leaves alone -/

@[simp] theorem answers_stop (c : Course) (route : Route) :
    (c.stop route).answers = c.answers := by
  unfold stop
  split <;> rfl

@[simp] theorem answers_send (server : Server) (route : Route) (c : Course) (r : Request) :
    (c.send server route r).1.answers = c.answers := by
  unfold send
  simp only
  split <;> simp

@[simp] theorem answers_attempt (server : Server) (route : Route) (asks : Bool) (limit : Nat)
    (c : Course) (r : Request) :
    (c.attempt server route asks limit r).1.answers = c.answers := by
  induction limit generalizing c with
  | zero =>
    have h := answers_send server route c r
    unfold attempt
    repeat' split
    all_goals simp_all
  | succ limit ih =>
    have h := answers_send server route c r
    unfold attempt
    repeat' split
    all_goals simp_all

/-! ### Turns -/

/-- What follows from one turn of a request. -/
inductive Next where
  /-- It is finished. -/
  | finished (reply : Reply)
  /-- It has another turn. -/
  | again (pending : Pending)
  /-- Nothing does. -/
  | silent

/-- One turn of a request. -/
def turn (server : Server) (route : Route) (policy : RetryPolicy) (c : Course) (p : Pending) :
    Course × Next :=
  match p.declined with
  | some reply => (c, .finished reply)
  | none =>
    match c.attempt server route policy.asks policy.limit p.request with
    | (c, .finished reply) => (c, .finished reply)
    | (c, .silent) => (c, .silent)
    | (c, .asks f reply) =>
      ((c.ask f).1, .again { p with declined := if (c.ask f).2 then none else some reply })

/-- A turn gives no answers. -/
theorem answers_turn_le (server : Server) (route : Route) (policy : RetryPolicy) (c : Course)
    (p : Pending) : (c.turn server route policy p).1.answers.length ≤ c.answers.length := by
  have h := answers_attempt server route policy.asks policy.limit c p.request
  unfold turn ask
  repeat' split
  all_goals simp_all

/-- Another turn costs an answer, or is the last one. -/
theorem turn_again_lt {server : Server} {route : Route} {policy : RetryPolicy} {c c' : Course}
    {p p' : Pending} (h : c.turn server route policy p = (c', .again p')) :
    c'.answers.length + p'.weight < c.answers.length + p.weight := by
  have ha := answers_attempt server route policy.asks policy.limit c p.request
  unfold turn at h
  split at h
  · simp at h
  · rename_i hp
    split at h
    · simp at h
    · simp at h
    · rename_i c₁ f reply he
      simp only [he] at ha
      simp only [Prod.mk.injEq, Next.again.injEq] at h
      obtain ⟨rfl, rfl⟩ := h
      rw [← ha]
      cases hl : c₁.answers with
      | nil => simp [ask, Pending.weight, hp, hl]
      | cons b bs => cases b <;> simp [ask, Pending.weight, hp, hl]

/-- The turns that requests may still have. -/
def weight : List Pending → Nat
  | [] => 0
  | p :: ps => p.weight + weight ps

theorem weight_append (ps qs : List Pending) : weight (ps ++ qs) = weight ps + weight qs := by
  induction ps with
  | nil => simp [weight]
  | cons p ps ih => simp [weight, ih, Nat.add_assoc]

theorem weight_pos (p : Pending) : 0 < p.weight := by
  unfold Pending.weight
  split <;> omega

/-- All turns: first of the requests that have not had theirs in this round, then of
those that wait for the next one. -/
def work (server : Server) (route : Route) (policy : RetryPolicy) (total : Nat) (c : Course) :
    List Pending → List Pending → Course
  | [], [] => c
  | [], p :: later =>
    if c.control.isStopped then c else c.work server route policy total (p :: later) []
  | p :: now, later =>
    match _h : c.turn server route policy p with
    | (c', .finished reply) =>
      let c' := c'.finish total p.index reply
      if c'.control.isStopped then c' else c'.work server route policy total now later
    | (c', .silent) => c'.work server route policy total now later
    | (c', .again p') => c'.work server route policy total now (later ++ [p'])
  termination_by now later => (c.answers.length + weight now + weight later, later.length)
  decreasing_by
    · simp [weight, Prod.lex_def]
    · have ha := answers_turn_le server route policy c p
      have hp := weight_pos p
      simp only [_h] at ha
      apply Prod.Lex.left
      simp [weight, finish]
      omega
    · have ha := answers_turn_le server route policy c p
      have hp := weight_pos p
      simp only [_h] at ha
      apply Prod.Lex.left
      simp [weight]
      omega
    · have ha := turn_again_lt _h
      apply Prod.Lex.left
      simp [weight, weight_append]
      omega

/-- Ends the wait for replies that never arrive, by being told to stop. -/
def release (route : Route) (total : Nat) (c : Course) : Course :=
  if c.finished.length < total then c.stop route else c

end Course

/-- The reply to a request at the end of a run: the one that it was finished with, or
the one that says that it was given up. -/
def finalReply (finished : List (Nat × Reply)) (index : Nat) (r : Request) : Reply :=
  (finished.lookup index).getD (.cancelled r.url)

/-- Ends the activity: by success, by the first failure, or aborted if the batch was
told to stop. -/
def conclude (control : Control) (fault : Option Fault) : Control :=
  if control.isStopped then control.tell .abort
  else match fault with
    | some f => control.tell (.fail f.message)
    | none => control.tell .succeed

/-- Runs a batch, which is possible once.  The route is the one by which the batch is
told to stop, should that happen; the answers are those given to questions, if there
is anybody to ask. -/
def run (b : Batch) (server : Server) (route : Route) (answers : Option (List Bool)) :
    Except Error (Report × Batch) :=
  if b.control.activity.phase = .inactive then
    let total := b.requests.length
    let control := (b.control.tell .start).tell (.progress 0 total)
    let policy := { b.policy with asks := b.policy.asks && answers.isSome }
    let pending := b.requests.zipIdx.map fun (r, i) => ⟨i, r, none⟩
    let course : Course := ⟨control, b.log, [], answers.getD []⟩
    let course := course.work server route policy total [] pending
    let course := course.release route total
    let replies := b.requests.zipIdx.map fun (r, i) => finalReply course.finished i r
    let fault := fault? replies
    let control := conclude course.control fault
    .ok (⟨control.activity.phase, replies, fault⟩,
      { b with control := control, log := course.log })
  else .error (.activityStarted b.control.activity.name)

end Batch

end SignIn
