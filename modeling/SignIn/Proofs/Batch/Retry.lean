import SignIn.Proofs.Batch.Stands
import SignIn.Proofs.Batch.Turns

/-!
# How often a request is sent

A batch ends, however its requests fail: each of them is sent until a reply that may not pass, or
until the answers leave it no more tries.  When requests follow each other in any order this is
what `Retries` says at every moment; when they have their turns it is proved of the turns.

## Main definitions

* `prepared` — a batch that has not started.
* `ofSequence` — a server with a sequence of replies.
* `blocks` — how many blocks of tries the answers allow.
* `Tries` — how often the requests of a batch are sent, up to some moment.

## Main results

* `Course.attempt_tries`, `Course.turn_tries`, `Course.work_retries` — the tries of one turn, and of
  all turns of a request.
* `run_retries` — how often a request is sent, and when somebody is asked.
-/

namespace SignIn

namespace Batch

/-- A batch of requests that has not started. -/
def prepared (name : String) (policy : RetryPolicy) (requests : List Request) : Batch :=
  { new name with policy := policy, requests := requests }

/-- A batch is prepared by adding its requests one by one. -/
theorem foldlM_add (name : String) (policy : RetryPolicy) (requests : List Request) :
    requests.foldlM add (prepared name policy []) = .ok (prepared name policy requests) := by
  induction requests using List.reverseRecOn with
  | nil => rfl
  | append_singleton requests r ih =>
    rw [List.foldlM_append, ih]
    rfl

/-! ### Requests that are sent in turns -/

/-- How many blocks of tries the answers allow: one, and another one for every answer by yes before
the first no, if there is anybody to ask. -/
def blocks (policy : RetryPolicy) (answers : List Bool) : Nat :=
  if policy.asks then (answers.takeWhile id).length + 1 else 1

theorem blocks_pos (policy : RetryPolicy) (answers : List Bool) : 0 < blocks policy answers := by
  unfold blocks
  split <;> omega

/-- An answer by yes leaves one block less. -/
theorem blocks_of_yes {policy : RetryPolicy} {answers : List Bool} (hasks : policy.asks = true)
    (hyes : answers.headD false = true) :
    blocks policy answers = blocks policy answers.tail + 1 ∧
      answers.tail.length < answers.length := by
  cases answers with
  | nil => cases hyes
  | cons answer answers =>
    obtain rfl : answer = true := hyes
    refine ⟨?_, Nat.lt_succ_self _⟩
    simp [blocks, hasks]

/-- Without one there is no block but the first. -/
theorem blocks_of_no (policy : RetryPolicy) {answers : List Bool}
    (hno : ¬ answers.headD false = true) : blocks policy answers = 1 := by
  cases answers with
  | nil => simp [blocks]
  | cons answer answers =>
    obtain rfl : answer = false := eq_false_of_ne_true hno
    simp [blocks]

namespace Course

variable {server : Server} {route : Route} {policy : RetryPolicy} {c : Course} {r : Request}
  {total : Nat}

/-- **The tries of a block** when the server replies each time. -/
theorem attempt_tries {ρ : Nat → Reply}
    (h : ∀ j, server (sentIn c.log ++ List.replicate j r) r = .reply (ρ j)) (route : Route)
    (asks : Bool) (limit : Nat) :
    c.attempt server route asks limit r =
      ({ c with log := c.log ++ List.replicate (tries limit ρ).length (.sent r) },
        .of asks (settled limit ρ)) := by
  have hfirst : server (sentIn c.log) r = .reply (ρ 0) := by simpa using h 0
  rw [attempt_of_reply (send_of_reply hfirst)]
  induction limit generalizing c ρ with
  | zero =>
    rw [if_neg (fun hmore => Nat.lt_irrefl 0 hmore.2)]
    rfl
  | succ limit ih =>
    unfold tries settled
    by_cases hp : (ρ 0).mayPass = true
    · -- the request is sent again, and the rest of the sequence follows
      have hrest (j : Nat) : server (sentIn (c.log ++ [.sent r]) ++ List.replicate j r) r =
          .reply (ρ (j + 1)) := by
        have hsent : sentIn (c.log ++ [.sent r]) = sentIn c.log ++ [r] := by simp [sentIn]
        rw [← h (j + 1), hsent, List.append_assoc, List.replicate_succ]
        rfl
      have hnext : server (sentIn (c.log ++ [.sent r])) r = .reply (ρ 1) := by simpa using hrest 0
      rw [if_pos ⟨hp, Nat.succ_pos limit⟩, if_pos hp, if_pos hp, Nat.add_sub_cancel,
        attempt_of_reply (send_of_reply hnext),
        ih (c := { c with log := c.log ++ [.sent r] }) hrest hnext, List.length_cons,
        List.replicate_succ, List.append_assoc]
      rfl
    · rw [if_neg (fun hmore => hp hmore.1), if_neg hp, if_neg hp]
      rfl

/-- **One turn of a request** when the server replies each time.  Somebody is asked at its end if
the last reply may pass, and nobody is asked before. -/
theorem turn_tries {ρ : Nat → Reply}
    (h : ∀ j, server (sentIn c.log ++ List.replicate j r) r = .reply (ρ j)) (route : Route)
    (policy : RetryPolicy) (i yes : Nat) :
    c.turn server route policy ⟨i, r, none⟩ =
      if (policy.asks && (settled policy.limit ρ).mayPass) = true then
        ({ c with
            log := c.log ++ story policy r (yes * (policy.limit + 1)) (tries policy.limit ρ)
            answers := c.answers.tail },
          .again ⟨i, r, if c.answers.headD false then none else some (settled policy.limit ρ)⟩)
      else
        ({ c with
            log := c.log ++ story policy r (yes * (policy.limit + 1)) (tries policy.limit ρ) },
          .finished (settled policy.limit ρ)) := by
  rw [story_of_tried policy r yes (tried_tries policy.limit ρ)]
  unfold turn
  dsimp only
  rw [attempt_tries h]
  cases hask : policy.asks && (settled policy.limit ρ).mayPass with
  | false =>
    have hquiet : ¬ (policy.asks = true ∧ (settled policy.limit ρ).mayPass = true) := by
      rw [← Bool.and_eq_true, hask]
      exact Bool.false_ne_true
    rw [Pause.of_eq_finished hask, if_neg Bool.false_ne_true, if_neg hquiet, List.append_nil]
  | true =>
    have hboth : policy.asks = true ∧ (settled policy.limit ρ).mayPass = true := by
      rwa [← Bool.and_eq_true]
    obtain ⟨f, hf, hpause⟩ := Pause.of_of_mayPass hboth.2
    rw [hboth.1, hpause, if_pos rfl, if_pos ⟨rfl, hboth.2⟩, hf, ← List.append_assoc]
    rfl

/-- **All turns of a request** that is the only one of its batch, when the server replies each time.
It may have had whole blocks of tries before. -/
theorem work_retries {ρ : Nat → Reply}
    (h : ∀ j, server (sentIn c.log ++ List.replicate j r) r = .reply (ρ j))
    (hc : c.control.isStopped = false) (route : Route) (policy : RetryPolicy) (total i yes : Nat) :
    ∃ ps p answers, Tried (blocks policy c.answers * (policy.limit + 1)) ps p ∧ Begins ρ ps ∧
      c.work server route policy total [] [⟨i, r, none⟩] =
        Course.finish total
          { c with
            log := c.log ++ story policy r (yes * (policy.limit + 1)) ps
            answers := answers } i p := by
  -- by induction on the answers that are left, each of which opens another block
  induction hn : c.answers.length using Nat.strongRecOn generalizing c ρ yes with
  | ind n ih =>
    have htried := tried_tries policy.limit ρ
    have hbegins := begins_tries policy.limit ρ
    have hturn := turn_tries h route policy i yes
    generalize tries policy.limit ρ = ps at htried hbegins hturn
    generalize settled policy.limit ρ = p at htried hturn
    have hmost : policy.limit + 1 ≤ blocks policy c.answers * (policy.limit + 1) :=
      Nat.le_mul_of_pos_left _ (blocks_pos policy c.answers)
    cases hask : policy.asks && p.mayPass with
    | false =>
      -- the request is finished in this block
      rw [hask, if_neg Bool.false_ne_true] at hturn
      refine ⟨ps, p, c.answers, ?_, hbegins, work_of_finished hc hturn⟩
      cases hp : p.mayPass with
      | false => exact htried.mono hp hmost
      | true =>
        rw [hp, Bool.and_true] at hask
        rwa [blocks, hask, if_neg Bool.false_ne_true, Nat.one_mul]
    | true =>
      obtain ⟨hasks, hp⟩ : policy.asks = true ∧ p.mayPass = true := by rwa [← Bool.and_eq_true]
      rw [hask, if_pos rfl] at hturn
      by_cases hyes : c.answers.headD false = true
      · -- another block follows
        obtain ⟨hblocks, hless⟩ := blocks_of_yes hasks hyes
        have hlen : ps.length = policy.limit + 1 := htried.length_eq hp
        rw [hyes, if_pos rfl] at hturn
        have hrest (j : Nat) :
            server (sentIn (c.log ++ story policy r (yes * (policy.limit + 1)) ps) ++
              List.replicate j r) r = .reply (ρ (ps.length + j)) := by
          rw [← h (ps.length + j), sentIn_append, sentIn_story, List.append_assoc,
            ← List.replicate_append_replicate]
        obtain ⟨qs, q, answers', htried', hbegins', hwork⟩ :=
          ih c.answers.tail.length (hn ▸ hless)
            (c := { c with
              log := c.log ++ story policy r (yes * (policy.limit + 1)) ps
              answers := c.answers.tail })
            (ρ := fun j => ρ (ps.length + j)) hrest hc (yes + 1) rfl
        refine ⟨ps ++ qs, q, answers', ?_, hbegins.append hbegins', ?_⟩
        · have hmore : blocks policy c.answers * (policy.limit + 1) =
              ps.length + blocks policy c.answers.tail * (policy.limit + 1) := by
            rw [hblocks, Nat.succ_mul, hlen, Nat.add_comm]
          rw [hmore]
          exact .append (htried.all_mayPass hp) htried'
        · rw [work_of_again hc hturn, hwork, story_append, ← List.append_assoc, hlen,
            ← Nat.succ_mul]
      · -- going on is declined, and the request is finished in its next turn
        rw [if_neg hyes] at hturn
        refine ⟨ps, p, c.answers.tail, ?_, hbegins, ?_⟩
        · rwa [blocks_of_no policy hyes, Nat.one_mul]
        · rw [work_of_again hc hturn]
          exact work_of_finished hc rfl

end Course

/-! ### Whole batches -/

/-- In a whole run that is never told to stop each request has the reply that it is finished
with. -/
theorem Runs.finishes {b : Batch} {canAsk : Bool} {moves : List Move} {s : Scene}
    (h : b.Runs canAsk moves s) (hb : b.control.isStopped = false)
    (hgo : moves.any Move.isStop = false) {i : Nat} {r : Request} (hr : b.requests[i]? = some r) :
    ∃ p, (b.ended s).1.replies[i]? = some p ∧
      Retries (b.policyFor canAsk) (actsOf i moves) (.finished p) := by
  obtain ⟨stage, hstage, hretries⟩ := Retries.of_scene? h.reaches hr
  have hgoing : s.control.isStopped = false := by
    rw [(Sound.of_scene? h.inactive h.reaches).isStopped_eq, hb, hgo]
    rfl
  have hfinished : stage.isFinished = true := by
    rcases h.isOver with hstop | hall
    · rw [hgoing] at hstop
      cases hstop
    · exact hall stage (List.mem_of_getElem? hstage)
  cases stage with
  | ready | underWay | asking => cases hfinished
  | finished p => exact ⟨p, (h.reports.finished hstage).1, hretries⟩

/-- How often the requests of a batch are sent, and when somebody is asked, up to some moment of a
run. -/
structure Tries (b : Batch) (canAsk : Bool) (moves : List Move) (s : Scene) : Prop where
  /-- Where a request stands is told by its replies and by the answers about it. -/
  retries {i : Nat} {r : Request} (hr : b.requests[i]? = some r) :
    ∃ stage, s.stages[i]? = some stage ∧ Retries (b.policyFor canAsk) (actsOf i moves) stage ∧
      sendsIn (actsOf i moves) ≤
        ((answersIn (actsOf i moves)).count true + 1) * (b.policy.limit + 1)
  /-- What happens next to a request is told by its own replies. -/
  log_act {i : Nat} {a : Act} {r : Request} {s' : Scene} (hr : b.requests[i]? = some r)
    (h : b.scene? canAsk (moves ++ [.act i a]) = some s') :
    s'.log = s.log ++ told (b.policyFor canAsk) r (repliesIn (actsOf i moves)) a
  /-- At the end of a run that is never told to stop each request has its last reply. -/
  replies {i : Nat} {r : Request} (hruns : b.Runs canAsk moves s)
    (hgo : moves.any Move.isStop = false) (hr : b.requests[i]? = some r) :
    ∃ p, (b.ended s).1.replies[i]? = some p ∧
      Retries (b.policyFor canAsk) (actsOf i moves) (.finished p)

/-- A batch that is not told to stop at first tries its requests so. -/
theorem tries_of_scene? {b : Batch} {canAsk : Bool} {moves : List Move} {s : Scene}
    (hb : b.control.isStopped = false) (h : b.scene? canAsk moves = some s) :
    b.Tries canAsk moves s where
  retries hr := by
    obtain ⟨stage, hstage, hretries⟩ := Retries.of_scene? h hr
    exact ⟨stage, hstage, hretries, hretries.sends_le⟩
  log_act hr h' := log_of_act hr h h'
  replies hruns hgo hr := hruns.finishes hb hgo hr

/-- A server that has a sequence of replies, whatever it is asked. -/
def ofSequence (ρ : Nat → Reply) : Server := fun sent _ => .reply (ρ sent.length)

/-- A batch of one request, whose server replies each time. -/
theorem run_one {b : Batch} (h : b.control.activity.phase = .inactive)
    (hb : b.control.isStopped = false) (hlog : b.log = []) {r : Request}
    (hr : b.requests = [r]) (ρ : Nat → Reply) (route : Route) (answers : Option (List Bool)) :
    ∃ report b' ps p,
      b.run (ofSequence ρ) route answers = .ok (report, b') ∧
      Begins ρ ps ∧
      Tried (blocks (b.policyFor answers.isSome) (answers.getD []) * (b.policy.limit + 1)) ps p ∧
      report.replies = [p] ∧ b'.log = story (b.policyFor answers.isSome) r 0 ps := by
  have hserver (j : Nat) :
      ofSequence ρ (sentIn [] ++ List.replicate j r) r = .reply (ρ j) := by
    simp [ofSequence, sentIn]
  obtain ⟨ps, p, left, htried, hbegins, hwork⟩ :=
    Course.work_retries (c := ⟨b.scene.control, [], [], answers.getD []⟩) hserver hb route
      (b.policyFor answers.isSome) 1 0 0
  rw [Nat.zero_mul, List.nil_append] at hwork
  have hcourse : b.course (ofSequence ρ) route answers =
      Course.finish 1
        ⟨b.scene.control, story (b.policyFor answers.isSome) r 0 ps, [], left⟩ 0 p := by
    rw [course, pendings, hlog, hr]
    exact (congrArg (Course.release route 1) hwork).trans (if_neg (Nat.lt_irrefl 1))
  refine ⟨(b.closing (b.course _ route answers)).1, (b.closing _).2, ps, p,
    run_of_inactive h .., hbegins, htried, ?_, ?_⟩
  · rw [replies_closing, hcourse, hr]
    rfl
  · rw [log_closing, hcourse]
    rfl

/-- **How often a request is sent, and when somebody is asked.**  However the requests of a batch
follow each other, each is sent until a reply that may not pass, or until the answers leave it no
more tries; somebody is asked at the end of a block of tries, and never otherwise.  With a server
that replies each time, a batch of one request always comes to an end so. -/
theorem run_retries (name : String) (policy : RetryPolicy) :
    (∀ requests canAsk moves s, (prepared name policy requests).scene? canAsk moves = some s →
      (prepared name policy requests).Tries canAsk moves s) ∧
    ∀ r ρ route answers, ∃ report b' ps p,
      (prepared name policy [r]).run (ofSequence ρ) route answers =
        .ok (report, b') ∧
      Begins ρ ps ∧
      Tried (blocks ((prepared name policy [r]).policyFor answers.isSome) (answers.getD []) *
        (policy.limit + 1)) ps p ∧
      report.replies = [p] ∧
      b'.log = story ((prepared name policy [r]).policyFor answers.isSome) r 0 ps := by
  constructor
  · intro requests canAsk moves s h
    exact tries_of_scene? rfl h
  · intro r ρ route answers
    exact run_one rfl rfl rfl rfl ρ route answers

/-- No reply in time. -/
def someDelay : Reply := .ofFailure someRequest.url .timeout "no reply"

/-- With a limit of one, two answers by yes and a server that is always late, a request is sent in
three blocks of two, and somebody is asked after each of them. -/
theorem run_retries_late :
    (∃ s, (prepared "job" ⟨true, 1⟩ [someRequest]).scene? true
        [.act 0 .send, .act 0 (.receive someDelay)] = some s ∧
      (prepared "job" ⟨true, 1⟩ [someRequest]).Tries true
        [.act 0 .send, .act 0 (.receive someDelay)] s) ∧
    ∃ report b', (prepared "job" ⟨true, 1⟩ [someRequest]).run (ofSequence fun _ => someDelay) .token
        (some [true, true]) = .ok (report, b') ∧ report.replies = [someDelay] ∧
      b'.log = (List.replicate 3 [.sent someRequest, .sent someRequest,
        .asked ⟨.timeout, "no reply"⟩]).flatten := by
  obtain ⟨hmoves, hruns⟩ := run_retries "job" ⟨true, 1⟩
  obtain ⟨report, b', ps, p, hrun, hbegins, htried, hreplies, hlog⟩ :=
    hruns someRequest (fun _ => someDelay) .token (some [true, true])
  have hall : ∀ q ∈ ps, q = someDelay := by
    intro q hq
    rw [hbegins] at hq
    obtain ⟨_, -, rfl⟩ := List.mem_map.1 hq
    rfl
  obtain rfl : p = someDelay := hall p (List.mem_of_getLast? htried.last)
  have hlen : ps.length = 6 := htried.length_eq rfl
  obtain rfl : ps = List.replicate 6 someDelay := List.eq_replicate_iff.2 ⟨hlen, hall⟩
  exact ⟨⟨_, rfl, hmoves _ _ _ _ rfl⟩, report, b', hrun, hreplies, hlog.trans rfl⟩

end Batch

end SignIn
