import SignIn.Proofs.Batch.Report
import SignIn.Proofs.Batch.Tried

/-!
# Where a request stands

Each request of a batch has a story of its own, told by its replies and by the answers about it,
whatever happens to other requests in between.  Every answer by yes opens another block of tries.

## Main definitions

* `actsOf`, `repliesIn`, `answersIn`, `sendsIn` — what happens to one request.
* `Stands` — where a request stands, told by its replies and its answers alone.
* `told` — what the log gains by an act.
* `Retries` — what happens to one request, up to some moment.

## Main results

* `Stands.step` — what one act does to a request.
* `Retries.of_scene?`, `Retries.sends_le` — what happens to a request, and how often it is sent.
* `log_of_act` — what an act adds to the log.
-/

namespace SignIn

namespace Batch

/-! ### The story of one request -/

/-- What a move does to the request of a place. -/
def Move.act? (i : Nat) : Move → Option Act
  | .act j a => if j = i then some a else none
  | .stop _ => none

/-- What happens to the request of a place, in order. -/
def actsOf (i : Nat) (moves : List Move) : List Act := moves.filterMap (Move.act? i)

/-- The replies that arrive, in order. -/
def repliesIn (acts : List Act) : List Reply :=
  acts.filterMap fun
    | .receive p => some p
    | _ => none

/-- The answers that are given, in order. -/
def answersIn (acts : List Act) : List Bool :=
  acts.filterMap fun
    | .answer yes => some yes
    | _ => none

/-- How often the request is sent. -/
def sendsIn (acts : List Act) : Nat := acts.count .send

@[simp] theorem repliesIn_concat_send (acts : List Act) :
    repliesIn (acts ++ [.send]) = repliesIn acts := by simp [repliesIn]

@[simp] theorem repliesIn_concat_receive (acts : List Act) (p : Reply) :
    repliesIn (acts ++ [.receive p]) = repliesIn acts ++ [p] := by simp [repliesIn]

@[simp] theorem repliesIn_concat_answer (acts : List Act) (yes : Bool) :
    repliesIn (acts ++ [.answer yes]) = repliesIn acts := by simp [repliesIn]

@[simp] theorem answersIn_concat_send (acts : List Act) :
    answersIn (acts ++ [.send]) = answersIn acts := by simp [answersIn]

@[simp] theorem answersIn_concat_receive (acts : List Act) (p : Reply) :
    answersIn (acts ++ [.receive p]) = answersIn acts := by simp [answersIn]

@[simp] theorem answersIn_concat_answer (acts : List Act) (yes : Bool) :
    answersIn (acts ++ [.answer yes]) = answersIn acts ++ [yes] := by simp [answersIn]

@[simp] theorem sendsIn_concat_send (acts : List Act) :
    sendsIn (acts ++ [.send]) = sendsIn acts + 1 := by simp [sendsIn]

@[simp] theorem sendsIn_concat_receive (acts : List Act) (p : Reply) :
    sendsIn (acts ++ [.receive p]) = sendsIn acts := by simp [sendsIn]

@[simp] theorem sendsIn_concat_answer (acts : List Act) (yes : Bool) :
    sendsIn (acts ++ [.answer yes]) = sendsIn acts := by simp [sendsIn]

theorem actsOf_concat (i : Nat) (moves : List Move) (m : Move) :
    actsOf i (moves ++ [m]) = actsOf i moves ++ (m.act? i).toList := by
  unfold actsOf
  rw [List.filterMap_append]
  cases h : m.act? i with
  | none => simp [h]
  | some a => simp [h]

/-! ### Where a request stands -/

/-- How many replies a request waits for. -/
def Stage.awaited : Stage → Nat
  | .underWay _ => 1
  | _ => 0

/-- Where a request stands, told by its replies and by the answers about it.  A block of tries has
one try more than the limit of the policy allows to repeat, and every answer by yes opens a
block. -/
inductive Stands (policy : RetryPolicy) (ps : List Reply) (answers : List Bool) : Stage → Prop
  /-- It can be sent; what is left of the limit is what its block has not used. -/
  | ready {yes retries : Nat} (hanswers : answers = List.replicate yes true)
    (hasks : 0 < yes → policy.asks = true) (hps : ∀ p ∈ ps, p.mayPass = true)
    (hle : retries ≤ policy.limit)
    (hlen : ps.length + retries = yes * (policy.limit + 1) + policy.limit) :
    Stands policy ps answers (.ready retries)
  /-- It was sent. -/
  | underWay {yes retries : Nat} (hanswers : answers = List.replicate yes true)
    (hasks : 0 < yes → policy.asks = true) (hps : ∀ p ∈ ps, p.mayPass = true)
    (hle : retries ≤ policy.limit)
    (hlen : ps.length + retries = yes * (policy.limit + 1) + policy.limit) :
    Stands policy ps answers (.underWay retries)
  /-- A block is used up, and somebody is asked about its last reply. -/
  | asking {yes : Nat} {p : Reply} (hanswers : answers = List.replicate yes true)
    (hasks : policy.asks = true) (hps : ∀ p ∈ ps, p.mayPass = true) (hlast : ps.getLast? = some p)
    (hlen : ps.length = (yes + 1) * (policy.limit + 1)) :
    Stands policy ps answers (.asking p)
  /-- It is finished in its last block; somebody has answered by no if the last reply may pass,
  unless nobody is asked. -/
  | finished {yes : Nat} {p : Reply}
    (hanswers : answers =
      List.replicate yes true ++ if policy.asks && p.mayPass then [false] else [])
    (hasks : 0 < yes → policy.asks = true)
    (htried : Tried ((yes + 1) * (policy.limit + 1)) ps p)
    (hlen : yes * (policy.limit + 1) < ps.length) :
    Stands policy ps answers (.finished p)

/-- What follows from a reply. -/
theorem Stage.received_eq (policy : RetryPolicy) (retries : Nat) (p : Reply) :
    Stage.received policy retries p =
      if p.mayPass then
        match retries with
        | retries + 1 => .ready retries
        | 0 => if policy.asks then .asking p else .finished p
      else .finished p := by
  unfold Stage.received Reply.mayPass
  cases p.failure with
  | none => rfl
  | some f => rfl

@[simp] theorem Stage.awaited_received (policy : RetryPolicy) (retries : Nat) (p : Reply) :
    (Stage.received policy retries p).awaited = 0 := by
  rw [Stage.received_eq]
  repeat' split
  all_goals rfl

/-- A request is sent one time after the other: it is not sent while a reply is awaited. -/
theorem sendsIn_concat {policy : RetryPolicy} {acts : List Act} {stage next : Stage} {a : Act}
    (h : sendsIn acts = (repliesIn acts).length + stage.awaited)
    (ha : stage.after? policy a = some next) :
    sendsIn (acts ++ [a]) = (repliesIn (acts ++ [a])).length + next.awaited := by
  cases stage with
  | finished p => cases ha
  | ready retries =>
    cases a with
    | send =>
      obtain rfl := Option.some.inj ha
      simpa [Stage.awaited] using h
    | receive p => cases ha
    | answer yes => cases ha
  | underWay retries =>
    cases a with
    | receive p =>
      obtain rfl := Option.some.inj ha
      rw [sendsIn_concat_receive, repliesIn_concat_receive, Stage.awaited_received,
        List.length_append]
      exact h
    | send => cases ha
    | answer yes => cases ha
  | asking p =>
    cases a with
    | answer yes =>
      cases yes <;> obtain rfl := Option.some.inj ha <;> simpa [Stage.awaited] using h
    | send => cases ha
    | receive p => cases ha

/-- Where nobody is asked, nobody has answered by yes. -/
theorem eq_zero_of_not_asks {policy : RetryPolicy} {yes : Nat}
    (hasks : 0 < yes → policy.asks = true) (h : policy.asks = false) : yes = 0 := by
  by_contra hne
  have htrue := hasks (Nat.pos_of_ne_zero hne)
  rw [h] at htrue
  cases htrue

namespace Stands

variable {policy : RetryPolicy} {ps : List Reply} {answers : List Bool}

/-- At first a request can be sent. -/
theorem start (policy : RetryPolicy) : Stands policy [] [] (.ready policy.limit) := by
  have hanswers : ([] : List Bool) = List.replicate 0 true := rfl
  apply Stands.ready hanswers
  · intro hyes
    exact absurd hyes (Nat.lt_irrefl 0)
  · exact List.forall_mem_nil _
  · exact Nat.le_refl _
  · simp

/-- What a reply makes of a request that was sent. -/
theorem receive {retries : Nat} (h : Stands policy ps answers (.underWay retries)) (p : Reply) :
    Stands policy (ps ++ [p]) answers (Stage.received policy retries p) := by
  cases h with
  | @underWay yes _ hanswers hasks hps hle hlen =>
    rw [Stage.received_eq]
    have hblock : (yes + 1) * (policy.limit + 1) =
        yes * (policy.limit + 1) + (policy.limit + 1) := Nat.succ_mul _ _
    have hlen' : (ps ++ [p]).length = ps.length + 1 := List.length_append
    have hall (hp : p.mayPass = true) : ∀ q ∈ ps ++ [p], q.mayPass = true := by
      intro q hq
      rcases List.mem_append.1 hq with hq | hq
      · exact hps q hq
      · rwa [List.mem_singleton.1 hq]
    cases hp : p.mayPass with
    | false =>
      -- the reply is a success, or a failure that stays
      rw [if_neg Bool.false_ne_true]
      have hno : answers =
          List.replicate yes true ++ if policy.asks && p.mayPass then [false] else [] := by
        simpa [hp] using hanswers
      apply Stands.finished hno hasks
      · apply Tried.concat hps
        · omega
        · intro hpass
          rw [hp] at hpass
          cases hpass
      · omega
    | true =>
      rw [if_pos rfl]
      cases retries with
      | succ retries => exact .ready hanswers hasks (hall hp) (by omega) (by omega)
      | zero =>
        cases hpolicy : policy.asks with
        | true =>
          exact .asking hanswers hpolicy (hall hp) List.getLast?_concat (by omega)
        | false =>
          -- nobody is asked, so that this was the only block
          obtain rfl : yes = 0 := eq_zero_of_not_asks hasks hpolicy
          have hno : answers =
              List.replicate 0 true ++ if policy.asks && p.mayPass then [false] else [] := by
            simpa [hpolicy] using hanswers
          apply Stands.finished hno hasks
          · apply Tried.concat hps
            · omega
            · intro _
              omega
          · omega

/-- What an answer makes of a request that somebody is asked about. -/
theorem answer {p : Reply} (h : Stands policy ps answers (.asking p)) (yes : Bool) :
    Stands policy ps (answers ++ [yes]) (if yes then .ready policy.limit else .finished p) := by
  cases h with
  | @asking n _ hanswers hasks hps hlast hlen =>
    have hblock : (n + 1) * (policy.limit + 1) =
        n * (policy.limit + 1) + (policy.limit + 1) := Nat.succ_mul _ _
    cases yes with
    | true =>
      rw [if_pos rfl]
      have hmore : answers ++ [true] = List.replicate (n + 1) true := by
        rw [hanswers, List.replicate_succ']
      apply Stands.ready hmore
      · intro _
        exact hasks
      · exact hps
      · exact Nat.le_refl _
      · omega
    | false =>
      rw [if_neg Bool.false_ne_true]
      have hp : p.mayPass = true := hps p (List.mem_of_getLast? hlast)
      have hno : answers ++ [false] =
          List.replicate n true ++ if policy.asks && p.mayPass then [false] else [] := by
        simp [hasks, hp, hanswers]
      have htried : Tried ((n + 1) * (policy.limit + 1)) ps p := by
        constructor
        case last => exact hlast
        case before =>
          intro q hq
          exact hps q (List.dropLast_subset _ hq)
        case length_le => exact Nat.le_of_eq hlen
        case length_eq =>
          intro _
          exact hlen
      apply Stands.finished hno
      · intro _
        exact hasks
      · exact htried
      · omega

/-- **What one act does to a request.** -/
theorem step {acts : List Act} {stage next : Stage} {a : Act}
    (h : Stands policy (repliesIn acts) (answersIn acts) stage)
    (ha : stage.after? policy a = some next) :
    Stands policy (repliesIn (acts ++ [a])) (answersIn (acts ++ [a])) next := by
  cases stage with
  | finished p => cases ha
  | ready retries =>
    cases a with
    | receive p => cases ha
    | answer yes => cases ha
    | send =>
      obtain rfl := Option.some.inj ha
      rw [repliesIn_concat_send, answersIn_concat_send]
      cases h with
      | ready hanswers hasks hps hle hlen => exact .underWay hanswers hasks hps hle hlen
  | underWay retries =>
    cases a with
    | send => cases ha
    | answer yes => cases ha
    | receive p =>
      obtain rfl := Option.some.inj ha
      rw [repliesIn_concat_receive, answersIn_concat_receive]
      exact h.receive p
  | asking p =>
    cases a with
    | send => cases ha
    | receive p => cases ha
    | answer yes =>
      have hnext : (if yes then Stage.ready policy.limit else .finished p) = next := by
        cases yes <;> exact Option.some.inj ha
      rw [repliesIn_concat_answer, answersIn_concat_answer, ← hnext]
      exact h.answer yes

end Stands

/-! ### What the log tells -/

/-- What the log gains by an act, given the replies that the request has had before. -/
def told (policy : RetryPolicy) (r : Request) (ps : List Reply) : Act → List Event
  | .send => [.sent r]
  | .receive p => question policy (ps.length + 1) p
  | .answer _ => []

/-- A block ends where its limit is used up. -/
theorem mod_eq_zero_iff {yes n limit retries : Nat} (hle : retries ≤ limit)
    (hlen : n + retries = yes * (limit + 1) + limit) :
    (n + 1) % (limit + 1) = 0 ↔ retries = 0 := by
  have hn : n + 1 = yes * (limit + 1) + (limit + 1 - retries) := by omega
  rw [hn, ← Nat.dvd_iff_mod_eq_zero, Nat.dvd_add_right (Nat.dvd_mul_left _ _)]
  constructor
  · intro hdvd
    have := Nat.le_of_dvd (by omega) hdvd
    omega
  · rintro rfl
    exact Nat.dvd_refl _

/-- **What an act adds to the log** is told by the replies before it. -/
theorem Stands.events_eq {policy : RetryPolicy} {ps : List Reply} {answers : List Bool}
    {stage next : Stage} {a : Act} (h : Stands policy ps answers stage)
    (ha : stage.after? policy a = some next) (r : Request) :
    a.events r next = told policy r ps a := by
  cases a with
  | send => rfl
  | answer yes => rfl
  | receive p =>
    cases h with
    | ready | asking | finished => cases ha
    | @underWay yes retries hanswers hasks hps hle hlen =>
      obtain rfl := Option.some.inj ha
      have hblock := mod_eq_zero_iff hle hlen
      rw [Stage.received_eq, told, question]
      cases hp : p.mayPass with
      | false => simp [Act.events]
      | true =>
        cases retries with
        | succ retries => simp [Act.events, hblock]
        | zero => cases hpolicy : policy.asks <;> simp [Act.events, hblock]

/-! ### Whole runs -/

/-- What happens to one request of a batch, up to some moment of a run. -/
structure Retries (policy : RetryPolicy) (acts : List Act) (stage : Stage) : Prop where
  /-- It is sent one time after the other. -/
  sends : sendsIn acts = (repliesIn acts).length + stage.awaited
  /-- Its replies and the answers about it tell where it stands. -/
  stands : Stands policy (repliesIn acts) (answersIn acts) stage

/-- **What happens to one request**, at every moment of a run and whatever happens to the others.
What its acts add to the log is told by its own replies. -/
theorem Retries.of_scene? {b : Batch} {canAsk : Bool} {moves : List Move} {s : Scene}
    (h : b.scene? canAsk moves = some s) {i : Nat} {r : Request} (hr : b.requests[i]? = some r) :
    ∃ stage, s.stages[i]? = some stage ∧ Retries (b.policyFor canAsk) (actsOf i moves) stage := by
  induction h using scene?_induction with
  | start =>
    have hready : b.scene.stages[i]? = some (.ready b.policy.limit) := by
      rw [scene, List.getElem?_map, hr, Option.map_some]
    exact ⟨.ready b.policy.limit, hready, rfl, Stands.start (b.policyFor canAsk)⟩
  | @move moves m s₁ s' _ hm ih =>
    obtain ⟨stage, hstage, hretries⟩ := ih
    rw [actsOf_concat]
    cases m with
    | stop route =>
      obtain rfl := Option.some.inj hm
      refine ⟨stage, hstage, ?_⟩
      simpa [Move.act?] using hretries
    | act j a =>
      obtain ⟨-, r', stage', next, -, hstage', ha, rfl⟩ := Scene.after?_act.1 hm
      rw [Scene.stages_put]
      by_cases hij : j = i
      · subst hij
        obtain rfl : stage = stage' := Option.some.inj (hstage.symm.trans hstage')
        have hj : j < s₁.stages.length := (List.getElem?_eq_some_iff.1 hstage).1
        refine ⟨next, List.getElem?_set_self hj, ?_⟩
        rw [Move.act?, if_pos rfl, Option.toList_some]
        exact ⟨sendsIn_concat hretries.sends ha, hretries.stands.step ha⟩
      · -- the act is about another request
        refine ⟨stage, by rw [List.getElem?_set_ne hij, hstage], ?_⟩
        rw [Move.act?, if_neg hij, Option.toList_none, List.append_nil]
        exact hretries

/-- What an act adds to the log, in whatever order the requests follow each other. -/
theorem log_of_act {b : Batch} {canAsk : Bool} {moves : List Move} {s s' : Scene} {i : Nat}
    {a : Act} {r : Request} (hr : b.requests[i]? = some r) (h : b.scene? canAsk moves = some s)
    (h' : b.scene? canAsk (moves ++ [.act i a]) = some s') :
    s'.log = s.log ++ told (b.policyFor canAsk) r (repliesIn (actsOf i moves)) a := by
  rw [scene?_concat, h, Option.bind_some] at h'
  obtain ⟨-, r', stage', next, hr', hstage', ha, rfl⟩ := Scene.after?_act.1 h'
  obtain ⟨stage, hstage, hretries⟩ := Retries.of_scene? h hr
  obtain rfl : stage = stage' := Option.some.inj (hstage.symm.trans hstage')
  obtain rfl : r = r' := Option.some.inj (hr.symm.trans hr')
  rw [Scene.log_put, hretries.stands.events_eq ha]

/-- A block of tries for every answer by yes, and one before them: that is as often as a request
is sent. -/
theorem Retries.sends_le {policy : RetryPolicy} {acts : List Act} {stage : Stage}
    (h : Retries policy acts stage) :
    sendsIn acts ≤ ((answersIn acts).count true + 1) * (policy.limit + 1) := by
  obtain ⟨hsends, hstands⟩ := h
  have hcount (yes : Nat) : (List.replicate yes true).count true = yes := List.count_replicate_self
  have hblock (yes : Nat) : (yes + 1) * (policy.limit + 1) =
      yes * (policy.limit + 1) + (policy.limit + 1) := Nat.succ_mul _ _
  rw [hsends]
  cases hstands with
  | @ready yes retries hanswers hasks hps hle hlen =>
    rw [hanswers, hcount, hblock]
    change (repliesIn acts).length + 0 ≤ _
    omega
  | @underWay yes retries hanswers hasks hps hle hlen =>
    rw [hanswers, hcount, hblock]
    change (repliesIn acts).length + 1 ≤ _
    omega
  | @asking yes p hanswers hasks hps hlast hlen =>
    rw [hanswers, hcount]
    exact Nat.le_of_eq hlen
  | @finished yes p hanswers hasks htried hlen =>
    have hno : (if policy.asks && p.mayPass then [false] else []).count true = 0 := by
      split <;> rfl
    rw [hanswers, List.count_append, hcount, hno]
    exact htried.length_le

end Batch

end SignIn
