import SignIn.Proofs.Attempt
import SignIn.Proofs.Batch.Report

/-!
# Runs of a batch in turns

A batch that works on its requests in turns makes one of the runs that the requests allow: what
it does in a turn are moves of one request, while all other requests stay where they are.

## Main definitions

* `Scene.Leads` — some moves lead from one scene to another one.
* `Course.Agrees` — a course and a scene tell the same.
* `Waits` — the requests that wait for their turns.

## Main results

* `Course.Agrees.turn`, `Course.Agrees.work` — turns are moves.
* `run_runs` — a run in turns is one of the runs.
* `run_reports` — what every run reports, in turns or in any other order.
-/

namespace SignIn

namespace Batch

/-! ### Moves -/

/-- Some moves lead from one scene to another one. -/
def Scene.Leads (policy : RetryPolicy) (requests : List Request) (s s' : Scene) : Prop :=
  ∃ moves : List Move, moves.foldlM (Scene.after? policy requests) s = some s'

namespace Scene.Leads

variable {policy : RetryPolicy} {requests : List Request} {s s₁ s₂ : Scene}

theorem refl (policy : RetryPolicy) (requests : List Request) (s : Scene) :
    s.Leads policy requests s := ⟨[], rfl⟩

theorem trans (h₁ : s.Leads policy requests s₁) (h₂ : s₁.Leads policy requests s₂) :
    s.Leads policy requests s₂ := by
  obtain ⟨moves, hm⟩ := h₁
  obtain ⟨moves', hm'⟩ := h₂
  refine ⟨moves ++ moves', ?_⟩
  rw [List.foldlM_append, hm]
  exact hm'

theorem of_move {m : Move} (h : s.after? policy requests m = some s₁) :
    s.Leads policy requests s₁ := by
  refine ⟨[m], ?_⟩
  rw [List.foldlM_cons, h]
  rfl

end Scene.Leads

/-- Some moves bring one request to a stage and leave all others where they are. -/
structure Scene.Brings (policy : RetryPolicy) (requests : List Request) (i : Nat) (stage : Stage)
    (s s' : Scene) : Prop where
  /-- The moves lead there. -/
  leads : s.Leads policy requests s'
  /-- No request comes or goes. -/
  length : s'.stages.length = s.stages.length
  /-- The one request is at its stage. -/
  self : s'.stages[i]? = some stage
  /-- The others are where they were. -/
  others (j : Nat) (h : j ≠ i) : s'.stages[j]? = s.stages[j]?

namespace Scene.Brings

variable {policy : RetryPolicy} {requests : List Request} {i : Nat} {stage next : Stage}
  {s s₁ s₂ : Scene}

theorem refl (hs : s.stages[i]? = some stage) : Brings policy requests i stage s s :=
  ⟨.refl .., rfl, hs, fun _ _ => rfl⟩

theorem trans (h₁ : Brings policy requests i stage s s₁)
    (h₂ : Brings policy requests i next s₁ s₂) : Brings policy requests i next s s₂ :=
  ⟨h₁.leads.trans h₂.leads, h₂.length.trans h₁.length, h₂.self,
    fun j hj => (h₂.others j hj).trans (h₁.others j hj)⟩

/-- What happens to one request. -/
theorem of_act {a : Act} {r : Request} (hn : s.hasNoticed = false) (hr : requests[i]? = some r)
    (hs : s.stages[i]? = some stage) (ha : stage.after? policy a = some next) :
    Brings policy requests i next s (s.put i next (a.events r next)) where
  leads := .of_move (Scene.after?_act.2 ⟨hn, r, stage, next, hr, hs, ha, rfl⟩)
  length := by rw [stages_put, List.length_set]
  self := by rw [stages_put, List.getElem?_set_self (List.getElem?_eq_some_iff.1 hs).1]
  others j hj := by rw [stages_put, List.getElem?_set_ne (Ne.symm hj)]

end Scene.Brings

/-! ### Courses and scenes -/

/-- The stage of a request that waits for its turn. -/
def Pending.stage (limit : Nat) (q : Pending) : Stage :=
  match q.declined with
  | none => .ready limit
  | some p => .asking p

namespace Course

/-- A course and a scene tell the same of a run. -/
structure Agrees (c : Course) (s : Scene) : Prop where
  /-- The activity is the same. -/
  control : s.control = c.control
  /-- What has happened is the same. -/
  log : s.log = c.log
  /-- The same requests are finished, with the same replies. -/
  replies (i : Nat) : s.stages[i]?.bind Stage.reply? = c.finished.lookup i
  /-- None of them twice. -/
  length : s.done = c.finished.length

namespace Agrees

variable {policy : RetryPolicy} {requests : List Request} {c : Course} {s : Scene}

/-- What happens to a request before it is finished. -/
theorem put (h : Agrees c s) {i : Nat} {stage next : Stage} (hs : s.stages[i]? = some stage)
    (hf : stage.isFinished = false) (events : List Event) (hnext : next.isFinished = false) :
    Agrees { c with log := c.log ++ events } (s.put i next events) where
  control := by
    rw [Scene.put_of_not_finished s i hnext]
    exact h.control
  log := by
    rw [Scene.log_put, h.log]
  replies j := by
    rw [← h.replies j, Scene.stages_put]
    by_cases hij : i = j
    · subst hij
      obtain ⟨hi, -⟩ := List.getElem?_eq_some_iff.1 hs
      rw [List.getElem?_set_self hi, hs]
      exact (Stage.reply?_eq_none hnext).trans (Stage.reply?_eq_none hf).symm
    · rw [List.getElem?_set_ne hij]
  length := by
    rw [Scene.done_put hs hf, hnext]
    exact h.length

/-- A request is finished. -/
theorem finish (h : Agrees c s) {i : Nat} {stage : Stage} (hs : s.stages[i]? = some stage)
    (hf : stage.isFinished = false) (p : Reply) :
    Agrees (c.finish s.stages.length i p) (s.put i (.finished p) []) where
  control := by
    have hcontrol : (s.put i (.finished p) []).control =
      s.control.tell (.progress (s.put i (.finished p) []).done s.stages.length) := rfl
    rw [hcontrol, Scene.done_put hs hf, h.control, h.length]
    rfl
  log := by
    rw [Scene.log_put, List.append_nil, h.log]
    rfl
  replies j := by
    have hlookup : (c.finish s.stages.length i p).finished.lookup j =
        (c.finished.lookup j).or ([(i, p)].lookup j) := List.lookup_append
    rw [hlookup, ← h.replies j, Scene.stages_put]
    by_cases hij : i = j
    · subst hij
      obtain ⟨hi, -⟩ := List.getElem?_eq_some_iff.1 hs
      rw [List.getElem?_set_self hi, hs, List.lookup_cons_self]
      change some p = stage.reply?.or (some p)
      rw [Stage.reply?_eq_none hf, Option.none_or]
    · have hne : (j == i) = false := beq_eq_false_iff_ne.2 (Ne.symm hij)
      have hnone : [(i, p)].lookup j = none := by rw [List.lookup_cons, hne, List.lookup_nil]
      rw [List.getElem?_set_ne hij, hnone, Option.or_none]
  length := by
    rw [Scene.done_put hs hf, h.length, Course.finish, List.length_append]
    rfl

/-- The batch is told to stop, unless it was so before. -/
theorem stop (h : Agrees c s) (policy : RetryPolicy) (requests : List Request) (route : Route) :
    ∃ s', s.Leads policy requests s' ∧ Agrees (c.stop route) s' ∧ s'.stages = s.stages ∧
      s'.hasNoticed = s.hasNoticed := by
  unfold Course.stop
  cases hstop : c.control.isStopped with
  | true => exact ⟨s, .refl .., by rwa [if_pos rfl], rfl, rfl⟩
  | false =>
    refine ⟨s.stop route, .of_move (m := .stop route) rfl, ?_, rfl, rfl⟩
    rw [if_neg Bool.false_ne_true]
    refine ⟨?_, ?_, h.replies, h.length⟩
    · simp only [Scene.stop, h.control]
    · simp only [Scene.stop, h.control, hstop, h.log, Bool.false_eq_true, if_false]

/-- A request is sent. -/
theorem send (h : Agrees c s) (policy : RetryPolicy) {server : Server} {route : Route}
    {i retries : Nat} {r : Request} {c' : Course} {reply : Option Reply}
    (hsend : c.send server route r = (c', reply)) (hn : s.hasNoticed = false)
    (hr : requests[i]? = some r) (hs : s.stages[i]? = some (.ready retries)) :
    ∃ s', s.Brings policy requests i (.underWay retries) s' ∧ Agrees c' s' ∧
      s'.hasNoticed = false := by
  have hbrings : s.Brings policy requests i (.underWay retries)
      (s.put i (.underWay retries) [.sent r]) := .of_act (a := .send) hn hr hs rfl
  have hput : Agrees { c with log := c.log ++ [.sent r] }
      (s.put i (.underWay retries) [.sent r]) := h.put hs rfl _ rfl
  have hn' : (s.put i (.underWay retries) [.sent r]).hasNoticed = false := hn
  unfold Course.send at hsend
  cases hturn : server (sentIn c.log) r with
  | reply p =>
    obtain ⟨rfl, -⟩ : _ = c' ∧ _ := by simpa [hturn] using hsend
    exact ⟨_, hbrings, hput, hn'⟩
  | silence =>
    obtain ⟨rfl, -⟩ : _ = c' ∧ _ := by simpa [hturn] using hsend
    exact ⟨_, hbrings, hput, hn'⟩
  | stopped p =>
    -- the word to stop is a move of its own
    obtain ⟨rfl, -⟩ : _ = c' ∧ _ := by simpa [hturn] using hsend
    obtain ⟨s', hlead, hstop, hstages, hnoticed⟩ := hput.stop policy requests route
    refine ⟨s', ⟨hbrings.leads.trans hlead, ?_, ?_, fun j hj => ?_⟩, hstop, hnoticed.trans hn'⟩
    · rw [hstages, hbrings.length]
    · rw [hstages, hbrings.self]
    · rw [hstages, hbrings.others j hj]

/-- A request is finished with the reply that arrives. -/
theorem receive_finished (h : Agrees c s) {i retries : Nat} {r : Request} {p : Reply}
    (hn : s.hasNoticed = false) (hr : requests[i]? = some r)
    (hs : s.stages[i]? = some (.underWay retries))
    (hp : Stage.received policy retries p = .finished p) :
    ∃ s', s.Brings policy requests i (.finished p) s' ∧
      Agrees (c.finish s.stages.length i p) s' ∧ s'.hasNoticed = c.control.isStopped :=
  ⟨_, .of_act (a := .receive p) hn hr hs (congrArg some hp), h.finish hs rfl p,
    congrArg Control.isStopped h.control⟩

end Agrees

/-! ### Attempts -/

/-- What comes of the attempt to send a request: its stage, and what the course tells. -/
inductive Paused (total i : Nat) (s : Scene) : Stage → Course × Pause → Prop
  /-- It is finished. -/
  | finished {c : Course} {p : Reply} (h : Agrees (c.finish total i p) s)
    (hn : s.hasNoticed = c.control.isStopped) : Paused total i s (.finished p) (c, .finished p)
  /-- Somebody is asked. -/
  | asks {c : Course} {f : Failure} {p : Reply}
    (h : Agrees { c with log := c.log ++ [.asked f] } s) (hn : s.hasNoticed = false) :
    Paused total i s (.asking p) (c, .asks f p)
  /-- No reply arrives. -/
  | silent {c : Course} {retries : Nat} (h : Agrees c s) (hn : s.hasNoticed = false) :
    Paused total i s (.underWay retries) (c, .silent)

namespace Agrees

variable {policy : RetryPolicy} {requests : List Request} {c : Course} {s : Scene} {total : Nat}

/-- A request is sent and finished with its reply. -/
theorem attempt_finished (h : Agrees c s) {server : Server} {route : Route} {i limit : Nat}
    {r : Request} {c₁ : Course} {p : Reply} (hl : s.stages.length = total)
    (hn : s.hasNoticed = false) (hr : requests[i]? = some r)
    (hs : s.stages[i]? = some (.ready limit)) (hsend : c.send server route r = (c₁, some p))
    (hp : Stage.received policy limit p = .finished p) :
    ∃ s' stage, s.Brings policy requests i stage s' ∧
      Paused total i s' stage (c₁, .finished p) := by
  obtain ⟨s₁, hbrings, hagree, hn₁⟩ := h.send policy hsend hn hr hs
  obtain ⟨s₂, hbrings₂, hagree₂, hn₂⟩ := hagree.receive_finished hn₁ hr hbrings.self hp
  rw [hbrings.length, hl] at hagree₂
  exact ⟨s₂, _, hbrings.trans hbrings₂, .finished hagree₂ hn₂⟩

/-- **The attempt to send a request is made of moves.** -/
theorem attempt (h : Agrees c s) (server : Server) (route : Route) {i limit : Nat} {r : Request}
    (hl : s.stages.length = total) (hn : s.hasNoticed = false) (hr : requests[i]? = some r)
    (hs : s.stages[i]? = some (.ready limit)) :
    ∃ s' stage, s.Brings policy requests i stage s' ∧
      Paused total i s' stage (c.attempt server route policy.asks limit r) := by
  fun_induction Course.attempt server route policy.asks limit c r generalizing s with
  | case1 limit c r c₁ hsend =>
    -- no reply arrives
    obtain ⟨s₁, hbrings, hagree, hn₁⟩ := h.send policy hsend hn hr hs
    exact ⟨s₁, _, hbrings, .silent hagree hn₁⟩
  | case2 limit c r c₁ p hsend hf =>
    exact h.attempt_finished hl hn hr hs hsend (by simp [Stage.received, hf])
  | case3 c r c₁ p hsend f hf htransient limit ih =>
    -- the request is sent again
    obtain ⟨s₁, hbrings, hagree, hn₁⟩ := h.send policy hsend hn hr hs
    have hnext : Stage.received policy (limit + 1) p = .ready limit := by
      simp [Stage.received, hf, htransient]
    have hbrings₂ : s₁.Brings policy requests i (.ready limit) (s₁.put i (.ready limit) []) :=
      .of_act (a := .receive p) hn₁ hr hbrings.self (congrArg some hnext)
    have hagree₂ : Agrees c₁ (s₁.put i (.ready limit) []) := by
      simpa using hagree.put hbrings.self rfl [] rfl
    have hbrings' := hbrings.trans hbrings₂
    obtain ⟨s₃, stage, hbrings₃, hpaused⟩ := ih hagree₂ (hbrings'.length.trans hl) hn₁ hr
      hbrings'.self
    exact ⟨s₃, stage, hbrings'.trans hbrings₃, hpaused⟩
  | case4 c r c₁ p hsend f hf htransient =>
    -- it is not, unless somebody says so
    cases hasks : policy.asks with
    | false =>
      rw [if_neg Bool.false_ne_true]
      exact h.attempt_finished hl hn hr hs hsend (by simp [Stage.received, hf, htransient, hasks])
    | true =>
      rw [if_pos rfl]
      obtain ⟨s₁, hbrings, hagree, hn₁⟩ := h.send policy hsend hn hr hs
      have hnext : Stage.received policy 0 p = .asking p := by
        simp [Stage.received, hf, htransient, hasks]
      have hevents : (Act.receive p).events r (.asking p) = [.asked f] := by simp [Act.events, hf]
      have hbrings₂ : s₁.Brings policy requests i (.asking p) (s₁.put i (.asking p) [.asked f]) :=
        hevents ▸ .of_act (a := .receive p) hn₁ hr hbrings.self (congrArg some hnext)
      exact ⟨_, _, hbrings.trans hbrings₂, .asks (hagree.put hbrings.self rfl _ rfl) hn₁⟩
  | case5 limit c r c₁ p hsend f hf htransient =>
    exact h.attempt_finished hl hn hr hs hsend (by simp [Stage.received, hf, htransient])

end Agrees

/-! ### Requests that wait -/

/-- Some requests wait for their turns, each at its place. -/
structure Waits (requests : List Request) (limit : Nat) (s : Scene) (waiting : List Pending) :
    Prop where
  /-- None of them waits twice. -/
  nodup : (waiting.map (·.index)).Nodup
  /-- Each is a request of the batch. -/
  request (q : Pending) (h : q ∈ waiting) : requests[q.index]? = some q.request
  /-- Each stands where it waits. -/
  stage (q : Pending) (h : q ∈ waiting) : s.stages[q.index]? = some (q.stage limit)

namespace Waits

variable {requests : List Request} {limit : Nat} {policy : RetryPolicy} {s s' : Scene}
  {q q' : Pending} {waiting : List Pending} {stage : Stage}

/-- When one has had its turn, the others wait still. -/
theorem tail (h : Waits requests limit s (q :: waiting))
    (hs : s.Brings policy requests q.index stage s') : Waits requests limit s' waiting := by
  obtain ⟨hq, hnodup⟩ := List.nodup_cons.1 h.nodup
  refine ⟨hnodup, fun q' hq' => h.request q' (.tail _ hq'), fun q' hq' => ?_⟩
  have hne : q'.index ≠ q.index := fun hi => hq (List.mem_map.2 ⟨q', hq', hi⟩)
  rw [hs.others _ hne]
  exact h.stage q' (.tail _ hq')

/-- One that has had its turn may wait for another one. -/
theorem again (h : Waits requests limit s (q :: waiting))
    (hs : s.Brings policy requests q.index (q'.stage limit) s') (hi : q'.index = q.index)
    (hr : q'.request = q.request) : Waits requests limit s' (waiting ++ [q']) := by
  have htail := h.tail hs
  obtain ⟨hq, -⟩ := List.nodup_cons.1 h.nodup
  refine ⟨?_, fun p hp => ?_, fun p hp => ?_⟩
  · rw [List.map_append, List.nodup_append]
    refine ⟨htail.nodup, by simp, fun i hi' j hj => ?_⟩
    obtain rfl : j = q.index := by simpa [hi] using hj
    rintro rfl
    exact hq hi'
  · obtain hp | hp := List.mem_append.1 hp
    · exact htail.request p hp
    · obtain rfl := List.mem_singleton.1 hp
      rw [hi, hr]
      exact h.request q (.head _)
  · obtain hp | hp := List.mem_append.1 hp
    · exact htail.stage p hp
    · obtain rfl := List.mem_singleton.1 hp
      rw [hi]
      exact hs.self

end Waits

/-! ### Turns -/

/-- What comes of the turn of a request: its stage, and what the course tells. -/
inductive Turned (limit total : Nat) (q : Pending) (s : Scene) : Stage → Course × Next → Prop
  /-- It is finished. -/
  | finished {c : Course} {p : Reply} (h : Agrees (c.finish total q.index p) s)
    (hn : s.hasNoticed = c.control.isStopped) :
    Turned limit total q s (.finished p) (c, .finished p)
  /-- It waits for another turn. -/
  | again {c : Course} {q' : Pending} {stage : Stage} (h : Agrees c s) (hn : s.hasNoticed = false)
    (hi : q'.index = q.index) (hr : q'.request = q.request) (hstage : q'.stage limit = stage) :
    Turned limit total q s stage (c, .again q')
  /-- Nothing more happens to it. -/
  | silent {c : Course} {retries : Nat} (h : Agrees c s) (hn : s.hasNoticed = false) :
    Turned limit total q s (.underWay retries) (c, .silent)

/-- **The turn of a request is made of moves.** -/
theorem Agrees.turn {policy : RetryPolicy} {requests : List Request} {c : Course} {s : Scene}
    {total : Nat} (h : Agrees c s) {server : Server} {route : Route} {q : Pending}
    {waiting : List Pending} {result : Course × Next} (hl : s.stages.length = total)
    (hn : s.hasNoticed = false) (hw : Waits requests policy.limit s (q :: waiting))
    (hturn : c.turn server route policy q = result) :
    ∃ s' stage, s.Brings policy requests q.index stage s' ∧
      Turned policy.limit total q s' stage result := by
  have hr := hw.request q (.head _)
  have hs := hw.stage q (.head _)
  rw [← hturn]
  unfold Course.turn
  unfold Pending.stage at hs
  cases hd : q.declined with
  | some p =>
    -- going on was declined
    rw [hd] at hs
    exact ⟨_, _, .of_act (a := .answer false) hn hr hs rfl,
      .finished (hl ▸ h.finish hs rfl p) (congrArg Control.isStopped h.control)⟩
  | none =>
    rw [hd] at hs
    obtain ⟨s₁, stage, hbrings, hpaused⟩ := h.attempt server route hl hn hr hs
    dsimp only
    generalize c.attempt server route policy.asks policy.limit q.request = result at hpaused ⊢
    cases hpaused with
    | finished hagree hn₁ => exact ⟨s₁, _, hbrings, .finished hagree hn₁⟩
    | silent hagree hn₁ => exact ⟨s₁, _, hbrings, .silent hagree hn₁⟩
    | @asks c₁ f p hagree hn₁ =>
      -- the answers that are left do not show in a scene
      have hask : Agrees (c₁.ask f).1 s₁ :=
        ⟨hagree.control, hagree.log, hagree.replies, hagree.length⟩
      dsimp only
      cases hyes : (c₁.ask f).2 with
      | false => exact ⟨s₁, _, hbrings, .again hask hn₁ rfl rfl rfl⟩
      | true =>
        have hput : Agrees (c₁.ask f).1 (s₁.put q.index (.ready policy.limit) []) := by
          simpa using hask.put hbrings.self rfl [] rfl
        exact ⟨_, _, hbrings.trans (.of_act (a := .answer true) hn₁ hr hbrings.self rfl),
          .again hput hn₁ rfl rfl rfl⟩

/-- **All turns are made of moves.** -/
theorem Agrees.work {policy : RetryPolicy} {requests : List Request} {c : Course} {s : Scene}
    {total : Nat} {now later : List Pending} (h : Agrees c s) (server : Server) (route : Route)
    (hl : s.stages.length = total) (hn : s.hasNoticed = false)
    (hw : Waits requests policy.limit s (now ++ later)) :
    ∃ s', s.Leads policy requests s' ∧ Agrees (c.work server route policy total now later) s' := by
  fun_induction Course.work server route policy total c now later generalizing s with
  | case1 c => exact ⟨s, .refl .., h⟩
  | case2 c q later hstop => exact ⟨s, .refl .., h⟩
  | case3 c q later hstop ih => exact ih h hl hn (by simpa using hw)
  | case4 c q now later c₁ p hturn =>
    -- the batch has noticed that it is told to stop
    obtain ⟨s₁, stage, hbrings, hturned⟩ := h.turn hl hn hw hturn
    cases hturned with
    | finished hagree => exact ⟨s₁, hbrings.leads, hagree⟩
  | case5 c q now later c₁ p hturn c₂ hstop =>
    rename_i ih
    obtain ⟨s₁, stage, hbrings, hturned⟩ := h.turn hl hn hw hturn
    cases hturned with
    | finished hagree hn₁ =>
      have hgoing : s₁.hasNoticed = false := by
        rw [hn₁]
        exact eq_false_of_ne_true hstop
      obtain ⟨s₂, hlead, hagree₂⟩ := ih hagree (hbrings.length.trans hl) hgoing (hw.tail hbrings)
      exact ⟨s₂, hbrings.leads.trans hlead, hagree₂⟩
  | case6 c q now later c₁ hturn ih =>
    obtain ⟨s₁, stage, hbrings, hturned⟩ := h.turn hl hn hw hturn
    cases hturned with
    | silent hagree hn₁ =>
      obtain ⟨s₂, hlead, hagree₂⟩ := ih hagree (hbrings.length.trans hl) hn₁ (hw.tail hbrings)
      exact ⟨s₂, hbrings.leads.trans hlead, hagree₂⟩
  | case7 c q now later c₁ q' hturn ih =>
    obtain ⟨s₁, stage, hbrings, hturned⟩ := h.turn hl hn hw hturn
    cases hturned with
    | again hagree hn₁ hi hr hstage =>
      rw [← hstage] at hbrings
      have hwaits : Waits requests policy.limit s₁ (now ++ later ++ [q']) :=
        hw.again hbrings hi hr
      rw [List.append_assoc] at hwaits
      obtain ⟨s₂, hlead, hagree₂⟩ := ih hagree (hbrings.length.trans hl) hn₁ hwaits
      exact ⟨s₂, hbrings.leads.trans hlead, hagree₂⟩

/-- The batch is told to stop if nothing else would end its run. -/
theorem Agrees.release {policy : RetryPolicy} {requests : List Request} {c : Course} {s : Scene}
    {total : Nat} (h : Agrees c s) (hl : s.stages.length = total) (hlive : IsLive s.control)
    (route : Route) :
    ∃ s', s.Leads policy requests s' ∧ Agrees (c.release route total) s' ∧
      (s'.control.isStopped = true ∨ ∀ stage ∈ s'.stages, stage.isFinished = true) := by
  unfold Course.release
  split
  · obtain ⟨s', hlead, hagree, -, -⟩ := h.stop policy requests route
    refine ⟨s', hlead, hagree, .inl ?_⟩
    rw [hagree.control]
    unfold Course.stop
    split
    · assumption
    · exact ((h.control ▸ hlive).stop route).2
  · rename_i hlt
    have hall : s.stages.countP (·.isFinished) = s.stages.length := by
      have hle := s.done_le_length
      have hdone := h.length
      unfold Scene.done at hle hdone
      omega
    exact ⟨s, .refl .., h, .inr (List.countP_eq_length.1 hall)⟩

/-- The replies at the end are those of the scene. -/
theorem Agrees.repliesAt_eq {b : Batch} {c : Course} {s : Scene} (h : Agrees c s)
    (hl : s.stages.length = b.requests.length) :
    (b.requests.zipIdx.map fun (r, i) => finalReply c.finished i r) = b.repliesAt s := by
  apply List.ext_getElem?
  intro i
  rw [repliesAt, List.getElem?_map, List.getElem?_zipIdx, List.getElem?_zipWith]
  cases hr : b.requests[i]? with
  | none => rfl
  | some r =>
    have hi : i < s.stages.length := hl ▸ (List.getElem?_eq_some_iff.1 hr).1
    have hreply := h.replies i
    rw [List.getElem?_eq_getElem hi] at hreply ⊢
    simp only [Option.map_some, finalReply, Nat.zero_add, ← hreply, Option.bind_some]

end Course

/-! ### Whole runs -/

/-- At the beginning all requests wait. -/
theorem waits_scene (b : Batch) :
    Course.Waits b.requests b.policy.limit b.scene
      (b.requests.zipIdx.map fun (r, i) => ⟨i, r, none⟩) := by
  have hplace (q : Pending) (hq : q ∈ b.requests.zipIdx.map fun (r, i) => ⟨i, r, none⟩) :
      b.requests[q.index]? = some q.request ∧ q.declined = none := by
    obtain ⟨⟨r, i⟩, hr, rfl⟩ := List.mem_map.1 hq
    exact ⟨List.mk_mem_zipIdx_iff_getElem?.1 hr, rfl⟩
  refine ⟨?_, fun q hq => (hplace q hq).1, fun q hq => ?_⟩
  · rw [List.map_map]
    change (b.requests.zipIdx.map Prod.snd).Nodup
    rw [List.zipIdx_map_snd]
    exact List.nodup_range'
  · obtain ⟨hr, hd⟩ := hplace q hq
    change (b.requests.map fun _ => Stage.ready b.policy.limit)[q.index]? = _
    rw [List.getElem?_map, hr, Pending.stage, hd]
    rfl

/-- A course agrees with the beginning if nothing has happened in it. -/
theorem agrees_scene (b : Batch) (answers : List Bool) :
    Course.Agrees ⟨b.scene.control, b.log, [], answers⟩ b.scene := by
  refine ⟨rfl, rfl, fun i => ?_, done_scene b⟩
  cases hi : b.scene.stages[i]? with
  | none => rfl
  | some stage =>
    rw [eq_ready_of_scene hi]
    rfl

/-- A batch that is told to stop before has no turns. -/
theorem Course.work_of_isStopped {c : Course} (h : c.control.isStopped = true) (server : Server)
    (route : Route) (policy : RetryPolicy) (total : Nat) (waiting : List Pending) :
    c.work server route policy total [] waiting = c := by
  cases waiting with
  | nil => rw [work]
  | cons q waiting => rw [work, if_pos h]

/-- **A run in turns is one of the runs.** -/
theorem run_runs {b : Batch} (h : b.control.activity.phase = .inactive) (server : Server)
    (route : Route) (answers : Option (List Bool)) :
    ∃ moves s, b.Runs answers.isSome moves s ∧ b.run server route answers = .ok (b.ended s) := by
  have hagree := agrees_scene b (answers.getD [])
  obtain ⟨s₁, hlead₁, hagree₁⟩ : ∃ s₁, b.scene.Leads (b.policyFor answers.isSome) b.requests s₁ ∧
      (Course.work server route (b.policyFor answers.isSome) b.requests.length
        ⟨b.scene.control, b.log, [], answers.getD []⟩ []
        (b.requests.zipIdx.map fun (r, i) => ⟨i, r, none⟩)).Agrees s₁ := by
    cases hs : b.control.isStopped with
    | true =>
      rw [Course.work_of_isStopped hs]
      exact ⟨b.scene, .refl .., hagree⟩
    | false =>
      exact hagree.work server route (Sound.start h).length_stages hs (waits_scene b)
  obtain ⟨moves₁, hmoves₁⟩ := hlead₁
  have hsound₁ := Sound.of_scene? h hmoves₁
  obtain ⟨s₂, hlead₂, hagree₂, hover⟩ := hagree₁.release hsound₁.length_stages hsound₁.live route
  obtain ⟨moves₂, hmoves₂⟩ := Scene.Leads.trans ⟨moves₁, hmoves₁⟩ hlead₂
  have hsound₂ := Sound.of_scene? h hmoves₂
  refine ⟨moves₂, s₂, ⟨h, hmoves₂, hover⟩, ?_⟩
  have hreplies := hagree₂.repliesAt_eq hsound₂.length_stages
  rw [run, if_pos h, ended, ← hreplies, hagree₂.control, hagree₂.log]
  rfl

/-- **What a batch reports**, in whatever order its requests follow each other: its runs in turns
are such runs, and it has no run after it has started. -/
theorem run_reports (b : Batch) :
    (∀ canAsk moves s, b.Runs canAsk moves s →
      b.Reports canAsk moves s (b.ended s).1 (b.ended s).2) ∧
    ∀ server route answers, match b.run server route answers with
      | .ok result => ∃ moves s, b.Runs answers.isSome moves s ∧ result = b.ended s
      | .error e => b.control.activity.phase ≠ .inactive ∧
        e = .activityStarted b.control.activity.name := by
  refine ⟨fun _ _ _ => Runs.reports, fun server route answers => ?_⟩
  by_cases h : b.control.activity.phase = .inactive
  · obtain ⟨moves, s, hruns, heq⟩ := run_runs h server route answers
    rw [heq]
    exact ⟨moves, s, hruns, rfl⟩
  · rw [run, if_neg h]
    exact ⟨h, rfl⟩

/-- A request for some data. -/
def someRequest : Request :=
  .download ⟨"https", some ⟨"", "", .name "x.test", none⟩, .rooted ["a"], none, none⟩

/-- The data. -/
def someReply : Reply := .ofResponse someRequest.url 200 [] []

/-- A batch of one request. -/
def single : Batch := { new "job" with requests := [someRequest] }

/-- A request that is finished when its batch has been cancelled has its reply, but it is not shown
as done. -/
theorem run_single_unshown :
    ∃ report b', single.run (fun _ _ => .stopped someReply) .activity none = .ok (report, b') ∧
      report.replies = [someReply] ∧ b'.control.activity.snapshot.progress = ⟨0, 1⟩ := by
  have hrun : single.run (fun _ _ => .stopped someReply) .activity none =
      .ok (⟨.aborted, [someReply], none⟩,
        { single with
          control := ⟨⟨"job", ⟨.aborted, ⟨0, 1⟩, "", none⟩, 3⟩, true⟩
          log := [.sent someRequest, .stopped] }) := by
    have hf : someReply.failure = none := rfl
    simp [single, new, run, Course.work_single, Course.send, Course.finish, Course.stop,
      Course.release, finalReply, fault?, conclude, RetryPolicy.disabled, Control.new, Control.tell,
      Control.stop, Control.cancel, Activity.new, Activity.tell, Activity.update, Activity.phase,
      Snapshot.initial, Snapshot.after?, Phase.isTerminal, hf]
  exact ⟨_, _, hrun, rfl, rfl⟩

end Batch

end SignIn
