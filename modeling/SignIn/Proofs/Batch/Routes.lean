import SignIn.Proofs.Batch.Course
import SignIn.Proofs.Batch.Turns

/-!
# The two ways of being told to stop

A batch is told to stop by cancelling its activity, which ends there and then for those who watch
it, or by cancelling a token that it depends on, and then its activity runs until the batch notices.
The batch itself does the same either way: it looks whether it is told to stop, and not how.  So
two runs that differ in nothing but the routes send the same requests, ask the same questions and
report the same.  Only the progress that is shown may differ.

## Main definitions

* `Alike` — two controls that differ in how they were told to stop.
* `Scene.Alike`, `Course.Alike` — two runs at the same point.
* `Move.along` — a move by another route.
* `EndsAlike` — two runs that end alike.

## Main results

* `Scene.Alike.step`, `Scene.Alike.run` — one move and all moves by other routes.
* `Course.Alike.turn`, `Course.Alike.work` — one turn and all turns.
* `run_routes` — the route makes no difference.
-/

namespace SignIn

namespace Batch

/-! ### Controls -/

/-- Two controls of a batch that differ at most in how it was told to stop, and in the progress
that is shown. -/
structure Alike (c c' : Control) : Prop where
  /-- The one has not ended by itself, -/
  live : IsLive c
  /-- nor has the other. -/
  live' : IsLive c'
  /-- Either both are told to stop, or neither is. -/
  isStopped_eq : c'.isStopped = c.isStopped
  /-- They have the same name -/
  name_eq : c'.activity.name = c.activity.name
  /-- and show the same status. -/
  status_eq : c'.activity.snapshot.status = c.activity.snapshot.status

/-- Being told to stop changes no status. -/
theorem status_stop (c : Control) (route : Route) :
    (c.stop route).activity.snapshot.status = c.activity.snapshot.status ∧
      (c.stop route).activity.name = c.activity.name := by
  cases route with
  | token => exact ⟨rfl, rfl⟩
  | activity =>
    by_cases h : c.activity.snapshot.phase.isTerminal = true <;>
      simp [Control.stop, Control.cancel, Activity.update, Activity.phase, Snapshot.after?, h]

/-- Progress is no status. -/
theorem status_tell_progress (c : Control) (current total : Nat) :
    (c.tell (.progress current total)).activity.snapshot.status =
      c.activity.snapshot.status := by
  rw [Control.snapshot_tell_progress]
  split <;> rfl

namespace Alike

variable {c c' : Control}

theorem refl (h : IsLive c) : Alike c c := ⟨h, h, rfl, rfl, rfl⟩

/-- Both are told to stop, whatever the routes. -/
theorem stop (h : Alike c c') (route route' : Route) :
    Alike (c.stop route) (c'.stop route') := by
  obtain ⟨hlive, hstop⟩ := h.live.stop route
  obtain ⟨hlive', hstop'⟩ := h.live'.stop route'
  obtain ⟨hstatus, hname⟩ := status_stop c route
  obtain ⟨hstatus', hname'⟩ := status_stop c' route'
  exact ⟨hlive, hlive', hstop'.trans hstop.symm, by rw [hname, hname', h.name_eq],
    by rw [hstatus, hstatus', h.status_eq]⟩

/-- Both are asked to show progress, whether they do or not. -/
theorem tell_progress (h : Alike c c') (current total : Nat) :
    Alike (c.tell (.progress current total)) (c'.tell (.progress current total)) where
  live := h.live.tell_progress current total
  live' := h.live'.tell_progress current total
  isStopped_eq := h.isStopped_eq
  name_eq := by simpa using h.name_eq
  status_eq := by rw [status_tell_progress, status_tell_progress, h.status_eq]

/-- Both end alike. -/
theorem conclude (h : Alike c c') (fault : Option Fault) :
    ∃ progress, (Batch.conclude c' fault).activity.snapshot =
      { (Batch.conclude c fault).activity.snapshot with progress := progress } := by
  refine ⟨c'.activity.snapshot.progress, ?_⟩
  rw [conclude_spec h.live, conclude_spec h.live', h.isStopped_eq]
  simp only [h.status_eq]

theorem phase_conclude (h : Alike c c') (fault : Option Fault) :
    (Batch.conclude c' fault).activity.phase = (Batch.conclude c fault).activity.phase := by
  obtain ⟨progress, hsnapshot⟩ := h.conclude fault
  unfold Activity.phase
  rw [hsnapshot]

end Alike

/-! ### Runs in any order -/

/-- The same move, but told to stop by the route that is given. -/
def Move.along (route : Route) : Move → Move
  | .act i a => .act i a
  | .stop _ => .stop route

/-- Two runs at the same point, which were told to stop by different routes. -/
structure Scene.Alike (s s' : Scene) : Prop where
  /-- Their controls are alike. -/
  control : Batch.Alike s.control s'.control
  /-- The same has happened. -/
  log_eq : s'.log = s.log
  /-- Each request stands where it does in the other run. -/
  stages_eq : s'.stages = s.stages
  /-- Either both have noticed, or neither has. -/
  hasNoticed_eq : s'.hasNoticed = s.hasNoticed

namespace Scene.Alike

variable {s s' s₁ : Scene}

theorem put (h : Scene.Alike s s') (i : Nat) (next : Stage) (events : List Event) :
    Scene.Alike (s.put i next events) (s'.put i next events) := by
  obtain ⟨control', log', stages', noticed'⟩ := s'
  obtain ⟨hcontrol, hlog, hstages, hnoticed⟩ := h
  obtain rfl : log' = s.log := hlog
  obtain rfl : stages' = s.stages := hstages
  obtain rfl : noticed' = s.hasNoticed := hnoticed
  unfold Scene.put
  split
  · exact ⟨hcontrol.tell_progress .., rfl, rfl, hcontrol.isStopped_eq⟩
  · exact ⟨hcontrol, rfl, rfl, rfl⟩

theorem stop (h : Scene.Alike s s') (route route' : Route) :
    Scene.Alike (s.stop route) (s'.stop route') where
  control := h.control.stop route route'
  log_eq := by
    unfold Scene.stop
    rw [h.log_eq, h.control.isStopped_eq]
  stages_eq := h.stages_eq
  hasNoticed_eq := h.hasNoticed_eq

/-- **The same move by another route.** -/
theorem step (h : Scene.Alike s s') {policy : RetryPolicy} {requests : List Request} {m : Move}
    (hm : s.after? policy requests m = some s₁) (route : Route) :
    ∃ s₁', s'.after? policy requests (m.along route) = some s₁' ∧ Scene.Alike s₁ s₁' := by
  cases m with
  | stop route' =>
    obtain rfl := Option.some.inj hm
    exact ⟨s'.stop route, rfl, h.stop route' route⟩
  | act i a =>
    obtain ⟨hnoticed, r, stage, next, hr, hs, ha, rfl⟩ := Scene.after?_act.1 hm
    refine ⟨s'.put i next (a.events r next), ?_, h.put i next _⟩
    refine Scene.after?_act.2 ⟨?_, r, stage, next, hr, ?_, ha, rfl⟩
    · rw [h.hasNoticed_eq, hnoticed]
    · rw [h.stages_eq, hs]

/-- At the beginning nobody has been told to stop by either route. -/
theorem start {b : Batch} (h : b.control.activity.phase = .inactive) :
    Scene.Alike b.scene b.scene := ⟨.refl (Sound.start h).live, rfl, rfl, rfl⟩

/-- **The same moves by another route.** -/
theorem run {b : Batch} (hb : b.control.activity.phase = .inactive) {canAsk : Bool}
    {moves : List Move} (h : b.scene? canAsk moves = some s) (route : Route) :
    ∃ s', b.scene? canAsk (moves.map (Move.along route)) = some s' ∧ Scene.Alike s s' := by
  induction h using scene?_induction with
  | start => exact ⟨b.scene, rfl, start hb⟩
  | move _ hm ih =>
    obtain ⟨s₁', hs₁', halike⟩ := ih
    obtain ⟨s', hs', halike'⟩ := halike.step hm route
    refine ⟨s', ?_, halike'⟩
    rw [List.map_append, List.map_singleton]
    exact scene?_concat_eq_some_iff.2 ⟨s₁', hs₁', hs'⟩

end Scene.Alike

/-- Two runs end alike: they report the same, the same has happened, and their activities show the
same but for the progress. -/
structure EndsAlike (result result' : Report × Batch) : Prop where
  /-- The reports have the same phase, the same replies and the same fault. -/
  report_eq : result'.1 = result.1
  /-- The same requests were sent, and the same questions were asked, in the same order. -/
  log_eq : result'.2.log = result.2.log
  /-- Those who watch see the same at last, but for the progress. -/
  snapshot_eq : ∃ progress, result'.2.control.activity.snapshot =
    { result.2.control.activity.snapshot with progress := progress }

/-- Runs at the same point end alike. -/
theorem Scene.Alike.ended {b : Batch} {s s' : Scene} (h : Scene.Alike s s') :
    EndsAlike (b.ended s) (b.ended s') := by
  have hreplies : b.repliesAt s' = b.repliesAt s := by rw [repliesAt, repliesAt, h.stages_eq]
  obtain ⟨progress, hsnapshot⟩ := h.control.conclude (fault? (b.repliesAt s))
  unfold Batch.ended
  rw [hreplies]
  refine ⟨?_, h.log_eq, progress, hsnapshot⟩
  dsimp only
  rw [h.control.phase_conclude]

/-- **A whole run by another route** ends alike. -/
theorem Runs.along {b : Batch} {canAsk : Bool} {moves : List Move} {s : Scene}
    (h : b.Runs canAsk moves s) (route : Route) :
    ∃ s', b.Runs canAsk (moves.map (Move.along route)) s' ∧ EndsAlike (b.ended s) (b.ended s') := by
  obtain ⟨s', hs', halike⟩ := Scene.Alike.run h.inactive h.reaches route
  refine ⟨s', ⟨h.inactive, hs', ?_⟩, halike.ended⟩
  rw [halike.control.isStopped_eq, halike.stages_eq]
  exact h.isOver

/-! ### Runs in turns -/

/-- Two runs in turns at the same point, which were told to stop by different routes. -/
structure Course.Alike (c c' : Course) : Prop where
  /-- Their controls are alike. -/
  control : Batch.Alike c.control c'.control
  /-- The same has happened. -/
  log_eq : c'.log = c.log
  /-- The same requests are finished, with the same replies. -/
  finished_eq : c'.finished = c.finished
  /-- The same answers are left. -/
  answers_eq : c'.answers = c.answers

namespace Course.Alike

variable {c c' : Course}

theorem stop (h : Course.Alike c c') (route route' : Route) :
    Course.Alike (c.stop route) (c'.stop route') := by
  unfold Course.stop
  rw [h.control.isStopped_eq]
  split
  · exact h
  · refine ⟨h.control.stop route route', ?_, h.finished_eq, h.answers_eq⟩
    rw [h.log_eq]

/-- A request is sent, and has the same reply or none. -/
theorem send (h : Course.Alike c c') (server : Server) (route route' : Route) (r : Request) :
    Course.Alike (c.send server route r).1 (c'.send server route' r).1 ∧
      (c'.send server route' r).2 = (c.send server route r).2 := by
  have hsent : Course.Alike { c with log := c.log ++ [.sent r] }
      { c' with log := c'.log ++ [.sent r] } :=
    ⟨h.control, congrArg (· ++ _) h.log_eq, h.finished_eq, h.answers_eq⟩
  unfold Course.send
  rw [h.log_eq] at hsent ⊢
  cases server (sentIn c.log) r with
  | reply p => exact ⟨hsent, rfl⟩
  | silence => exact ⟨hsent, rfl⟩
  | stopped p => exact ⟨hsent.stop route route', rfl⟩

/-- A request is tried, and the tries end in the same way. -/
theorem attempt (h : Course.Alike c c') (server : Server) (route route' : Route) (asks : Bool)
    (limit : Nat) (r : Request) :
    Course.Alike (c.attempt server route asks limit r).1 (c'.attempt server route' asks limit r).1 ∧
      (c'.attempt server route' asks limit r).2 = (c.attempt server route asks limit r).2 := by
  -- by induction on how often the request may be sent again
  induction limit using Nat.strongRecOn generalizing c c' with
  | ind limit ih =>
    obtain ⟨hsend, hreply⟩ := h.send server route route' r
    rcases hs : c.send server route r with ⟨c₁, reply⟩
    rcases hs' : c'.send server route' r with ⟨c₁', reply'⟩
    rw [hs, hs'] at hsend hreply
    obtain rfl : reply' = reply := hreply
    cases reply' with
    | none =>
      rw [attempt_of_silence hs, attempt_of_silence hs']
      exact ⟨hsend, rfl⟩
    | some p =>
      rw [attempt_of_reply hs, attempt_of_reply hs']
      by_cases hmore : p.mayPass = true ∧ 0 < limit
      · rw [if_pos hmore, if_pos hmore]
        exact ih (limit - 1) (Nat.sub_lt hmore.2 Nat.one_pos) hsend
      · rw [if_neg hmore, if_neg hmore]
        exact ⟨hsend, rfl⟩

theorem finish (h : Course.Alike c c') (total i : Nat) (p : Reply) :
    Course.Alike (c.finish total i p) (c'.finish total i p) := by
  unfold Course.finish
  rw [h.finished_eq]
  exact ⟨h.control.tell_progress .., h.log_eq, rfl, h.answers_eq⟩

/-- Somebody is asked the same question, and gives the same answer. -/
theorem ask (h : Course.Alike c c') (f : Failure) :
    Course.Alike (c.ask f).1 (c'.ask f).1 ∧ (c'.ask f).2 = (c.ask f).2 := by
  unfold Course.ask
  rw [h.log_eq, h.answers_eq]
  exact ⟨⟨h.control, rfl, h.finished_eq, rfl⟩, rfl⟩

/-- **The same turn by another route.** -/
theorem turn (h : Course.Alike c c') (server : Server) (route route' : Route)
    (policy : RetryPolicy) (q : Pending) :
    Course.Alike (c.turn server route policy q).1 (c'.turn server route' policy q).1 ∧
      (c'.turn server route' policy q).2 = (c.turn server route policy q).2 := by
  unfold Course.turn
  cases q.declined with
  | some p => exact ⟨h, rfl⟩
  | none =>
    obtain ⟨hattempt, hpause⟩ := h.attempt server route route' policy.asks policy.limit q.request
    generalize c.attempt server route policy.asks policy.limit q.request = result
      at hattempt hpause ⊢
    generalize c'.attempt server route' policy.asks policy.limit q.request = result'
      at hattempt hpause ⊢
    obtain ⟨c₁, pause⟩ := result
    obtain ⟨c₁', pause'⟩ := result'
    obtain rfl : pause' = pause := hpause
    cases pause' with
    | finished p => exact ⟨hattempt, rfl⟩
    | silent => exact ⟨hattempt, rfl⟩
    | asks f p =>
      obtain ⟨hask, hanswer⟩ := hattempt.ask f
      dsimp only
      rw [hanswer]
      exact ⟨hask, rfl⟩

theorem turn_eq (h : Course.Alike c c') {server : Server} {route : Route} {policy : RetryPolicy}
    {q : Pending} {c₁ : Course} {next : Next} (hturn : c.turn server route policy q = (c₁, next))
    (route' : Route) :
    ∃ c₁', c'.turn server route' policy q = (c₁', next) ∧ Course.Alike c₁ c₁' := by
  obtain ⟨halike, hnext⟩ := h.turn server route route' policy q
  rw [hturn] at halike hnext
  exact ⟨_, Prod.ext rfl hnext, halike⟩

/-- **The same turns by another route.** -/
theorem work (h : Course.Alike c c') (server : Server) (route route' : Route)
    (policy : RetryPolicy) (total : Nat) (now later : List Pending) :
    Course.Alike (c.work server route policy total now later)
      (c'.work server route' policy total now later) := by
  fun_induction Course.work server route policy total c now later generalizing c' with
  | case1 c =>
    rw [Course.work]
    exact h
  | case2 c q later hstop =>
    rw [Course.work_of_isStopped (h.control.isStopped_eq.trans hstop)]
    exact h
  | case3 c q later hstop ih =>
    have hgoing : c'.control.isStopped = false := by
      rw [h.control.isStopped_eq]
      exact eq_false_of_ne_true hstop
    rw [Course.work_round hgoing]
    exact ih h
  | case4 c q now later c₁ p hturn c₂ =>
    rename_i hstop
    -- both notice that they are told to stop
    obtain ⟨c₁', hturn', halike⟩ := h.turn_eq hturn route'
    have hstop' : c₁'.control.isStopped = true := halike.control.isStopped_eq.trans hstop
    rw [Course.work_turn, hturn']
    dsimp only
    rw [if_pos hstop']
    exact halike.finish total q.index p
  | case5 c q now later c₁ p hturn c₂ hstop =>
    rename_i ih
    obtain ⟨c₁', hturn', halike⟩ := h.turn_eq hturn route'
    have hgoing : ¬ c₁'.control.isStopped = true := by
      rw [halike.control.isStopped_eq]
      exact hstop
    rw [Course.work_turn, hturn']
    dsimp only
    rw [if_neg hgoing]
    exact ih (halike.finish total q.index p)
  | case6 c q now later c₁ hturn ih =>
    obtain ⟨c₁', hturn', halike⟩ := h.turn_eq hturn route'
    rw [Course.work_turn, hturn']
    exact ih halike
  | case7 c q now later c₁ q' hturn ih =>
    obtain ⟨c₁', hturn', halike⟩ := h.turn_eq hturn route'
    rw [Course.work_turn, hturn']
    exact ih halike

theorem release (h : Course.Alike c c') (route route' : Route) (total : Nat) :
    Course.Alike (c.release route total) (c'.release route' total) := by
  unfold Course.release
  rw [h.finished_eq]
  split
  · exact h.stop route route'
  · exact h

end Course.Alike

/-- Runs in turns at the same point end alike. -/
theorem Course.Alike.closing {c c' : Course} (h : Course.Alike c c') (b : Batch) :
    EndsAlike (b.closing c) (b.closing c') := by
  obtain ⟨progress, hsnapshot⟩ := h.control.conclude (b.closing c).1.fault
  unfold Batch.closing
  rw [h.finished_eq]
  refine ⟨?_, h.log_eq, progress, hsnapshot⟩
  dsimp only
  rw [h.control.phase_conclude]

/-- **A whole run in turns by another route.** -/
theorem Course.Alike.course {b : Batch} (h : b.control.activity.phase = .inactive)
    (server : Server) (route route' : Route) (answers : Option (List Bool)) :
    Course.Alike (b.course server route answers) (b.course server route' answers) := by
  have hstart : Course.Alike ⟨b.scene.control, b.log, [], answers.getD []⟩
      ⟨b.scene.control, b.log, [], answers.getD []⟩ :=
    ⟨.refl (Sound.start h).live, rfl, rfl, rfl⟩
  exact (hstart.work server route route' _ _ [] b.pendings).release route route' _

/-! ### Batches that are told to stop -/

/-- A batch of requests below a token, which has not started. -/
def preparedBelow (name : String) (isCancelled : Bool) (policy : RetryPolicy)
    (requests : List Request) : Batch :=
  { below name isCancelled with policy := policy, requests := requests }

/-- A batch that was told to stop in a run was so by one of its moves. -/
theorem any_isStop_of_mem_log {b : Batch} (hlog : b.log = []) {canAsk : Bool} {moves : List Move}
    {s : Scene} (h : b.scene? canAsk moves = some s) (hs : Event.stopped ∈ s.log) :
    moves.any Move.isStop = true := by
  induction h using scene?_induction with
  | start =>
    rw [scene, hlog] at hs
    cases hs
  | @move moves m s₁ s' _ hm ih =>
    rw [List.any_append]
    cases m with
    | stop route => simp [Move.isStop]
    | act i a =>
      obtain ⟨-, r, stage, next, -, -, -, rfl⟩ := Scene.after?_act.1 hm
      have hold : Event.stopped ∈ s₁.log := by
        rw [Scene.log_put] at hs
        rcases List.mem_append.1 hs with hs | hs
        · exact hs
        · exact absurd hs (stopped_notMem_events a r next)
      rw [ih hold, Bool.true_or]

/-- **The way in which a batch is told to stop makes no difference**, at whatever moments of a run
and in whatever order its requests follow each other, nor when they have their turns.  It ends
aborted either way. -/
theorem run_routes (name : String) (isCancelled : Bool) (policy : RetryPolicy)
    (requests : List Request) :
    (∀ canAsk moves s route,
      (preparedBelow name isCancelled policy requests).scene? canAsk moves = some s →
      ∃ s', (preparedBelow name isCancelled policy requests).scene? canAsk
          (moves.map (Move.along route)) = some s' ∧ s'.log = s.log ∧ s'.stages = s.stages) ∧
    (∀ canAsk moves s route,
      (preparedBelow name isCancelled policy requests).Runs canAsk moves s →
      (∃ s', (preparedBelow name isCancelled policy requests).Runs canAsk
          (moves.map (Move.along route)) s' ∧
        EndsAlike ((preparedBelow name isCancelled policy requests).ended s)
          ((preparedBelow name isCancelled policy requests).ended s')) ∧
      ((isCancelled || moves.any Move.isStop) = true →
        ((preparedBelow name isCancelled policy requests).ended s).1.phase = .aborted)) ∧
    ∀ server answers, ∃ result result',
      (preparedBelow name isCancelled policy requests).run server .activity answers =
        .ok result ∧
      (preparedBelow name isCancelled policy requests).run server .token answers =
        .ok result' ∧
      EndsAlike result result' ∧
      (isCancelled = true ∨ Event.stopped ∈ result.2.log → result.1.phase = .aborted) := by
  have hinactive :
      (preparedBelow name isCancelled policy requests).control.activity.phase = .inactive := rfl
  refine ⟨?_, ?_, ?_⟩
  · intro canAsk moves s route h
    obtain ⟨s', hs', halike⟩ := Scene.Alike.run hinactive h route
    exact ⟨s', hs', halike.log_eq, halike.stages_eq⟩
  · intro canAsk moves s route h
    refine ⟨h.along route, ?_⟩
    intro hstop
    exact h.reports.phase_eq.trans (if_pos hstop)
  · intro server answers
    have hends := (Course.Alike.course hinactive server .activity .token answers).closing
      (preparedBelow name isCancelled policy requests)
    refine ⟨_, _, run_of_inactive hinactive .., run_of_inactive hinactive .., hends, ?_⟩
    intro hstop
    -- a run in turns is one of the runs in any order, and these end aborted
    obtain ⟨moves, s, hruns, hrun⟩ := run_runs hinactive server .activity answers
    rw [run_of_inactive hinactive] at hrun
    have heq := Except.ok.inj hrun
    rw [heq] at hstop ⊢
    rw [hruns.reports.phase_eq, if_pos]
    rcases hstop with rfl | hlog
    · rfl
    · rw [any_isStop_of_mem_log rfl hruns.reaches hlog, Bool.or_true]

/-- A batch of one request below a token. -/
def waitingBatch : Batch := preparedBelow "job" false ⟨true, 1⟩ [someRequest]

/-- Where no reply arrives, a batch is told to stop by the route that it is given, and ends aborted
by both of them. -/
theorem run_routes_silent :
    (∃ s s', waitingBatch.Runs true [.act 0 .send, .stop .activity] s ∧
      waitingBatch.Runs true [.act 0 .send, .stop .token] s' ∧
      EndsAlike (waitingBatch.ended s) (waitingBatch.ended s')) ∧
    ∃ result result',
      waitingBatch.run (fun _ _ => .silence) .activity none = .ok result ∧
      waitingBatch.run (fun _ _ => .silence) .token none = .ok result' ∧
      EndsAlike result result' ∧ result.2.log = [.sent someRequest, .stopped] ∧
      result.1.phase = .aborted := by
  obtain ⟨-, hmoves, hruns⟩ := run_routes "job" false ⟨true, 1⟩ [someRequest]
  constructor
  · obtain ⟨⟨s', hs', hends⟩, -⟩ :=
      hmoves true [.act 0 .send, .stop .activity] _ .token ⟨rfl, rfl, .inl rfl⟩
    exact ⟨_, s', ⟨rfl, rfl, .inl rfl⟩, hs', hends⟩
  · obtain ⟨result, result', hrun, hrun', hends, hstop⟩ := hruns (fun _ _ => .silence) none
    have hturn : Course.turn (fun _ _ => .silence) .activity (waitingBatch.policyFor false)
        ⟨waitingBatch.scene.control, [], [], []⟩ ⟨0, someRequest, none⟩ =
        (⟨waitingBatch.scene.control, [.sent someRequest], [], []⟩, .silent) := rfl
    have hcourse : (waitingBatch.course (fun _ _ => .silence) .activity none).log =
        [.sent someRequest, .stopped] :=
      congrArg (fun c => (Course.release .activity 1 c).log) (Course.work_of_silent rfl hturn)
    have hlog : result.2.log = [.sent someRequest, .stopped] := by
      rw [← Except.ok.inj hrun]
      exact hcourse
    refine ⟨result, result', hrun, hrun', hends, hlog, ?_⟩
    apply hstop
    right
    rw [hlog]
    exact .tail _ (.head _)

end Batch

end SignIn
