import SignIn.Proofs.Batch.Interleaving

/-!
# What a batch reports

However the requests of a batch follow each other, its report has one reply for each of them, in
the order in which they were added, and names the first that failed.  The activity shows how many
requests are finished, as long as it runs: a batch that is cancelled itself has ended for those
who watch it, also if a request is finished before the batch notices.

## Main definitions

* `Sound` — what holds at every moment of a run.
* `Reports` — what a run comes to.

## Main results

* `Sound.step` — every move keeps a run sound.
* `fault?_eq_some` — the fault is the first reply that is a failure.
* `Runs.reports` — every run reports so.
-/

namespace SignIn

namespace Batch

/-! ### Every moment of a run -/

/-- The activity of a batch has not ended, except by being cancelled. -/
def IsLive (c : Control) : Prop :=
  c.activity.phase = .running ∨
    c.activity.phase = .aborted ∧ c.isStopped = true ∧ c.activity.snapshot.failure = none

namespace IsLive

variable {c : Control}

theorem stop (h : IsLive c) (route : Route) :
    IsLive (c.stop route) ∧ (c.stop route).isStopped = true := by
  obtain hr | ⟨ha, hs, hf⟩ := h
  · have hp : c.activity.snapshot.phase = .running := hr
    cases route with
    | token => exact ⟨.inl hr, rfl⟩
    | activity =>
      simp [Control.stop, Control.cancel, Activity.update, Activity.phase, Snapshot.after?, hp,
        Phase.isTerminal, IsLive]
  · cases route with
    | token => exact ⟨.inr ⟨ha, rfl, hf⟩, rfl⟩
    | activity =>
      -- the activity has ended, so that nothing changes
      have hc : c.stop .activity = c := by simp [Control.stop, Control.cancel, ha, Phase.isTerminal]
      rw [hc]
      exact ⟨.inr ⟨ha, hs, hf⟩, hs⟩

theorem tell_progress (h : IsLive c) (current total : Nat) :
    IsLive (c.tell (.progress current total)) := by
  unfold IsLive
  rw [Control.snapshot_tell_progress]
  simpa [IsLive, apply_ite Snapshot.failure] using h

end IsLive

namespace Scene

theorem live_put {s : Scene} (h : IsLive s.control) (i : Nat) (next : Stage)
    (events : List Event) : IsLive (s.put i next events).control := by
  unfold put
  split
  · exact h.tell_progress _ _
  · exact h

theorem phase_put (s : Scene) (i : Nat) (next : Stage) (events : List Event) :
    (s.put i next events).control.activity.phase = s.control.activity.phase := by
  unfold put
  split
  · exact Activity.phase_tell_progress ..
  · rfl

theorem progress_stop (s : Scene) (route : Route) : (s.stop route).progress = s.progress :=
  s.control.progress_stop route

/-- A request that is finished while the activity runs is shown as done. -/
theorem progress_put (s : Scene) (i : Nat) (next : Stage) (events : List Event) :
    (s.put i next events).progress =
      if next.isFinished = true ∧ s.control.activity.phase = .running then
        ⟨(s.put i next events).done, s.stages.length⟩
      else s.progress := by
  have hdone : (s.put i next events).done =
      { s with stages := s.stages.set i next, log := s.log ++ events }.done := by
    simp [done]
  rw [hdone]
  unfold put progress
  by_cases hf : next.isFinished = true
  · simp only [hf, true_and, if_true, Control.snapshot_tell_progress]
    split <;> rfl
  · simp [hf]

end Scene

/-- At the beginning of a run its activity has started, and shows what there is to do. -/
theorem snapshot_scene {b : Batch} (h : b.control.activity.phase = .inactive) :
    b.scene.control.activity.snapshot =
      { b.control.activity.snapshot with
        phase := .running
        progress := ⟨0, b.requests.length⟩ } := by
  have hp : b.control.activity.snapshot.phase = .inactive := h
  simp [scene, Activity.tell, Activity.update, Snapshot.after?, hp]

/-- What holds at every moment of a run. -/
structure Sound (b : Batch) (moves : List Move) (s : Scene) : Prop where
  /-- Every request has its place. -/
  length_stages : s.stages.length = b.requests.length
  /-- The activity has not ended by itself. -/
  live : IsLive s.control
  /-- The batch is told to stop if it was so before, or is so by a move. -/
  isStopped_eq : s.control.isStopped = (b.control.isStopped || moves.any Move.isStop)
  /-- What there is to do is shown. -/
  total : s.progress.total = b.requests.length
  /-- No more is shown as done than is done. -/
  current_le : s.progress.current ≤ s.done
  /-- While the activity runs, all that is done is shown. -/
  current_eq : s.control.activity.phase = .running → s.progress.current = s.done
  /-- A request is finished, or somebody is asked, with the last reply that arrived. -/
  replied : ∀ (i : Nat) (p : Reply), s.stages[i]? = some (.finished p) ∨
    s.stages[i]? = some (.asking p) → lastReceived i moves = some p

namespace Sound

variable {b : Batch} {moves : List Move} {s : Scene}

/-- A run begins soundly. -/
theorem start (h : b.control.activity.phase = .inactive) : Sound b [] b.scene where
  length_stages := by simp [scene]
  live := .inl (congrArg Snapshot.phase (snapshot_scene h))
  isStopped_eq := by simp [scene]
  total := by rw [Scene.progress, snapshot_scene h]
  current_le := by
    rw [Scene.progress, snapshot_scene h]
    exact Nat.zero_le _
  current_eq _ := by rw [Scene.progress, snapshot_scene h, done_scene]
  replied i p hi := by
    -- no request has gone that far
    obtain hi | hi := hi <;> cases eq_ready_of_scene hi

/-- An act brings a request to its end, or to a question, with the last reply. -/
theorem replied_of_act {policy : RetryPolicy} {stage next : Stage} {i : Nat} {a : Act} {p : Reply}
    (ha : stage.after? policy a = some next) (hp : next = .finished p ∨ next = .asking p)
    (hstage : stage = .asking p → lastReceived i moves = some p) :
    lastReceived i (moves ++ [.act i a]) = some p := by
  rw [lastReceived_concat]
  cases stage with
  | ready =>
    cases a with
    | send =>
      obtain rfl := Option.some.inj ha
      simp at hp
    | receive => cases ha
    | answer => cases ha
  | finished => cases ha
  | underWay retries =>
    cases a with
    | send => cases ha
    | answer => cases ha
    | receive p' =>
      obtain rfl := Option.some.inj ha
      rw [Move.received?, if_pos rfl, Stage.eq_of_received hp]
      rfl
  | asking p' =>
    cases a with
    | send => cases ha
    | receive => cases ha
    | answer yes =>
      cases yes with
      | true =>
        obtain rfl := Option.some.inj ha
        simp at hp
      | false =>
        obtain rfl := Option.some.inj ha
        obtain rfl : p' = p := by simpa using hp
        exact hstage rfl

/-- Being told to stop keeps a run sound. -/
theorem stop (h : Sound b moves s) (route : Route) :
    Sound b (moves ++ [.stop route]) (s.stop route) where
  length_stages := h.length_stages
  live := (h.live.stop route).1
  isStopped_eq := by
    have hstopped : (s.stop route).control.isStopped = true := (h.live.stop route).2
    simp [hstopped, Move.isStop]
  total := by
    rw [Scene.progress_stop]
    exact h.total
  current_le := by
    rw [Scene.progress_stop]
    exact h.current_le
  current_eq hp := by
    rw [Scene.progress_stop]
    exact h.current_eq (Control.phase_of_stop hp)
  replied i p hi := by
    rw [lastReceived_concat]
    exact h.replied i p hi

/-- An act keeps a run sound. -/
theorem act (h : Sound b moves s) {policy : RetryPolicy} {i : Nat} {a : Act} {stage next : Stage}
    (hs : s.stages[i]? = some stage) (ha : stage.after? policy a = some next)
    (events : List Event) : Sound b (moves ++ [.act i a]) (s.put i next events) where
  length_stages := by
    rw [Scene.stages_put, List.length_set]
    exact h.length_stages
  live := Scene.live_put h.live i next events
  isStopped_eq := by
    rw [Scene.isStopped_put, h.isStopped_eq]
    simp [Move.isStop]
  total := by
    rw [Scene.progress_put]
    split
    · exact h.length_stages
    · exact h.total
  current_le := by
    have hle := h.current_le
    have hdone := Scene.done_put hs (Stage.isFinished_of_after? ha) next events
    rw [Scene.progress_put]
    split
    · exact Nat.le_refl _
    · omega
  current_eq hp := by
    rw [Scene.phase_put] at hp
    rw [Scene.progress_put]
    split
    · rfl
    · -- nothing was finished, as the activity runs
      rename_i hf
      have hf : next.isFinished = false := by simpa [hp] using hf
      simp [Scene.done_put hs (Stage.isFinished_of_after? ha), hf, h.current_eq hp]
  replied j p hj := by
    rw [Scene.stages_put] at hj
    by_cases hij : i = j
    · subst hij
      obtain ⟨hi, -⟩ := List.getElem?_eq_some_iff.1 hs
      rw [List.getElem?_set_self hi] at hj
      refine replied_of_act ha (by simpa using hj) fun hask => h.replied i p (.inr ?_)
      rw [hs, hask]
    · -- the act is about another request
      have hnone : (Move.act i a).received? j = none := by
        cases a <;> simp [Move.received?, hij]
      rw [List.getElem?_set_ne hij] at hj
      rw [lastReceived_concat, hnone]
      exact h.replied j p hj

/-- **Every move keeps a run sound.** -/
theorem step (h : Sound b moves s) {policy : RetryPolicy} {m : Move} {s' : Scene}
    (hm : s.after? policy b.requests m = some s') : Sound b (moves ++ [m]) s' := by
  cases m with
  | stop route =>
    obtain rfl := Option.some.inj hm
    exact h.stop route
  | act i a =>
    obtain ⟨-, r, stage, next, hr, hs, ha, rfl⟩ := Scene.after?_act.1 hm
    exact h.act hs ha _

/-- **Every moment of a run is sound.** -/
theorem of_scene? (hb : b.control.activity.phase = .inactive) {canAsk : Bool}
    (h : b.scene? canAsk moves = some s) : Sound b moves s := by
  induction h using scene?_induction with
  | start => exact start hb
  | move _ hm ih => exact ih.step hm

end Sound

/-! ### The end of a run -/

/-- There is no fault exactly if no reply is a failure. -/
theorem fault?_eq_none_iff {ps : List Reply} :
    fault? ps = none ↔ ∀ p ∈ ps, p.failure = none := by
  unfold fault?
  rw [List.findSome?_eq_none_iff]
  constructor
  · intro h p hp
    obtain ⟨i, hi⟩ := List.mem_iff_getElem?.1 hp
    simpa using h (p, i) (List.mk_mem_zipIdx_iff_getElem?.2 hi)
  · rintro h ⟨p, i⟩ hp
    simp [h p (List.mem_of_getElem? (List.mk_mem_zipIdx_iff_getElem?.1 hp))]

/-- **The fault is the first reply that is a failure**, with its status and its message. -/
theorem fault?_eq_some {ps : List Reply} {f : Fault} (h : fault? ps = some f) :
    (∃ p e, ps[f.index]? = some p ∧ p.failure = some e ∧ f.status = p.status ∧
      f.message = e.message) ∧
    ∀ (j : Nat) (p : Reply), j < f.index → ps[j]? = some p → p.failure = none := by
  obtain ⟨before, ⟨p, i⟩, after, hsplit, hp, hbefore⟩ := List.findSome?_eq_some_iff.1 h
  obtain ⟨e, he, rfl⟩ := Option.map_eq_some_iff.1 hp
  have hplace (j : Nat) : ps[j]?.map (fun q => (q, j)) = (before ++ (p, i) :: after)[j]? := by
    rw [← hsplit, List.getElem?_zipIdx]
    simp
  obtain ⟨hi, hps⟩ : before.length = i ∧ ps[before.length]? = some p := by
    have := hplace before.length
    rw [List.getElem?_append_right (Nat.le_refl _), Nat.sub_self] at this
    obtain ⟨q, hq, hpair⟩ := Option.map_eq_some_iff.1 this
    obtain ⟨rfl, rfl⟩ := Prod.mk.inj hpair
    exact ⟨rfl, hq⟩
  subst hi
  refine ⟨⟨p, e, hps, he, rfl, rfl⟩, fun j q hj hq => ?_⟩
  have hmem : (q, j) ∈ before := by
    have := hplace j
    rw [hq, List.getElem?_append_left hj] at this
    exact List.mem_of_getElem? this.symm
  simpa using hbefore _ hmem

/-- How the activity of a batch ends. -/
theorem conclude_spec {c : Control} (h : IsLive c) (fault : Option Fault) :
    (conclude c fault).activity.snapshot =
      { c.activity.snapshot with
        phase := if c.isStopped then .aborted else if fault.isSome then .failed else .succeeded
        failure := if c.isStopped then none else fault.map (·.message) } := by
  unfold conclude
  cases hs : c.isStopped with
  | true =>
    obtain hr | ⟨ha, -, hf⟩ := h
    · have hp : c.activity.snapshot.phase = .running := hr
      simp [Activity.tell, Activity.update, Snapshot.after?, hp, Phase.isTerminal]
    · have hp : c.activity.snapshot.phase = .aborted := ha
      simp only [Control.activity_tell, Activity.tell, Activity.update, Snapshot.after?, hp,
        Phase.isTerminal, if_true]
      rw [← hp, ← hf]
  | false =>
    obtain hr | ⟨-, hs', -⟩ := h
    · have hp : c.activity.snapshot.phase = .running := hr
      cases fault <;> simp [Activity.tell, Activity.update, Snapshot.after?, hp]
    · simp [hs] at hs'

/-- What a run of a batch comes to, along its moves and with where it ends. -/
structure Reports (b : Batch) (canAsk : Bool) (moves : List Move) (s : Scene) (report : Report)
    (b' : Batch) : Prop where
  /-- There is one reply for each request. -/
  length_replies : report.replies.length = b.requests.length
  /-- A request that is finished has the last reply that arrived for it, in its place. -/
  finished {i : Nat} {p : Reply} (h : s.stages[i]? = some (.finished p)) :
    report.replies[i]? = some p ∧ lastReceived i moves = some p
  /-- Any other request was given up. -/
  unfinished {i : Nat} {r : Request} (hr : b.requests[i]? = some r)
    (h : ∀ p, s.stages[i]? ≠ some (.finished p)) : report.replies[i]? = some (.cancelled r.url)
  /-- There is no fault exactly if no reply is a failure. -/
  fault_eq_none_iff : report.fault = none ↔ ∀ p ∈ report.replies, p.failure = none
  /-- Otherwise it is the first reply that is one, with its status and its message. -/
  fault_eq_some {f : Fault} (h : report.fault = some f) :
    (∃ p e, report.replies[f.index]? = some p ∧ p.failure = some e ∧ f.status = p.status ∧
      f.message = e.message) ∧
    ∀ (j : Nat) (p : Reply), j < f.index → report.replies[j]? = some p → p.failure = none
  /-- The run ends aborted if the batch was ever told to stop, and otherwise fails with a fault
  and succeeds without one. -/
  phase_eq : report.phase =
    if b.control.isStopped || moves.any Move.isStop then .aborted
    else if report.fault.isSome then .failed else .succeeded
  /-- The activity ends so, too, -/
  task_phase : b'.control.activity.phase = report.phase
  /-- and a failure has the message of the fault. -/
  task_failure : b'.control.activity.snapshot.failure =
    if report.phase = .failed then report.fault.map (·.message) else none
  /-- At first nothing is shown as done. -/
  begins : b.scene.progress = ⟨0, b.requests.length⟩
  /-- At every moment what there is to do is shown, and no more than that as done. -/
  bounded {before : List Move} {s₁ : Scene} (h : before <+: moves)
    (h₁ : b.scene? canAsk before = some s₁) :
    s₁.progress.total = b.requests.length ∧ s₁.progress.current ≤ b.requests.length
  /-- By every move the same number of requests is finished and shown as done, or one more is
  finished, which is shown exactly if the activity still runs. -/
  rises {before : List Move} {m : Move} {s₁ s₂ : Scene} (h : before ++ [m] <+: moves)
    (h₁ : b.scene? canAsk before = some s₁) (h₂ : b.scene? canAsk (before ++ [m]) = some s₂) :
    s₂.done = s₁.done ∧ s₂.progress = s₁.progress ∨
      s₂.done = s₁.done + 1 ∧ s₂.progress =
        if s₁.control.activity.phase = .running then
          ⟨s₁.progress.current + 1, b.requests.length⟩
        else s₁.progress
  /-- What is shown last stays. -/
  remains : b'.control.activity.snapshot.progress = s.progress

/-- A move finishes no request, or one. -/
theorem Sound.rises {b : Batch} {moves : List Move} {s s' : Scene} (h : Sound b moves s)
    {policy : RetryPolicy} {m : Move} (hm : s.after? policy b.requests m = some s') :
    s'.done = s.done ∧ s'.progress = s.progress ∨
      s'.done = s.done + 1 ∧ s'.progress =
        if s.control.activity.phase = .running then ⟨s.progress.current + 1, b.requests.length⟩
        else s.progress := by
  cases m with
  | stop route =>
    obtain rfl := Option.some.inj hm
    exact .inl ⟨rfl, s.progress_stop route⟩
  | act i a =>
    obtain ⟨-, r, stage, next, -, hs, ha, rfl⟩ := Scene.after?_act.1 hm
    have hdone := Scene.done_put hs (Stage.isFinished_of_after? ha) next (a.events r next)
    have hshown := s.progress_put i next (a.events r next)
    cases hf : next.isFinished with
    | false =>
      refine .inl ⟨by simp [hdone, hf], ?_⟩
      rw [hshown, if_neg (by simp [hf])]
    | true =>
      refine .inr ⟨by simp [hdone, hf], ?_⟩
      rw [hshown]
      by_cases hp : s.control.activity.phase = .running
      · rw [if_pos ⟨hf, hp⟩, if_pos hp, hdone, h.current_eq hp, h.length_stages, hf, if_pos rfl]
      · rw [if_neg fun h => hp h.2, if_neg hp]

/-- **Every run reports so**, in whatever order its requests follow each other. -/
theorem Runs.reports {b : Batch} {canAsk : Bool} {moves : List Move} {s : Scene}
    (h : b.Runs canAsk moves s) :
    b.Reports canAsk moves s (b.ended s).1 (b.ended s).2 := by
  have hs := Sound.of_scene? h.inactive h.reaches
  have hend := conclude_spec hs.live (fault? (b.repliesAt s))
  have hphase : (b.ended s).1.phase =
      if s.control.isStopped then .aborted
      else if (fault? (b.repliesAt s)).isSome then .failed else .succeeded :=
    congrArg Snapshot.phase hend
  constructor
  case length_replies =>
    change (b.repliesAt s).length = _
    rw [repliesAt, List.length_zipWith, hs.length_stages, Nat.min_self]
  case finished =>
    intro i p hi
    refine ⟨?_, hs.replied i p (.inl hi)⟩
    have hlt : i < b.requests.length := hs.length_stages ▸ (List.getElem?_eq_some_iff.1 hi).1
    change (b.repliesAt s)[i]? = _
    rw [repliesAt, List.getElem?_zipWith, List.getElem?_eq_getElem hlt, hi]
    rfl
  case unfinished =>
    intro i r hr hi
    have hlt : i < s.stages.length := hs.length_stages.symm ▸ (List.getElem?_eq_some_iff.1 hr).1
    change (b.repliesAt s)[i]? = _
    rw [repliesAt, List.getElem?_zipWith, hr]
    rw [List.getElem?_eq_getElem hlt] at hi ⊢
    cases hstage : s.stages[i] with
    | finished p => exact (hi p (by rw [hstage])).elim
    | ready | underWay | asking => rfl
  case fault_eq_none_iff => exact fault?_eq_none_iff
  case fault_eq_some => exact fault?_eq_some
  case phase_eq =>
    rw [hphase, hs.isStopped_eq]
    rfl
  case task_phase => rfl
  case task_failure =>
    have hfailure : (b.ended s).2.control.activity.snapshot.failure =
        if s.control.isStopped then none else (fault? (b.repliesAt s)).map (·.message) :=
      congrArg Snapshot.failure hend
    have hfault : (b.ended s).1.fault = fault? (b.repliesAt s) := rfl
    rw [hfailure, hphase, hfault]
    cases s.control.isStopped <;> cases fault? (b.repliesAt s) <;> rfl
  case begins => exact congrArg Snapshot.progress (snapshot_scene h.inactive)
  case bounded =>
    intro before s₁ _ h₁
    have hs₁ := Sound.of_scene? h.inactive h₁
    exact ⟨hs₁.total, Nat.le_trans hs₁.current_le (hs₁.length_stages ▸ s₁.done_le_length)⟩
  case rises =>
    intro before m s₁ s₂ _ h₁ h₂
    rw [scene?_concat, h₁] at h₂
    exact (Sound.of_scene? h.inactive h₁).rises h₂
  case remains =>
    have hshown := congrArg Snapshot.progress hend
    exact hshown

end Batch

end SignIn
