import Mathlib.Algebra.GroupWithZero.Nat
import SignIn.Proofs.Batch.Stands

/-!
# After the word to stop

A batch that is told to stop notices it between two finished requests, and not between two tries of
one request.  So it may go on for a while, in whatever order its requests follow each other: a
request whose failure may pass is sent again, somebody is asked about it, and requests that were not
sent yet are sent.  All this ends with the first request that is finished.

How often requests can still be sent is bounded by what their limits leave of their tries.  Only an
answer by yes gives a request more of them.

## Main definitions

* `Stage.left`, `Stage.doubts` — how often a request is sent, and asked about, at most.
* `Winds` — what happens after the word to stop.

## Main results

* `Stage.left_after` — one act.
* `Winds.of_run` — **everything that happens after the word to stop.**
-/

namespace SignIn

namespace Batch

/-! ### One request -/

namespace Stage

/-- How often a request is sent at most until somebody answers by yes. -/
def left : Stage → Nat
  | .ready retries => retries + 1
  | .underWay retries => retries
  | .asking _ => 0
  | .finished _ => 0

/-- How often somebody is asked about it at most until then. -/
def doubts : Stage → Nat
  | .ready _ => 1
  | .underWay _ => 1
  | .asking _ => 0
  | .finished _ => 0

end Stage

/-- Whether a move answers a question by yes. -/
def Move.isYes : Move → Bool
  | .act _ (.answer true) => true
  | _ => false

/-- **What one act leaves of the tries of a request**, and of the questions about it. -/
theorem Stage.left_after {policy : RetryPolicy} {stage next : Stage} {a : Act}
    (h : stage.after? policy a = some next) (r : Request) (i : Nat) :
    (sentIn (a.events r next)).length + next.left ≤
        stage.left + (Move.act i a).isYes.toNat * (policy.limit + 1) ∧
      (askedIn (a.events r next)).length + next.doubts ≤
        stage.doubts + (Move.act i a).isYes.toNat := by
  cases stage with
  | finished p => cases h
  | ready retries =>
    cases a with
    | receive p => cases h
    | answer yes => cases h
    | send =>
      obtain rfl := Option.some.inj h
      simp [Act.events, sentIn, askedIn, left, doubts, Nat.add_comm]
  | asking p =>
    cases a with
    | send => cases h
    | receive p => cases h
    | answer yes =>
      cases yes <;> obtain rfl := Option.some.inj h <;>
        simp [Act.events, sentIn, askedIn, left, doubts, Move.isYes]
  | underWay retries =>
    cases a with
    | send => cases h
    | answer yes => cases h
    | receive p =>
      obtain rfl := Option.some.inj h
      -- nothing is sent, and somebody is asked only if the request waits for the answer
      have hsent : sentIn (Act.events r (.receive p) (received policy retries p)) = [] :=
        sentIn_events _ _ _
      rw [hsent, Stage.received_eq]
      cases p.mayPass with
      | false => simp [Act.events, askedIn, left, doubts, Move.isYes]
      | true =>
        cases retries with
        | succ retries => simp [Act.events, askedIn, left, doubts, Move.isYes]
        | zero =>
          cases policy.asks with
          | false => simp [Act.events, askedIn, left, doubts, Move.isYes]
          | true => cases hf : p.failure <;> simp [Act.events, askedIn, left, doubts, Move.isYes, hf]

/-- What changes in a sum when one of the values does. -/
theorem sum_map_set {α : Type} (f : α → Nat) {l : List α} {i : Nat} {a : α} (h : l[i]? = some a)
    (b : α) : ((l.set i b).map f).sum + f a = (l.map f).sum + f b := by
  induction l generalizing i with
  | nil => cases h
  | cons x l ih =>
    cases i with
    | zero =>
      obtain rfl := Option.some.inj h
      simp only [List.set_cons_zero, List.map_cons, List.sum_cons]
      omega
    | succ i =>
      have hrest := ih h
      simp only [List.set_cons_succ, List.map_cons, List.sum_cons]
      omega

/-! ### All requests -/

namespace Scene

/-- How often requests are sent at most until somebody answers by yes. -/
def left (s : Scene) : Nat := (s.stages.map Stage.left).sum

/-- How often somebody is asked at most until then. -/
def doubts (s : Scene) : Nat := (s.stages.map Stage.doubts).sum

theorem hasNoticed_put (s : Scene) (i : Nat) (next : Stage) (events : List Event) :
    (s.put i next events).hasNoticed =
      if next.isFinished then s.control.isStopped else s.hasNoticed := by
  unfold put
  split <;> rfl

end Scene

/-- **What happens after the word to stop**, in whatever order: what the log gains, and what is left
of the tries and of the questions. -/
structure Winds (limit : Nat) (s s' : Scene) (moves : List Move) (new : List Event) : Prop where
  /-- The log gains this, -/
  log_eq : s'.log = s.log ++ new
  /-- and the batch is told nothing more. -/
  not_mem : Event.stopped ∉ new
  /-- It stays told to stop. -/
  isStopped : s'.control.isStopped = true
  /-- Requests are sent as often as is left to them, and as is allowed by answers. -/
  sends_le : (sentIn new).length + s'.left ≤ s.left + moves.countP Move.isYes * (limit + 1)
  /-- Somebody is asked once about a request, and once more after every answer by yes. -/
  asks_le : (askedIn new).length + s'.doubts ≤ s.doubts + moves.countP Move.isYes
  /-- One request is finished at most, -/
  done_le : s'.done ≤ s.done + 1
  /-- and then the batch has noticed, if it had not before. -/
  hasNoticed : s.hasNoticed = true ∨ s.done < s'.done → s'.hasNoticed = true
  /-- If it had, nothing happens. -/
  eq_nil : s.hasNoticed = true → new = []

namespace Winds

variable {policy : RetryPolicy} {requests : List Request} {s s₁ s' : Scene} {moves : List Move}
  {new : List Event}

theorem refl (limit : Nat) (h : s.control.isStopped = true) : Winds limit s s [] [] where
  log_eq := (List.append_nil _).symm
  not_mem := List.not_mem_nil
  isStopped := h
  sends_le := by simp [sentIn]
  asks_le := by simp [askedIn]
  done_le := Nat.le_succ _
  hasNoticed := by
    rintro (h | h)
    · exact h
    · exact absurd h (Nat.lt_irrefl _)
  eq_nil _ := rfl

/-- Being told again changes nothing. -/
theorem stop {limit : Nat} (h : Winds limit s s₁ moves new) (route : Route) :
    Winds limit s (s₁.stop route) (moves ++ [.stop route]) new := by
  have hlog : (s₁.stop route).log = s₁.log := if_pos h.isStopped
  have hcount : (moves ++ [Move.stop route]).countP Move.isYes = moves.countP Move.isYes :=
    List.countP_append
  constructor
  case log_eq => exact hlog.trans h.log_eq
  case not_mem => exact h.not_mem
  case isStopped => exact Control.isStopped_stop_of_isStopped h.isStopped route
  case sends_le =>
    rw [hcount]
    exact h.sends_le
  case asks_le =>
    rw [hcount]
    exact h.asks_le
  case done_le => exact h.done_le
  case hasNoticed => exact h.hasNoticed
  case eq_nil => exact h.eq_nil

/-- What one act adds. -/
theorem act (h : Winds policy.limit s s₁ moves new) {i : Nat} {a : Act}
    (hm : s₁.after? policy requests (.act i a) = some s') :
    ∃ events, Winds policy.limit s s' (moves ++ [.act i a]) (new ++ events) := by
  obtain ⟨hnoticed, r, stage, next, -, hstage, ha, rfl⟩ := Scene.after?_act.1 hm
  -- nobody has noticed, so that no request was finished since
  have hold : s.hasNoticed = false ∧ s₁.done ≤ s.done := by
    constructor
    · cases hs : s.hasNoticed with
      | false => rfl
      | true => exact nomatch hnoticed.symm.trans (h.hasNoticed (.inl hs))
    · by_contra hlt
      exact nomatch hnoticed.symm.trans (h.hasNoticed (.inr (Nat.lt_of_not_le hlt)))
  obtain ⟨hsends, hasks⟩ := Stage.left_after ha r i
  have hleft := sum_map_set Stage.left hstage next
  have hdoubts := sum_map_set Stage.doubts hstage next
  have hdone := Scene.done_put hstage (Stage.isFinished_of_after? ha) next (a.events r next)
  have hcount : (moves ++ [Move.act i a]).countP Move.isYes =
      moves.countP Move.isYes + (Move.act i a).isYes.toNat := by
    rw [List.countP_append, List.countP_singleton]
    cases (Move.act i a).isYes <;> rfl
  refine ⟨a.events r next, ?_⟩
  constructor
  case log_eq => rw [Scene.log_put, h.log_eq, List.append_assoc]
  case not_mem =>
    rw [List.mem_append, not_or]
    exact ⟨h.not_mem, stopped_notMem_events a r next⟩
  case isStopped =>
    rw [Scene.isStopped_put]
    exact h.isStopped
  case sends_le =>
    have hsends₁ := h.sends_le
    rw [hcount, sentIn_append, List.length_append, Nat.add_mul]
    unfold Scene.left at hsends₁ ⊢
    rw [Scene.stages_put]
    omega
  case asks_le =>
    have hasks₁ := h.asks_le
    rw [hcount, askedIn_append, List.length_append]
    unfold Scene.doubts at hasks₁ ⊢
    rw [Scene.stages_put]
    omega
  case done_le =>
    rw [hdone]
    split <;> omega
  case hasNoticed =>
    rintro (hs | hlt)
    · rw [hold.1] at hs
      cases hs
    · rw [Scene.hasNoticed_put]
      rw [hdone] at hlt
      split at hlt
      · rename_i hfinished
        rw [if_pos hfinished, h.isStopped]
      · omega
  case eq_nil =>
    intro hs
    rw [hold.1] at hs
    cases hs

/-- **Everything that happens after the word to stop.** -/
theorem of_run (hs : s.control.isStopped = true)
    (h : moves.foldlM (Scene.after? policy requests) s = some s') :
    ∃ new, Winds policy.limit s s' moves new := by
  -- by induction on the moves, from the first one on
  induction moves using List.reverseRecOn generalizing s' with
  | nil =>
    obtain rfl := Option.some.inj h
    exact ⟨[], .refl _ hs⟩
  | append_singleton moves m ih =>
    rw [List.foldlM_append] at h
    obtain ⟨s₁, hs₁, hm⟩ := Option.bind_eq_some_iff.1 h
    obtain ⟨new, hwinds⟩ := ih hs₁
    have hm : s₁.after? policy requests m = some s' := by
      simpa using hm
    cases m with
    | stop route =>
      obtain rfl := Option.some.inj hm
      exact ⟨new, hwinds.stop route⟩
    | act i a =>
      obtain ⟨events, hwinds⟩ := hwinds.act hm
      exact ⟨_, hwinds⟩

end Winds

end Batch

end SignIn
