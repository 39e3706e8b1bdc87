import SignIn.Activity.Board
import SignIn.Proofs.Activity.Story

/-!
# The life of an activity

Many hands may hold an activity and ask things of it, in any order, while tokens above it are
cancelled and other activities come and go.  All of this reaches the activity as updates, each of
them accepted or ignored, so that its life is the story of the updates that it accepted.

A call to cancel an activity is two things, the cancellation of its token and an update, and
other calls may come between them where hands work at the same time.  Both are calls of their own
here as well, so what is said of all sequences of calls holds of these, too.

## Main definitions

* `Board.Call`, `Board.call` — what is asked of a board, and what comes of it.
* `Board.activity`, `Board.view` — an activity on a board, and what a watcher sees of it.
* `Board.accepted` — the updates that an activity accepts in a sequence of calls.
* `Phase.Leads` — where a phase leads.
* `Board.Lives` — the laws of the life of an activity.

## Main results

* `Board.story_after` — what a watcher sees is told by the accepted updates.
* `Board.lives_addActivity` — every activity lives by the laws.
-/

namespace SignIn

/-- One phase leads to another one. -/
inductive Phase.Leads : Phase → Phase → Prop
  /-- What has not started may start. -/
  | start : Leads .inactive .running
  /-- What has not started may be given up. -/
  | abandon : Leads .inactive .aborted
  /-- What runs may succeed. -/
  | succeed : Leads .running .succeeded
  /-- What runs may fail. -/
  | fail : Leads .running .failed
  /-- What runs may be given up. -/
  | abort : Leads .running .aborted

/-- An accepted update leaves the phase alone or leads on to the next one. -/
theorem Snapshot.leads_of_after? {s s' : Snapshot} {u : Update} (h : s.after? u = some s') :
    s'.phase = s.phase ∨ Phase.Leads s.phase s'.phase := by
  cases u with
  | abort =>
    cases hp : s.phase <;> simp [after?, hp, Phase.isTerminal] at h
    all_goals
      rw [← h]
      right
      constructor
  | start | succeed | fail message =>
    simp only [after?, Option.ite_none_right_eq_some, Option.some.injEq] at h
    obtain ⟨hp, rfl⟩ := h
    rw [hp]
    right
    constructor
  | progress current total | status text =>
    simp only [after?, Option.ite_none_right_eq_some, Option.some.injEq] at h
    obtain ⟨-, rfl⟩ := h
    exact .inl rfl

/-- An activity that accepts an update has not ended before. -/
theorem Snapshot.isTerminal_eq_false_of_after? {s s' : Snapshot} {u : Update}
    (h : s.after? u = some s') : s.phase.isTerminal = false := by
  cases ht : s.phase.isTerminal with
  | false => rfl
  | true =>
    rw [after?_eq_none ht] at h
    cases h

/-- An activity has ended after an accepted update exactly if the update ends it. -/
theorem Snapshot.isTerminal_of_after? {s s' : Snapshot} {u : Update} (h : s.after? u = some s') :
    s'.phase.isTerminal = u.isEnd := by
  have ht := isTerminal_eq_false_of_after? h
  cases u with
  | abort =>
    rw [after?, ht] at h
    obtain rfl := Option.some.inj h
    rfl
  | start | succeed | fail message =>
    obtain ⟨-, hs⟩ := Option.ite_none_right_eq_some.1 h
    obtain rfl := Option.some.inj hs
    rfl
  | progress current total | status text =>
    obtain ⟨-, hs⟩ := Option.ite_none_right_eq_some.1 h
    obtain rfl := Option.some.inj hs
    exact ht

/-- What only shows something is accepted exactly while the activity runs. -/
theorem Snapshot.isSome_after?_of_isShow {u : Update} (h : u.isShow = true) (s : Snapshot) :
    (s.after? u).isSome = true ↔ s.phase = .running := by
  cases u with
  | progress current total | status text => simp [after?]
  | start | succeed | fail message | abort => cases h

namespace Activity

/-- An update is accepted exactly if it leads to another snapshot. -/
theorem update_snd (a : Activity) (u : Update) : (a.update u).2 = (a.snapshot.after? u).isSome := by
  unfold update
  cases a.snapshot.after? u <;> rfl

/-- What is seen after an update, accepted or not. -/
theorem snapshot_tell (a : Activity) (u : Update) :
    (a.tell u).snapshot = (a.snapshot.after? u).getD a.snapshot := by
  unfold tell update
  cases a.snapshot.after? u <;> rfl

end Activity

namespace Board

/-- What is asked of a board. -/
inductive Call where
  /-- To update an activity. -/
  | update (id : ActivityId) (u : Update)
  /-- To cancel an activity. -/
  | cancel (id : ActivityId)
  /-- To cancel a token. -/
  | cancelToken (token : TokenId)
  /-- To make a token. -/
  | addToken
  /-- To make an activity. -/
  | addActivity (name : String) (parent : Option TokenId)

/-- What comes of a call, and whether an activity accepted it. -/
def call (b : Board) : Call → Board × Bool
  | .update id u => b.update id u
  | .cancel id => b.cancel id
  | .cancelToken token => (b.cancelToken token, false)
  | .addToken => (b.addToken.1, false)
  | .addActivity name parent => ((b.addActivity name parent).1, false)

/-- The update that a call asks of an activity. -/
def Call.asks? (id : ActivityId) : Call → Option Update
  | .update id' u => if id' = id then some u else none
  | .cancel id' => if id' = id then some .abort else none
  | _ => none

/-- An activity on a board; in the place of one that is missing, one that has not started. -/
def activity (b : Board) (id : ActivityId) : Activity := ((b.get? id).map (·.1)).getD (.new "")

/-- What a watcher sees of an activity. -/
def view (b : Board) (id : ActivityId) : Snapshot :=
  ((b.get? id).map fun (a, _) => a.snapshot).getD .initial

/-- The board after a sequence of calls. -/
def after (b : Board) (calls : List Call) : Board := calls.foldl (fun b c => (b.call c).1) b

/-- The update that an activity accepts by a call. -/
def accepts? (b : Board) (id : ActivityId) (c : Call) : Option Update :=
  (c.asks? id).filter fun _ => (b.call c).2

/-- The updates that an activity accepts by a sequence of calls, in order. -/
def accepted (id : ActivityId) : Board → List Call → List Update
  | _, [] => []
  | b, c :: calls => (b.accepts? id c).toList ++ accepted id (b.call c).1 calls

theorem after_concat (b : Board) (calls : List Call) (c : Call) :
    b.after (calls ++ [c]) = ((b.after calls).call c).1 := by
  simp [after]

/-! ### What one call does to an activity -/

theorem get?_set_self (b : Board) (id : ActivityId) (a : Activity) :
    (b.set id a).get? id = (b.get? id).map fun (_, token) => (a, token) := by
  simp [get?, set]

theorem get?_set_of_ne (b : Board) {id id' : ActivityId} (h : id' ≠ id) (a : Activity) :
    (b.set id' a).get? id = b.get? id := by
  simp [get?, set, h]

theorem view_eq (b : Board) (id : ActivityId) : b.view id = (b.activity id).snapshot := by
  unfold view activity
  cases b.get? id <;> rfl

theorem activity_update_self {b : Board} {id : ActivityId} (hid : id < b.activities.length)
    (u : Update) :
    (b.update id u).2 = ((b.activity id).update u).2 ∧
      (b.update id u).1.activity id = (b.activity id).tell u := by
  have hget : b.get? id = some b.activities[id] := List.getElem?_eq_getElem hid
  have ha : b.activity id = b.activities[id].1 := by simp [activity, hget]
  rw [ha]
  unfold update
  simp [activity, get?_set_self, hget, Activity.tell]

theorem activity_update_of_ne (b : Board) {id id' : ActivityId} (h : id' ≠ id) (u : Update) :
    (b.update id' u).1.activity id = b.activity id := by
  unfold update
  cases hget : b.get? id' with
  | none => rfl
  | some at' => simp only [activity, get?_set_of_ne b h]

theorem activity_cancel_self {b : Board} {id : ActivityId} (hid : id < b.activities.length) :
    (b.cancel id).2 = ((b.activity id).update .abort).2 ∧
      (b.cancel id).1.activity id = (b.activity id).tell .abort := by
  have hget : b.get? id = some b.activities[id] := List.getElem?_eq_getElem hid
  have ha : b.activity id = b.activities[id].1 := by simp [activity, hget]
  unfold cancel
  simp only [hget]
  split
  case isTrue ht =>
    rw [Activity.tell, Activity.update_of_isTerminal (ha ▸ ht)]
    exact ⟨rfl, rfl⟩
  case isFalse => exact activity_update_self (b := b.cancelToken _) hid .abort

theorem activity_cancel_of_ne (b : Board) {id id' : ActivityId} (h : id' ≠ id) :
    (b.cancel id').1.activity id = b.activity id := by
  unfold cancel
  cases hget : b.get? id' with
  | none => rfl
  | some at' =>
    dsimp only
    split
    · rfl
    · exact activity_update_of_ne (b.cancelToken at'.2) h .abort

theorem activity_addActivity {b : Board} {id : ActivityId} (hid : id < b.activities.length)
    (name : String) (parent : Option TokenId) :
    (b.addActivity name parent).1.activity id = b.activity id := by
  simp only [activity, get?, addActivity, List.getElem?_append_left hid]

/-- A call that asks an activity for an update does what the update does to the activity. -/
theorem activity_call_of_asks {b : Board} {id : ActivityId} (hid : id < b.activities.length)
    {c : Call} {u : Update} (h : c.asks? id = some u) :
    (b.call c).2 = ((b.activity id).update u).2 ∧
      (b.call c).1.activity id = (b.activity id).tell u := by
  cases c with
  | update id' u' =>
    obtain ⟨rfl, rfl⟩ : id' = id ∧ u' = u := by simpa [Call.asks?] using h
    exact activity_update_self hid u'
  | cancel id' =>
    obtain ⟨rfl, rfl⟩ : id' = id ∧ .abort = u := by simpa [Call.asks?] using h
    exact activity_cancel_self hid
  | cancelToken | addToken | addActivity => cases h

/-- A call that asks an activity for nothing leaves it alone. -/
theorem activity_call_of_asks_none {b : Board} {id : ActivityId}
    (hid : id < b.activities.length) {c : Call} (h : c.asks? id = none) :
    (b.call c).1.activity id = b.activity id := by
  cases c with
  | update id' u => exact activity_update_of_ne b (by simpa [Call.asks?] using h) u
  | cancel id' => exact activity_cancel_of_ne b (by simpa [Call.asks?] using h)
  | cancelToken token => rfl
  | addToken => rfl
  | addActivity name parent => exact activity_addActivity hid name parent

/-- A call that asks an activity for an update does what the update does to what is seen. -/
theorem view_call_of_asks {b : Board} {id : ActivityId} (hid : id < b.activities.length)
    {c : Call} {u : Update} (h : c.asks? id = some u) :
    (b.call c).2 = ((b.view id).after? u).isSome ∧
      (b.call c).1.view id = ((b.view id).after? u).getD (b.view id) := by
  obtain ⟨hcall, hactivity⟩ := activity_call_of_asks hid h
  rw [view_eq, view_eq, hcall, hactivity]
  exact ⟨Activity.update_snd .., Activity.snapshot_tell ..⟩

/-- A call that asks an activity for nothing changes nothing that is seen of it. -/
theorem view_call_of_asks_none {b : Board} {id : ActivityId} (hid : id < b.activities.length)
    {c : Call} (h : c.asks? id = none) : (b.call c).1.view id = b.view id := by
  rw [view_eq, view_eq, activity_call_of_asks_none hid h]

/-- What an activity accepts is what its snapshot accepts. -/
theorem accepts?_of_asks {b : Board} {id : ActivityId} (hid : id < b.activities.length)
    {c : Call} {u : Update} (h : c.asks? id = some u) :
    b.accepts? id c = if ((b.view id).after? u).isSome then some u else none := by
  simp [accepts?, h, Option.filter, (view_call_of_asks hid h).1]

/-- An accepted update is what changes the view of an activity. -/
theorem after?_of_accepts {b : Board} {id : ActivityId} (hid : id < b.activities.length)
    {c : Call} {u : Update} (h : b.accepts? id c = some u) :
    (b.view id).after? u = some ((b.call c).1.view id) := by
  obtain ⟨ha, hu⟩ := Option.filter_eq_some_iff.1 h
  obtain ⟨hcall, hview⟩ := view_call_of_asks hid ha
  rw [hcall] at hu
  obtain ⟨s, hs⟩ := Option.isSome_iff_exists.1 hu
  rw [hview, hs]
  rfl

/-- Without an accepted update nothing changes. -/
theorem view_call_of_accepts_none {b : Board} {id : ActivityId} (hid : id < b.activities.length)
    {c : Call} (h : b.accepts? id c = none) : (b.call c).1.view id = b.view id := by
  cases ha : c.asks? id with
  | none => exact view_call_of_asks_none hid ha
  | some u =>
    rw [accepts?_of_asks hid ha] at h
    have hs : (b.view id).after? u = none := by simpa using h
    rw [(view_call_of_asks hid ha).2, hs]
    rfl

/-- A call answers yes for ending the activity exactly if the activity ends by it. -/
theorem ends_iff {b : Board} {id : ActivityId} (hid : id < b.activities.length) (c : Call) :
    (∃ u, b.accepts? id c = some u ∧ u.isEnd = true) ↔
      (b.view id).phase.isTerminal = false ∧
        ((b.call c).1.view id).phase.isTerminal = true := by
  cases hc : b.accepts? id c with
  | none =>
    rw [view_call_of_accepts_none hid hc]
    cases (b.view id).phase.isTerminal <;> simp
  | some u =>
    have hs := after?_of_accepts hid hc
    simp [Snapshot.isTerminal_eq_false_of_after? hs, Snapshot.isTerminal_of_after? hs]

/-- No call removes an activity. -/
theorem length_le_call (b : Board) (c : Call) :
    b.activities.length ≤ (b.call c).1.activities.length := by
  have update (b : Board) (id : ActivityId) (u : Update) :
      b.activities.length ≤ (b.update id u).1.activities.length := by
    unfold Board.update
    split
    · simp [set]
    · exact Nat.le_refl _
  cases c with
  | update id u => exact update b id u
  | cancel id =>
    change _ ≤ (b.cancel id).1.activities.length
    unfold cancel
    split
    · split
      · exact Nat.le_refl _
      · exact update (b.cancelToken _) id .abort
    · exact Nat.le_refl _
  | cancelToken token => exact Nat.le_refl _
  | addToken => exact Nat.le_refl _
  | addActivity name parent => simp [call, addActivity]

/-! ### What a sequence of calls does -/

theorem length_le_after (b : Board) (calls : List Call) :
    b.activities.length ≤ (b.after calls).activities.length := by
  induction calls generalizing b with
  | nil => exact Nat.le_refl _
  | cons c calls ih => exact Nat.le_trans (length_le_call b c) (ih _)

theorem after_append (b : Board) (calls calls' : List Call) :
    b.after (calls ++ calls') = (b.after calls).after calls' := List.foldl_append ..

/-- What has ended never changes again. -/
theorem view_after_of_isTerminal {b : Board} {id : ActivityId} (hid : id < b.activities.length)
    (h : (b.view id).phase.isTerminal = true) (calls : List Call) :
    (b.after calls).view id = b.view id := by
  induction calls generalizing b with
  | nil => rfl
  | cons c calls ih =>
    have hc : (b.call c).1.view id = b.view id := by
      cases hc : b.accepts? id c with
      | none => exact view_call_of_accepts_none hid hc
      | some u =>
        have hs := after?_of_accepts hid hc
        rw [Snapshot.after?_eq_none h] at hs
        cases hs
    exact (ih (Nat.lt_of_lt_of_le hid (length_le_call b c)) (hc ▸ h)).trans hc

/-- **What a watcher sees of an activity is told by the updates that it accepted.** -/
theorem story_after {b : Board} {id : ActivityId} (hid : id < b.activities.length)
    (h : b.view id = .initial) (calls : List Call) :
    Story (accepted id b calls) ((b.after calls).view id) := by
  suffices h : ∀ us (b : Board), id < b.activities.length → Story us (b.view id) →
      Story (us ++ accepted id b calls) ((b.after calls).view id) from
    h [] b hid (‹b.view id = _› ▸ .unstarted)
  induction calls with
  | nil =>
    intro us b _ hs
    rwa [accepted, List.append_nil]
  | cons c calls ih =>
    intro us b hid hs
    have hid' := Nat.lt_of_lt_of_le hid (length_le_call b c)
    rw [accepted, ← List.append_assoc]
    refine ih _ _ hid' ?_
    cases hc : b.accepts? id c with
    | none =>
      rw [view_call_of_accepts_none hid hc]
      simpa using hs
    | some u => exact hs.step (after?_of_accepts hid hc)

/-- The laws of the life of an activity, on a board and through a sequence of calls. -/
structure Lives (id : ActivityId) (b : Board) (calls : List Call) : Prop where
  /-- A call leaves the phase alone or leads on to the next one. -/
  forward {before : List Call} {c : Call} (h : before ++ [c] <+: calls) :
    ((b.after (before ++ [c])).view id).phase = ((b.after before).view id).phase ∨
      Phase.Leads ((b.after before).view id).phase ((b.after (before ++ [c])).view id).phase
  /-- What has ended never changes again. -/
  final {before : List Call} (h : before <+: calls)
    (ht : ((b.after before).view id).phase.isTerminal = true) :
    (b.after calls).view id = (b.after before).view id
  /-- A failure is seen exactly if the activity has failed. -/
  failed_iff : ((b.after calls).view id).failure.isSome = true ↔
    ((b.after calls).view id).phase = .failed
  /-- That failure is the message of the only call to fail that was accepted. -/
  failures : (accepted id b calls).filterMap Update.failure? =
    ((b.after calls).view id).failure.toList
  /-- It starts once at most. -/
  starts : (accepted id b calls).count .start ≤ 1
  /-- One call to end it is accepted if it has ended, and none otherwise. -/
  ends : ((accepted id b calls).filter Update.isEnd).length =
    if ((b.after calls).view id).phase.isTerminal then 1 else 0
  /-- That call is the one by which it ended. -/
  ended_iff {before : List Call} {c : Call} (h : before ++ [c] <+: calls) :
    (∃ u, (b.after before).accepts? id c = some u ∧ u.isEnd = true) ↔
      ((b.after before).view id).phase.isTerminal = false ∧
        ((b.after (before ++ [c])).view id).phase.isTerminal = true
  /-- What has succeeded or failed has started before all else. -/
  started (h : ((b.after calls).view id).phase = .succeeded ∨
    ((b.after calls).view id).phase = .failed) : (accepted id b calls).head? = some .start
  /-- It accepts progress and status exactly while it runs. -/
  shown_iff {before : List Call} {c : Call} (h : before ++ [c] <+: calls) {u : Update}
    (hu : u.isShow = true) (hc : c.asks? id = some u) :
    (b.after before).accepts? id c = some u ↔ ((b.after before).view id).phase = .running
  /-- The progress that is seen was accepted last. -/
  progress : ((b.after calls).view id).progress = lastProgress (accepted id b calls)
  /-- The status that is seen was accepted last. -/
  status : ((b.after calls).view id).status = lastStatus (accepted id b calls)
  /-- The cancellation of a token by itself changes nothing that is seen. -/
  token (token : TokenId) : ((b.after calls).cancelToken token).view id = (b.after calls).view id

/-- **Every activity lives by the laws**, whatever is asked of it and of all else on the board,
and in whatever order. -/
theorem lives_addActivity (b : Board) (name : String) (parent : Option TokenId)
    (calls : List Call) :
    Lives (b.addActivity name parent).2 (b.addActivity name parent).1 calls := by
  obtain ⟨hid, hview⟩ : (b.addActivity name parent).2 <
        (b.addActivity name parent).1.activities.length ∧
      (b.addActivity name parent).1.view (b.addActivity name parent).2 = .initial := by
    simp [addActivity, view, get?, Activity.new]
  generalize (b.addActivity name parent).2 = id, (b.addActivity name parent).1 = b at hid hview ⊢
  have hmid (before : List Call) : id < (b.after before).activities.length :=
    Nat.lt_of_lt_of_le hid (length_le_after b before)
  have hstory := story_after hid hview calls
  refine ⟨?forward, ?final, hstory.isSome_failure_iff, hstory.failures_eq, hstory.count_start_le,
    hstory.length_ends, ?ended, hstory.head?_eq_start, ?shown, hstory.progress_eq,
    hstory.status_eq, fun token => rfl⟩
  case forward =>
    intro before c _
    rw [after_concat]
    cases hc : (b.after before).accepts? id c with
    | none => exact .inl (by rw [view_call_of_accepts_none (hmid before) hc])
    | some u => exact Snapshot.leads_of_after? (after?_of_accepts (hmid before) hc)
  case final =>
    rintro before ⟨rest, rfl⟩ ht
    rw [after_append]
    exact view_after_of_isTerminal (hmid before) ht rest
  case ended =>
    intro before c _
    rw [after_concat]
    exact ends_iff (hmid before) c
  case shown =>
    intro before c _ u hu hc
    rw [accepts?_of_asks (hmid before) hc, ← Snapshot.isSome_after?_of_isShow hu,
      Option.ite_none_right_eq_some]
    exact and_iff_left rfl

end Board

end SignIn
