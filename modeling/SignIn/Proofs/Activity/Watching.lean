import Mathlib.Data.List.Induction
import SignIn.Activity.Waiter
import SignIn.Proofs.Activity.Lifecycle

/-!
# Watching an activity

A watcher is told that something happened, not what: it finds out by looking, whenever it likes,
and what happened before it looked is old then.  So a notification is pending for it exactly if
the activity has accepted an update since its last look.  As nothing is accepted after the end,
one notification announces the end and none follows it, and who waits for the end is woken for it
and finds the snapshot that everyone sees from then on.

The turns of a watcher come at any moments between the calls.  For a subscriber a turn is a look;
a waiter looks in its turn only if it was notified.

## Main definitions

* `Moment` — a call, or a turn of the watcher.
* `Board.watch`, `Board.wait` — what a subscriber and a waiter have come to after some moments.
* `Board.Accepts` — whether a call is an accepted update, told by its answer and the phase.
* `Board.HasNews` — whether there was one since the last turn.
* `Board.announced` — the snapshots that notifications announce.
* `Board.Notifies` — the laws of notifications.

## Main results

* `Board.isNotified_iff` — a notification is pending exactly if there is news.
* `Board.awaits_wait` — what a waiter has come to.
* `Board.notifies_addActivity` — every activity keeps to the laws.
-/

namespace SignIn

namespace Activity

/-- The count of accepted updates tells whether an update was accepted. -/
theorem version_tell (a : Activity) (u : Update) :
    (a.tell u).version = a.version + if (a.snapshot.after? u).isSome then 1 else 0 := by
  unfold tell update
  cases a.snapshot.after? u <;> rfl

/-- An update that is ignored leaves the activity as it is. -/
theorem tell_of_after?_eq_none {a : Activity} {u : Update} (h : a.snapshot.after? u = none) :
    a.tell u = a := by
  rw [tell, update, h]

end Activity

/-- A moment in the life of a board on which someone watches an activity. -/
inductive Moment where
  /-- Something is asked of the board. -/
  | call (c : Board.Call)
  /-- The watcher has its turn. -/
  | turn

/-- The call of a moment, if there is one. -/
def Moment.call? : Moment → Option Board.Call
  | .call c => some c
  | .turn => none

theorem Moment.concat_turn_prefix_concat_call {earlier moments : List Moment} {c : Board.Call} :
    earlier ++ [.turn] <+: moments ++ [.call c] ↔ earlier ++ [.turn] <+: moments := by
  simp [List.prefix_concat_iff]

namespace Board

/-! ### A watcher among calls -/

/-- The board after some moments; the turns of a watcher leave it alone. -/
def through (b : Board) (moments : List Moment) : Board :=
  b.after (moments.filterMap Moment.call?)

/-- What a watcher has come to after some moments, when `turn` says what its turns do. -/
def attend {α : Type} (turn : Activity → α → α) (id : ActivityId) : Board → α → List Moment → α
  | _, x, [] => x
  | b, x, .call c :: moments => attend turn id (b.call c).1 x moments
  | b, x, .turn :: moments => attend turn id b (turn (b.activity id) x) moments

/-- What a subscriber has seen that looks in every turn. -/
def watch (id : ActivityId) (b : Board) (moments : List Moment) : Watch :=
  attend (fun a _ => .start a) id b (.start (b.activity id)) moments

/-- Whether a notification is pending for a subscriber after some moments. -/
def isNotified (id : ActivityId) (b : Board) (moments : List Moment) : Bool :=
  (b.watch id moments).isPending ((b.through moments).activity id)

/-- What has become of someone who waits for the end of an activity. -/
def wait (id : ActivityId) (b : Board) (moments : List Moment) : Waiter :=
  attend Waiter.turn id b (.start (b.activity id)) moments

section Moments

variable (b : Board) (moments : List Moment)

theorem through_append (more : List Moment) :
    b.through (moments ++ more) = (b.through moments).through more := by
  simp only [through, List.filterMap_append, after_append]

@[simp] theorem through_concat_turn : b.through (moments ++ [.turn]) = b.through moments := by
  rw [through_append]
  rfl

@[simp] theorem through_concat_call (c : Call) :
    b.through (moments ++ [.call c]) = ((b.through moments).call c).1 := by
  rw [through_append]
  rfl

theorem attend_append {α : Type} (turn : Activity → α → α) (id : ActivityId) (x : α)
    (more : List Moment) :
    attend turn id b x (moments ++ more) =
      attend turn id (b.through moments) (attend turn id b x moments) more := by
  induction moments generalizing b x with
  | nil => rfl
  | cons m moments ih =>
    cases m with
    | call c => exact ih ..
    | turn => exact ih ..

@[simp] theorem watch_concat_turn (id : ActivityId) :
    b.watch id (moments ++ [.turn]) = .start ((b.through moments).activity id) :=
  attend_append ..

@[simp] theorem watch_concat_call (id : ActivityId) (c : Call) :
    b.watch id (moments ++ [.call c]) = b.watch id moments :=
  attend_append ..

@[simp] theorem wait_concat_turn (id : ActivityId) :
    b.wait id (moments ++ [.turn]) =
      (b.wait id moments).turn ((b.through moments).activity id) :=
  attend_append ..

end Moments

section Watched

variable {id : ActivityId} {b : Board} (hid : id < b.activities.length)

include hid

theorem lt_length_through (moments : List Moment) : id < (b.through moments).activities.length :=
  Nat.lt_of_lt_of_le hid (length_le_after ..)

/-- What every call and every turn preserves holds after all moments. -/
theorem attend_preserves {α : Type} {turn : Activity → α → α} {p : Board → α → Prop}
    (hcall : ∀ {b : Board} {x : α} (c : Call), id < b.activities.length → p b x → p (b.call c).1 x)
    (hturn : ∀ {b : Board} {x : α}, p b x → p b (turn (b.activity id) x)) {x : α} (h : p b x)
    (moments : List Moment) : p (b.through moments) (attend turn id b x moments) := by
  induction moments generalizing b x with
  | nil => exact h
  | cons m moments ih =>
    cases m with
    | call c => exact ih (Nat.lt_of_lt_of_le hid (length_le_call b c)) (hcall c hid h)
    | turn => exact ih hid (hturn h)

/-- What has ended looks the same after any moments. -/
theorem view_through_of_isTerminal (h : (b.view id).phase.isTerminal = true)
    (moments : List Moment) : (b.through moments).view id = b.view id :=
  view_after_of_isTerminal hid h _

end Watched

/-! ### Accepted updates -/

/-- Whether a call is an accepted update of an activity: one that starts or ends it if it answers
so, and one that shows something if the activity runs. -/
def Accepts (b : Board) (id : ActivityId) (c : Call) : Prop :=
  ∃ u, c.asks? id = some u ∧
    if u.isShow then (b.view id).phase = .running else (b.call c).2 = true

/-- Whether a call notifies those who watch an activity. -/
def reaches (b : Board) (id : ActivityId) (c : Call) : Bool :=
  ((b.call c).1.activity id).version != (b.activity id).version

section Accepted

variable {id : ActivityId} {b : Board} (hid : id < b.activities.length) {c : Call}

include hid

theorem accepts_iff : b.Accepts id c ↔ (b.accepts? id c).isSome = true := by
  cases ha : c.asks? id with
  | none => simp [Accepts, accepts?, ha]
  | some u =>
    have hiff : b.Accepts id c ↔ ((b.view id).after? u).isSome = true := by
      simp only [Accepts, ha, Option.some.injEq, exists_eq_left', (view_call_of_asks hid ha).1]
      split
      · rename_i hu
        exact (Snapshot.isSome_after?_of_isShow hu _).symm
      · rfl
    rw [hiff, accepts?_of_asks hid ha]
    split <;> simp [*]

theorem activity_call_of_not_accepts (h : ¬ b.Accepts id c) :
    (b.call c).1.activity id = b.activity id := by
  cases ha : c.asks? id with
  | none => exact activity_call_of_asks_none hid ha
  | some u =>
    rw [(activity_call_of_asks hid ha).2]
    refine Activity.tell_of_after?_eq_none ?_
    rw [accepts_iff hid, accepts?_of_asks hid ha, view_eq] at h
    simpa using h

theorem version_call_of_accepts (h : b.Accepts id c) :
    ((b.call c).1.activity id).version = (b.activity id).version + 1 := by
  obtain ⟨u, hu⟩ := Option.isSome_iff_exists.1 ((accepts_iff hid).1 h)
  have ha := (Option.filter_eq_some_iff.1 hu).1
  have hs := after?_of_accepts hid hu
  rw [view_eq] at hs
  rw [(activity_call_of_asks hid ha).2, Activity.version_tell, hs]
  rfl

theorem version_le_call (c : Call) :
    (b.activity id).version ≤ ((b.call c).1.activity id).version := by
  by_cases h : b.Accepts id c
  · rw [version_call_of_accepts hid h]
    exact Nat.le_succ _
  · exact Nat.le_of_eq (by rw [activity_call_of_not_accepts hid h])

/-- A call notifies exactly if it is an accepted update. -/
theorem reaches_iff : b.reaches id c = true ↔ b.Accepts id c := by
  rw [reaches, bne_iff_ne]
  constructor
  · intro hne
    by_contra h
    exact hne (congrArg Activity.version (activity_call_of_not_accepts hid h))
  · intro h
    rw [version_call_of_accepts hid h]
    omega

theorem not_accepts_of_isTerminal (h : (b.view id).phase.isTerminal = true) :
    ¬ b.Accepts id c := by
  rw [accepts_iff hid]
  intro hc
  obtain ⟨u, hu⟩ := Option.isSome_iff_exists.1 hc
  have hs := after?_of_accepts hid hu
  rw [Snapshot.after?_eq_none h] at hs
  cases hs

theorem accepts_of_view_ne (h : (b.call c).1.view id ≠ b.view id) : b.Accepts id c := by
  by_contra hc
  rw [view_eq, view_eq, activity_call_of_not_accepts hid hc] at h
  exact h rfl

end Accepted

/-! ### What a subscriber is told -/

/-- Whether an update was accepted since the last turn, or at all if there was no turn. -/
def HasNews (id : ActivityId) (b : Board) (moments : List Moment) : Prop :=
  ∃ before c after, moments = before ++ .call c :: after ∧ .turn ∉ after ∧
    (b.through before).Accepts id c

section Subscriber

variable {id : ActivityId} {b : Board} {moments : List Moment}

theorem not_hasNews_nil : ¬ HasNews id b [] := by
  rintro ⟨before, c, after, heq, -⟩
  simp at heq

theorem not_hasNews_concat_turn : ¬ HasNews id b (moments ++ [.turn]) := by
  rintro ⟨before, c, after, heq, hafter, -⟩
  cases after using List.reverseRecOn with
  | nil => simp at heq
  | append_singleton after m =>
    rw [← List.cons_append, ← List.append_assoc] at heq
    obtain ⟨-, hm⟩ := List.append_inj' heq rfl
    exact hafter (by simp [← (List.cons.inj hm).1])

theorem hasNews_concat_call {c : Call} :
    HasNews id b (moments ++ [.call c]) ↔
      HasNews id b moments ∨ (b.through moments).Accepts id c := by
  constructor
  · rintro ⟨before, d, after, heq, hafter, hd⟩
    cases after using List.reverseRecOn with
    | nil =>
      obtain ⟨rfl, hm⟩ := List.append_inj' heq rfl
      obtain rfl := Moment.call.inj (List.cons.inj hm).1
      exact .inr hd
    | append_singleton after m =>
      rw [← List.cons_append, ← List.append_assoc] at heq
      obtain ⟨hmoments, -⟩ := List.append_inj' heq rfl
      exact .inl ⟨before, d, after, hmoments, fun h => hafter (by simp [h]), hd⟩
  · rintro (⟨before, d, after, rfl, hafter, hd⟩ | hc)
    · exact ⟨before, d, after ++ [.call c], by simp, by simpa using hafter, hd⟩
    · exact ⟨moments, c, [], rfl, List.not_mem_nil, hc⟩

variable (hid : id < b.activities.length)

include hid

/-- A subscriber has seen no more than what was accepted. -/
theorem seen_watch_le (moments : List Moment) :
    (b.watch id moments).seen ≤ ((b.through moments).activity id).version :=
  attend_preserves (p := fun b (w : Watch) => w.seen ≤ (b.activity id).version) hid
    (fun c hid h => Nat.le_trans h (version_le_call hid c)) (fun _ => Nat.le_refl _)
    (Nat.le_refl _) moments

/-- **A notification is pending exactly if there is news.** -/
theorem isNotified_iff (moments : List Moment) :
    isNotified id b moments = true ↔ HasNews id b moments := by
  induction moments using List.reverseRecOn with
  | nil =>
    refine iff_of_false ?_ not_hasNews_nil
    simp [isNotified, Watch.isPending, watch, attend, Watch.start, through, after]
  | append_singleton moments m ih =>
    have hid' := lt_length_through hid moments
    cases m with
    | turn =>
      refine iff_of_false ?_ not_hasNews_concat_turn
      simp [isNotified, Watch.isPending, Watch.start]
    | call c =>
      rw [hasNews_concat_call, ← ih]
      simp only [isNotified, watch_concat_call, through_concat_call, Watch.isPending, bne_iff_ne]
      have hseen := seen_watch_le hid moments
      by_cases hc : (b.through moments).Accepts id c
      · rw [version_call_of_accepts hid' hc]
        exact iff_of_true (by omega) (.inr hc)
      · rw [activity_call_of_not_accepts hid' hc]
        exact (or_iff_left hc).symm

end Subscriber

/-! ### How the end is announced -/

/-- The snapshots that the notifications of a sequence of calls announce, in order. -/
def announced (id : ActivityId) : Board → List Call → List Snapshot
  | _, [] => []
  | b, c :: calls =>
    (if b.reaches id c then [(b.call c).1.view id] else []) ++ announced id (b.call c).1 calls

section Announced

variable {id : ActivityId} {b : Board} (hid : id < b.activities.length)

include hid

/-- Nothing is announced after the end. -/
theorem announced_of_isTerminal (h : (b.view id).phase.isTerminal = true) (calls : List Call) :
    announced id b calls = [] := by
  induction calls generalizing b with
  | nil => rfl
  | cons c calls ih =>
    have hc := not_accepts_of_isTerminal hid h (c := c)
    have hview : (b.call c).1.view id = b.view id := by
      rw [view_eq, view_eq, activity_call_of_not_accepts hid hc]
    rw [announced, if_neg ((reaches_iff hid).not.2 hc), List.nil_append]
    exact ih (Nat.lt_of_lt_of_le hid (length_le_call b c)) (hview ▸ h)

/-- **One notification announces the end**, and it is the last one. -/
theorem announced_eq (h : (b.view id).phase.isTerminal = false) (calls : List Call) :
    ∃ front, (∀ s ∈ front, s.phase.isTerminal = false) ∧
      announced id b calls = front ++
        if ((b.after calls).view id).phase.isTerminal then [(b.after calls).view id] else [] := by
  induction calls generalizing b with
  | nil => exact ⟨[], List.forall_mem_nil _, by simp [announced, after, h]⟩
  | cons c calls ih =>
    have hid' := Nat.lt_of_lt_of_le hid (length_le_call b c)
    have hafter : b.after (c :: calls) = (b.call c).1.after calls := rfl
    rw [hafter, announced]
    cases hend : ((b.call c).1.view id).phase.isTerminal with
    | true =>
      -- the activity ends by this call, which is accepted then
      have hc : b.Accepts id c := accepts_of_view_ne hid fun heq => by simp [heq, h] at hend
      rw [if_pos ((reaches_iff hid).2 hc), announced_of_isTerminal hid' hend,
        view_after_of_isTerminal hid' hend, if_pos hend]
      exact ⟨[], List.forall_mem_nil _, rfl⟩
    | false =>
      obtain ⟨front, hfront, heq⟩ := ih hid' hend
      rw [heq, ← List.append_assoc]
      refine ⟨_, ?_, rfl⟩
      intro s hs
      obtain hs | hs := List.mem_append.1 hs
      · split at hs
        · rwa [List.mem_singleton.1 hs]
        · cases hs
      · exact hfront s hs

/-- **The first look after the end finds a notification**, and no later look does. -/
theorem isNotified_iff_of_isTerminal (h : (b.view id).phase.isTerminal = false)
    {moments : List Moment} (hend : ((b.through moments).view id).phase.isTerminal = true) :
    isNotified id b moments = true ↔
      ∀ earlier, earlier ++ [.turn] <+: moments →
        ((b.through earlier).view id).phase.isTerminal = false := by
  induction moments using List.reverseRecOn with
  | nil => exact absurd hend (by simpa [through, after] using h)
  | append_singleton moments m ih =>
    have hid' := lt_length_through hid moments
    cases m with
    | turn =>
      rw [through_concat_turn] at hend
      refine iff_of_false (by simp [isNotified, Watch.isPending, Watch.start]) fun hall => ?_
      rw [hall moments List.prefix_rfl] at hend
      cases hend
    | call c =>
      rw [isNotified_iff hid, hasNews_concat_call, ← isNotified_iff hid]
      simp only [Moment.concat_turn_prefix_concat_call]
      cases hmoments : ((b.through moments).view id).phase.isTerminal with
      | true => rw [or_iff_left (not_accepts_of_isTerminal hid' hmoments), ih hmoments]
      | false =>
        rw [through_concat_call] at hend
        refine iff_of_true (.inr (accepts_of_view_ne hid' fun heq => ?_)) ?_
        · rw [heq, hmoments] at hend
          cases hend
        · rintro earlier hprefix
          obtain ⟨rest, rfl⟩ := (List.prefix_append earlier [.turn]).trans hprefix
          by_contra hearlier
          rw [Bool.not_eq_false] at hearlier
          rw [through_append, view_through_of_isTerminal (lt_length_through hid earlier) hearlier,
            hearlier] at hmoments
          cases hmoments

end Announced

/-! ### Waiting for the end -/

/-- What a waiter has come to: it is done with the snapshot that is seen from the end on, or it is
asleep, and then a notification is pending for it if the end has come. -/
def Awaits (id : ActivityId) (b : Board) : Waiter → Prop
  | .done final => b.view id = final ∧ final.phase.isTerminal = true
  | .asleep watch => watch.seen ≤ (b.activity id).version ∧
      (watch.isPending (b.activity id) = false → (b.view id).phase.isTerminal = false)

section Waiting

variable {id : ActivityId} {b : Board}

theorem final?_activity (id : ActivityId) (b : Board) :
    (b.activity id).final? =
      if (b.view id).phase.isTerminal then some (b.view id) else none := by
  rw [view_eq]
  rfl

theorem start_of_isTerminal (h : (b.view id).phase.isTerminal = true) :
    Waiter.start (b.activity id) = .done (b.view id) := by
  simp [Waiter.start, final?_activity, h]

theorem awaits_start (id : ActivityId) (b : Board) : Awaits id b (.start (b.activity id)) := by
  cases h : (b.view id).phase.isTerminal with
  | true =>
    rw [start_of_isTerminal h]
    exact ⟨rfl, h⟩
  | false =>
    rw [Waiter.start, final?_activity, h]
    exact ⟨Nat.le_refl _, fun _ => h⟩

theorem Awaits.turn {x : Waiter} (h : Awaits id b x) : Awaits id b (x.turn (b.activity id)) := by
  cases x with
  | done final => exact h
  | asleep watch =>
    rw [Waiter.turn]
    split
    · exact awaits_start id b
    · exact h

variable (hid : id < b.activities.length)

include hid

theorem Awaits.call {x : Waiter} (h : Awaits id b x) (c : Call) : Awaits id (b.call c).1 x := by
  by_cases hc : b.Accepts id c
  · cases x with
    | done final =>
      obtain ⟨rfl, hend⟩ := h
      exact absurd hc (not_accepts_of_isTerminal hid hend)
    | asleep watch =>
      obtain ⟨hseen, -⟩ := h
      have hversion := version_call_of_accepts hid hc
      refine ⟨by omega, fun hnot => ?_⟩
      rw [Watch.isPending, bne_eq_false_iff_eq] at hnot
      omega
  · have hactivity := activity_call_of_not_accepts hid hc
    cases x <;> simpa only [Awaits, view_eq, hactivity] using h

/-- **What a waiter has come to**, whatever was asked of the board and whenever it had a turn. -/
theorem awaits_wait (moments : List Moment) : Awaits id (b.through moments) (b.wait id moments) :=
  attend_preserves (p := Awaits id) hid (fun c hid h => h.call hid c) Awaits.turn
    (awaits_start id b) moments

/-- A waiter that is done stays so. -/
theorem wait_append_of_done {moments : List Moment} {final : Snapshot}
    (h : b.wait id moments = .done final) (more : List Moment) :
    b.wait id (moments ++ more) = .done final := by
  have hstays {a : Activity} {x : Waiter} (hx : x = .done final) : x.turn a = .done final := by
    rw [hx, Waiter.turn]
  rw [wait, attend_append]
  exact attend_preserves (p := fun _ x => x = Waiter.done final) (lt_length_through hid moments)
    (fun _ _ h => h) hstays h more

end Waiting

/-! ### The laws of notifications -/

/-- The laws of notifications for one who begins to watch an activity on a board, through some
moments. -/
structure Notifies (id : ActivityId) (b : Board) (moments : List Moment) : Prop where
  /-- A notification is pending exactly if an update was accepted since the last look. -/
  pending_iff : isNotified id b moments = true ↔ HasNews id b moments
  /-- A call notifies exactly if it is an accepted update. -/
  reaches_iff {before : List Moment} {c : Call} (h : before ++ [.call c] <+: moments) :
    (b.through before).reaches id c = true ↔ (b.through before).Accepts id c
  /-- A call that is ignored changes neither what is pending nor what is seen. -/
  ignored {before : List Moment} {c : Call} (h : before ++ [.call c] <+: moments)
    (hc : ¬ (b.through before).Accepts id c) :
    isNotified id b (before ++ [.call c]) = isNotified id b before ∧
      (b.through (before ++ [.call c])).view id = (b.through before).view id
  /-- One notification announces the end if it comes, and none follows it. -/
  announced (h : (b.view id).phase.isTerminal = false) :
    ∃ front, (∀ s ∈ front, s.phase.isTerminal = false) ∧
      announced id b (moments.filterMap Moment.call?) = front ++
        if ((b.through moments).view id).phase.isTerminal then [(b.through moments).view id]
        else []
  /-- Nothing is announced to those who come after the end. -/
  silent (h : (b.view id).phase.isTerminal = true) :
    Board.announced id b (moments.filterMap Moment.call?) = []
  /-- The first look after the end finds a notification, and no later look does. -/
  told_iff {before : List Moment} (h : before ++ [.turn] <+: moments)
    (hstart : (b.view id).phase.isTerminal = false)
    (hend : ((b.through before).view id).phase.isTerminal = true) :
    isNotified id b before = true ↔ ∀ earlier, earlier ++ [.turn] <+: before →
      ((b.through earlier).view id).phase.isTerminal = false
  /-- Who begins to wait after the end has the last snapshot at once. -/
  waited_late (h : (b.view id).phase.isTerminal = true) : b.wait id moments = .done (b.view id)
  /-- Who sleeps at the end is notified and has the last snapshot by its next turn. -/
  woken {watch : Watch} (h : b.wait id moments = .asleep watch)
    (hend : ((b.through moments).view id).phase.isTerminal = true) :
    watch.isPending ((b.through moments).activity id) = true ∧
      b.wait id (moments ++ [.turn]) = .done ((b.through moments).view id)
  /-- What a waiter has is the last snapshot, which everyone sees from then on. -/
  waited {before : List Moment} {final : Snapshot} (h : before <+: moments)
    (hdone : b.wait id before = .done final) :
    final.phase.isTerminal = true ∧ (b.through before).view id = final ∧
      (b.through moments).view id = final ∧ b.wait id moments = .done final

/-- **Every activity keeps to the laws of notifications**, whenever someone begins to watch it, and
whatever is asked of it and of all else on the board before and after. -/
theorem notifies_addActivity (b : Board) (name : String) (parent : Option TokenId)
    (calls : List Call) (moments : List Moment) :
    Notifies (b.addActivity name parent).2 ((b.addActivity name parent).1.after calls) moments := by
  have hid : (b.addActivity name parent).2 <
      ((b.addActivity name parent).1.after calls).activities.length :=
    Nat.lt_of_lt_of_le (by simp [addActivity]) (length_le_after _ calls)
  generalize (b.addActivity name parent).2 = id, (b.addActivity name parent).1.after calls = b
    at hid
  have hmid := lt_length_through hid
  refine ⟨isNotified_iff hid moments, fun _ => Board.reaches_iff (hmid _), ?ignored,
    fun h => announced_eq hid h _, fun h => announced_of_isTerminal hid h _,
    fun _ hstart hend => isNotified_iff_of_isTerminal hid hstart hend, ?late, ?woken, ?waited⟩
  case ignored =>
    intro before c _ hc
    have hactivity := activity_call_of_not_accepts (hmid before) hc
    simp only [isNotified, watch_concat_call, through_concat_call, view_eq, hactivity, and_self]
  case late =>
    intro h
    have hdone : b.wait id [] = .done (b.view id) := start_of_isTerminal h
    exact List.nil_append moments ▸ wait_append_of_done hid hdone moments
  case woken =>
    intro watch h hend
    have hawaits := awaits_wait hid moments
    rw [h] at hawaits
    have hpending : watch.isPending ((b.through moments).activity id) = true := by
      by_contra hnot
      rw [hawaits.2 (Bool.not_eq_true _ ▸ hnot)] at hend
      cases hend
    refine ⟨hpending, ?_⟩
    rw [wait_concat_turn, h, Waiter.turn, if_pos hpending, start_of_isTerminal hend]
  case waited =>
    rintro before final ⟨rest, rfl⟩ hdone
    have hawaits := awaits_wait hid before
    rw [hdone] at hawaits
    obtain ⟨hview, hend⟩ := hawaits
    refine ⟨hend, hview, ?_, wait_append_of_done hid hdone rest⟩
    rw [through_append, view_through_of_isTerminal (hmid before) (hview ▸ hend), hview]

end Board

end SignIn
