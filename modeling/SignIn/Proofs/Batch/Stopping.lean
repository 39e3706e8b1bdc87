import Mathlib.Data.List.Basic
import SignIn.Proofs.Batch.Retry
import SignIn.Proofs.Batch.Routes
import SignIn.Proofs.Batch.Winding

/-!
# What a batch still does when it is told to stop

In turns, a batch is told to stop while one of its requests is under way.  If this request is
finished by the reply, the batch notices, and nothing follows.  But if the failure may pass, the
request is sent again or somebody is asked about it, and then the requests that have not had their
turns in this round have them, up to the first that is finished.  There is no other round.

A batch that is told to stop before it starts does nothing, and nor does one that waits for replies
that never arrive.

## Main definitions

* `Course.Lingers` — how much a batch does at most though it is told to stop.
* `Course.Told` — a batch that was told to stop with a reply.
* `Follows`, `Trails` — what follows this reply, and the word to stop.

## Main results

* `Course.Lingers.work`, `Course.Going.work` — all turns, after the word to stop and before.
* `run_stopped` — **what a batch does that is told to stop.**
* `run_stopped_resends` — a request that is sent again nevertheless.
-/

namespace SignIn

namespace Batch

/-! ### Few events -/

/-- There is no word to stop in these events, and no more than so many requests are sent and
questions asked. -/
structure Few (sends asks : Nat) (events : List Event) : Prop where
  /-- Nobody tells the batch to stop. -/
  notMem : Event.stopped ∉ events
  /-- Requests are sent at most so often. -/
  sends_le : (sentIn events).length ≤ sends
  /-- Questions are asked at most so often. -/
  asks_le : (askedIn events).length ≤ asks

namespace Few

variable {sends asks sends' asks' : Nat} {events events' : List Event}

theorem nil (sends asks : Nat) : Few sends asks [] :=
  ⟨List.not_mem_nil, Nat.zero_le _, Nat.zero_le _⟩

theorem sent (r : Request) : Few 1 0 [.sent r] := ⟨by simp, Nat.le_refl _, Nat.le_refl _⟩

theorem asked (f : Failure) : Few 0 1 [.asked f] := ⟨by simp, Nat.le_refl _, Nat.le_refl _⟩

theorem append (h : Few sends asks events) (h' : Few sends' asks' events') :
    Few (sends + sends') (asks + asks') (events ++ events') where
  notMem := by
    rw [List.mem_append, not_or]
    exact ⟨h.notMem, h'.notMem⟩
  sends_le := by
    rw [sentIn_append, List.length_append]
    exact Nat.add_le_add h.sends_le h'.sends_le
  asks_le := by
    rw [askedIn_append, List.length_append]
    exact Nat.add_le_add h.asks_le h'.asks_le

theorem mono (h : Few sends asks events) (hsends : sends ≤ sends') (hasks : asks ≤ asks') :
    Few sends' asks' events :=
  ⟨h.notMem, Nat.le_trans h.sends_le hsends, Nat.le_trans h.asks_le hasks⟩

end Few

/-- What follows a reply that comes with the word to stop. -/
inductive Follows (policy : RetryPolicy) (r : Request) (p : Reply) : List Event → Prop
  /-- Nothing does if the request is finished. -/
  | nothing (h : (policy.asks && p.mayPass) = false) : Follows policy r p []
  /-- The request is sent again. -/
  | again (hp : p.mayPass = true) (hlimit : 0 < policy.limit) (more : List Event) :
    Follows policy r p (.sent r :: more)
  /-- Somebody is asked whether to go on. -/
  | asked (hp : p.mayPass = true) (hasks : policy.asks = true) {f : Failure}
    (hf : p.failure = some f) (more : List Event) : Follows policy r p (.asked f :: more)

/-- More may follow if something does. -/
theorem Follows.append {policy : RetryPolicy} {r : Request} {p : Reply} {after : List Event}
    (h : Follows policy r p after) (hne : after ≠ []) (more : List Event) :
    Follows policy r p (after ++ more) := by
  cases h with
  | nothing => exact absurd rfl hne
  | again hp hlimit => exact .again hp hlimit _
  | asked hp hasks hf => exact .asked hp hasks hf _

namespace Course

variable {server : Server} {route : Route} {policy : RetryPolicy} {c c₁ c' : Course} {total : Nat}
  {r : Request} {p : Reply} {after : List Event}

/-! ### Turns after the word to stop -/

/-- A batch goes on although it is told to stop, and does no more than this. -/
structure Lingers (sends asks : Nat) (c c' : Course) : Prop where
  /-- It stays told to stop. -/
  isStopped : c'.control.isStopped = true
  /-- The log gains a few events. -/
  exists_more : ∃ more, c'.log = c.log ++ more ∧ Few sends asks more

/-- What sending a request does then. -/
theorem send_of_isStopped (h : c.control.isStopped = true) (server : Server) (route : Route)
    (r : Request) : ∃ o, c.send server route r = ({ c with log := c.log ++ [.sent r] }, o) := by
  unfold send stop
  cases server (sentIn c.log) r with
  | reply p => exact ⟨some p, rfl⟩
  | silence => exact ⟨none, rfl⟩
  | stopped p => exact ⟨some p, Prod.ext (if_pos h) rfl⟩

namespace Lingers

variable {sends asks sends' asks' : Nat}

theorem refl (h : c.control.isStopped = true) : Lingers sends asks c c :=
  ⟨h, [], (List.append_nil _).symm, .nil _ _⟩

theorem trans (h : Lingers sends asks c c₁) (h' : Lingers sends' asks' c₁ c') :
    Lingers (sends + sends') (asks + asks') c c' := by
  obtain ⟨-, more, hmore, hfew⟩ := h
  obtain ⟨hstop, more', hmore', hfew'⟩ := h'
  exact ⟨hstop, more ++ more', by rw [hmore', hmore, List.append_assoc], hfew.append hfew'⟩

theorem mono (h : Lingers sends asks c c') (hsends : sends ≤ sends') (hasks : asks ≤ asks') :
    Lingers sends' asks' c c' := by
  obtain ⟨hstop, more, hmore, hfew⟩ := h
  exact ⟨hstop, more, hmore, hfew.mono hsends hasks⟩

/-- A request is sent. -/
theorem sent (h : c.control.isStopped = true) (r : Request) :
    Lingers 1 0 c { c with log := c.log ++ [.sent r] } := ⟨h, [.sent r], rfl, .sent r⟩

/-- It is sent once, and then as often as the limit allows. -/
theorem attempt (h : c.control.isStopped = true) (server : Server) (route : Route) (asks : Bool)
    (limit : Nat) (r : Request) :
    Lingers limit 0 { c with log := c.log ++ [.sent r] }
      (c.attempt server route asks limit r).1 := by
  induction limit generalizing c with
  | zero =>
    obtain ⟨o, hsend⟩ := send_of_isStopped h server route r
    rcases o with _ | p
    · rw [attempt_of_silence hsend]
      exact .refl h
    · rw [attempt_of_reply hsend, if_neg (by omega)]
      exact .refl h
  | succ limit ih =>
    obtain ⟨o, hsend⟩ := send_of_isStopped h server route r
    rcases o with _ | p
    · rw [attempt_of_silence hsend]
      exact .refl h
    · rw [attempt_of_reply hsend]
      split
      · have hsent := Lingers.sent (c := { c with log := c.log ++ [.sent r] }) h r
        exact (hsent.trans (ih h)).mono (by omega) (Nat.le_refl _)
      · exact .refl h

/-- Somebody may be asked about it once. -/
theorem turn (h : c.control.isStopped = true) (server : Server) (route : Route)
    (policy : RetryPolicy) (q : Pending) :
    Lingers (policy.limit + 1) 1 c (c.turn server route policy q).1 := by
  unfold Course.turn
  cases q.declined with
  | some p => exact .refl h
  | none =>
    have hattempt : Lingers (policy.limit + 1) 0 c _ :=
      ((sent h q.request).trans (attempt h server route policy.asks policy.limit q.request)).mono
        (by omega) (Nat.le_refl _)
    generalize c.attempt server route policy.asks policy.limit q.request = result at hattempt ⊢
    obtain ⟨c₁, pause⟩ := result
    cases pause with
    | finished p => exact hattempt.mono (Nat.le_refl _) (Nat.zero_le _)
    | silent => exact hattempt.mono (Nat.le_refl _) (Nat.zero_le _)
    | asks f p =>
      have hask : Lingers 0 1 c₁ (c₁.ask f).1 := ⟨hattempt.isStopped, [.asked f], rfl, .asked f⟩
      exact hattempt.trans hask

/-- **The requests that have not had their turns in this round have them**, and no other ones. -/
theorem work (h : c.control.isStopped = true) (server : Server) (route : Route)
    (policy : RetryPolicy) (total : Nat) (now later : List Pending) :
    Lingers (now.length * (policy.limit + 1)) now.length c
      (c.work server route policy total now later) := by
  induction now generalizing c later with
  | nil =>
    rw [work_of_isStopped h]
    exact .refl h
  | cons q now ih =>
    have hturn := Lingers.turn h server route policy q
    have hlength : policy.limit + 1 + now.length * (policy.limit + 1) =
        (q :: now).length * (policy.limit + 1) := by
      rw [List.length_cons, Nat.succ_mul, Nat.add_comm]
    rw [← hlength, List.length_cons, Nat.add_comm now.length 1, work_turn]
    generalize c.turn server route policy q = result at hturn ⊢
    obtain ⟨c₁, next⟩ := result
    cases next with
    | finished p =>
      -- the batch notices that it is told to stop
      dsimp only
      rw [if_pos hturn.isStopped]
      have hfinish : Lingers 0 0 c₁ (c₁.finish total q.index p) :=
        ⟨hturn.isStopped, [], (List.append_nil _).symm, .nil _ _⟩
      exact (hturn.trans hfinish).mono (Nat.le_add_right _ _) (Nat.le_add_right _ _)
    | again q' => exact hturn.trans (ih hturn.isStopped _)
    | silent => exact hturn.trans (ih hturn.isStopped _)

end Lingers

/-! ### The word to stop -/

/-- Nobody has told the batch to stop. -/
structure Going (c : Course) : Prop where
  /-- Its activity runs. -/
  live : IsLive c.control
  /-- It is not told to stop, -/
  isStopped : c.control.isStopped = false
  /-- and the log does not say so. -/
  notMem : Event.stopped ∉ c.log

/-- The batch was told to stop with the reply to a request, and a few things have happened since. -/
structure Told (server : Server) (sends asks : Nat) (c : Course) (r : Request) (p : Reply)
    (after : List Event) : Prop where
  /-- It is told to stop. -/
  isStopped : c.control.isStopped = true
  /-- These are few. -/
  few : Few sends asks after
  /-- The reply is the one of the server. -/
  exists_before : ∃ before, c.log = before ++ .sent r :: .stopped :: after ∧
    Event.stopped ∉ before ∧ server (sentIn before) r = .stopped p

namespace Told

variable {sends asks sends' asks' : Nat}

theorem mono (h : Told server sends asks c r p after) (hsends : sends ≤ sends')
    (hasks : asks ≤ asks') : Told server sends' asks' c r p after :=
  ⟨h.isStopped, h.few.mono hsends hasks, h.exists_before⟩

/-- More happens. -/
theorem append (h : Told server sends asks c r p after) (hstop : c'.control.isStopped = true)
    {more : List Event} (hmore : c'.log = c.log ++ more) (hfew : Few sends' asks' more) :
    Told server (sends + sends') (asks + asks') c' r p (after ++ more) := by
  obtain ⟨-, hfew₀, before, hbefore, hmem, hserver⟩ := h
  refine ⟨hstop, hfew₀.append hfew, before, ?_, hmem, hserver⟩
  rw [hmore, hbefore, List.append_assoc]
  rfl

theorem lingers (h : Told server sends asks c r p after) (h' : Lingers sends' asks' c c') :
    ∃ more, Told server (sends + sends') (asks + asks') c' r p (after ++ more) := by
  obtain ⟨hstop, more, hmore, hfew⟩ := h'
  exact ⟨more, h.append hstop hmore hfew⟩

end Told

namespace Going

/-- A request is sent. -/
theorem send (h : Going c) (server : Server) (route : Route) (r : Request) :
    ∃ c₁ o, c.send server route r = (c₁, o) ∧
      (Going c₁ ∨ ∃ p, o = some p ∧ Told server 0 0 c₁ r p []) := by
  have hgoing : Going { c with log := c.log ++ [.sent r] } :=
    ⟨h.live, h.isStopped, by simpa using h.notMem⟩
  unfold Course.send
  cases hserver : server (sentIn c.log) r with
  | reply p => exact ⟨_, _, rfl, .inl hgoing⟩
  | silence => exact ⟨_, _, rfl, .inl hgoing⟩
  | stopped p =>
    have hstop : Course.stop { c with log := c.log ++ [.sent r] } route =
        ⟨c.control.stop route, c.log ++ [.sent r] ++ [.stopped], c.finished, c.answers⟩ :=
      if_neg (by simp [h.isStopped])
    refine ⟨_, _, rfl, .inr ⟨p, rfl, ?_⟩⟩
    rw [hstop]
    refine ⟨(h.live.stop route).2, .nil _ _, c.log, ?_, h.notMem, hserver⟩
    exact List.append_assoc _ _ _

/-- It is sent until its failure does not pass or no try is left, whether or not the batch is told
to stop. -/
theorem attempt (h : Going c) (server : Server) (route : Route) {limit : Nat}
    (hlimit : limit ≤ policy.limit) (r : Request) :
    Going (c.attempt server route policy.asks limit r).1 ∨
      ∃ p after, Told server limit 0 (c.attempt server route policy.asks limit r).1 r p after ∧
        (after = [] ∧ (c.attempt server route policy.asks limit r).2 = .of policy.asks p ∨
          after ≠ [] ∧ Follows policy r p after) := by
  induction limit generalizing c with
  | zero =>
    obtain ⟨c₁, o, hsend, hgoing | ⟨p, rfl, htold⟩⟩ := h.send server route r
    · rcases o with _ | p
      · rw [attempt_of_silence hsend]
        exact .inl hgoing
      · rw [attempt_of_reply hsend, if_neg (by omega)]
        exact .inl hgoing
    · rw [attempt_of_reply hsend, if_neg (by omega)]
      exact .inr ⟨p, [], htold, .inl ⟨rfl, rfl⟩⟩
  | succ limit ih =>
    obtain ⟨c₁, o, hsend, hgoing | ⟨p, rfl, htold⟩⟩ := h.send server route r
    · rcases o with _ | p
      · rw [attempt_of_silence hsend]
        exact .inl hgoing
      · rw [attempt_of_reply hsend]
        split
        · rcases ih hgoing (by omega) with hgoing' | ⟨p', after, htold, hafter⟩
          · exact .inl hgoing'
          · exact .inr ⟨p', after, htold.mono (by omega) (Nat.le_refl _), hafter⟩
        · exact .inl hgoing
    · rw [attempt_of_reply hsend]
      split
      · -- the request is sent again although the batch is told to stop
        rename_i hagain
        have hsent : Told server 1 0 { c₁ with log := c₁.log ++ [.sent r] } r p [.sent r] :=
          htold.append (by exact htold.isStopped) (by rfl) (.sent r)
        obtain ⟨more, hmore⟩ := hsent.lingers
          (.attempt htold.isStopped server route policy.asks limit r)
        exact .inr ⟨p, _, hmore.mono (by omega) (Nat.le_refl _),
          .inr ⟨List.cons_ne_nil _ _, .again hagain.1 (by omega) more⟩⟩
      · exact .inr ⟨p, [], htold.mono (Nat.zero_le _) (Nat.le_refl _), .inl ⟨rfl, rfl⟩⟩

/-- The keeping of a reply changes nothing about this. -/
theorem finish (h : Going c) (total index : Nat) (p : Reply) : Going (c.finish total index p) :=
  ⟨h.live.tell_progress _ _, h.isStopped, h.notMem⟩

/-- Nor does a question. -/
theorem ask (h : Going c) (f : Failure) : Going (c.ask f).1 :=
  ⟨h.live, h.isStopped, by simpa [Course.ask] using h.notMem⟩

/-- **What one turn does**: the batch may be told to stop in it, and then the request is finished, or
something follows. -/
theorem turn (h : Going c) (server : Server) (route : Route) (policy : RetryPolicy) (q : Pending) :
    Going (c.turn server route policy q).1 ∨
      ∃ p after, Told server policy.limit 1 (c.turn server route policy q).1 q.request p after ∧
        Follows policy q.request p after ∧
        (after = [] → (c.turn server route policy q).2 = .finished p) := by
  unfold Course.turn
  cases q.declined with
  | some p => exact .inl h
  | none =>
    have hattempt := h.attempt server route (Nat.le_refl policy.limit) q.request
    generalize c.attempt server route policy.asks policy.limit q.request = result at hattempt ⊢
    obtain ⟨c₁, pause⟩ := result
    rcases hattempt with hgoing | ⟨p, after, htold, ⟨rfl, hpause⟩ | ⟨hne, hfollows⟩⟩
    · -- nobody tells the batch to stop
      left
      cases pause with
      | finished p => exact hgoing
      | silent => exact hgoing
      | asks f p => exact hgoing.ask f
    · -- the word comes with the last reply, and what follows is only a question
      right
      obtain rfl : pause = .of policy.asks p := hpause
      cases hasks : policy.asks && p.mayPass with
      | false =>
        rw [Pause.of_eq_finished hasks]
        exact ⟨p, [], htold.mono (Nat.le_refl _) (Nat.zero_le _), .nothing hasks, fun _ => rfl⟩
      | true =>
        obtain ⟨hpolicy, hp⟩ := (Bool.and_eq_true _ _).mp hasks
        obtain ⟨f, hf, hof⟩ := Pause.of_of_mayPass hp
        rw [hpolicy, hof]
        exact ⟨p, _, htold.append (by exact htold.isStopped) (by rfl) (.asked f),
          .asked hp hpolicy hf [], nofun⟩
    · -- the request was sent again after the word
      right
      cases pause with
      | finished p' =>
        exact ⟨p, after, htold.mono (Nat.le_refl _) (Nat.zero_le _), hfollows, fun h => (hne h).elim⟩
      | silent =>
        exact ⟨p, after, htold.mono (Nat.le_refl _) (Nat.zero_le _), hfollows, fun h => (hne h).elim⟩
      | asks f p' =>
        exact ⟨p, _, htold.append (by exact htold.isStopped) (by rfl) (.asked f),
          hfollows.append hne _, by simp⟩

end Going

/-- The batch was told to stop with a reply, and what has happened since follows from it: less than
so many requests could be sent as often as the limit allows, and so many questions could be
asked. -/
def HasStopped (server : Server) (policy : RetryPolicy) (count : Nat) (c : Course) : Prop :=
  ∃ sends r p after, sends < count * (policy.limit + 1) ∧ Told server sends count c r p after ∧
    Follows policy r p after

theorem HasStopped.mono {count count' : Nat} (h : HasStopped server policy count c)
    (hle : count ≤ count') : HasStopped server policy count' c := by
  obtain ⟨sends, r, p, after, hsends, htold, hfollows⟩ := h
  exact ⟨sends, r, p, after, Nat.lt_of_lt_of_le hsends (Nat.mul_le_mul_right _ hle),
    htold.mono (Nat.le_refl _) hle, hfollows⟩

/-- The request is finished, and the batch notices. -/
theorem Told.hasStopped_finish (h : Told server policy.limit 1 c r p after)
    (hfollows : Follows policy r p after) (total index : Nat) (reply : Reply) :
    HasStopped server policy 1 (c.finish total index reply) :=
  ⟨policy.limit, r, p, after, by omega, ⟨h.isStopped, h.few, h.exists_before⟩, hfollows⟩

/-- Something follows, and then the others have their turns. -/
theorem Told.hasStopped_work (h : Told server policy.limit 1 c r p after)
    (hfollows : Follows policy r p after) (hne : after ≠ []) (route : Route) (total : Nat)
    (now later : List Pending) :
    HasStopped server policy (now.length + 1) (c.work server route policy total now later) := by
  obtain ⟨more, hmore⟩ := h.lingers (.work h.isStopped server route policy total now later)
  have hcount : (now.length + 1) * (policy.limit + 1) =
      now.length * (policy.limit + 1) + (policy.limit + 1) := Nat.succ_mul _ _
  exact ⟨_, r, p, after ++ more, by omega, hmore.mono (Nat.le_refl _) (by omega),
    hfollows.append hne more⟩

/-- So it is too if there are more requests. -/
theorem Going.or_mono {count count' : Nat} (h : Going c ∨ HasStopped server policy count c)
    (hle : count ≤ count') : Going c ∨ HasStopped server policy count' c := by
  rcases h with hgoing | hstopped
  · exact .inl hgoing
  · exact .inr (hstopped.mono hle)

/-- **What all turns do.** -/
theorem Going.work (h : Going c) (server : Server) (route : Route) (policy : RetryPolicy)
    (total : Nat) (now later : List Pending) :
    Going (c.work server route policy total now later) ∨
      HasStopped server policy (now.length + later.length)
        (c.work server route policy total now later) := by
  -- by the turns of the loop
  fun_induction Course.work server route policy total c now later with
  | case1 c =>
    -- no request is left
    exact .inl h
  | case2 c q later hstop => exact .inl h
  | case3 c q later hstop ih =>
    -- another round starts
    simpa using ih h
  | case4 c q now later c₁ p hturn c₂ =>
    -- a request is finished, and the batch notices
    have hturned := h.turn server route policy q
    rw [hturn] at hturned
    rcases hturned with hgoing | ⟨p', after, htold, hfollows, -⟩
    · exact .inl (hgoing.finish total q.index p)
    · apply Going.or_mono (.inr (htold.hasStopped_finish hfollows total q.index p))
      rw [List.length_cons]
      omega
  | case5 c q now later c₁ p hturn c₂ hstop =>
    -- a request is finished, and nobody has told the batch to stop
    rename_i ih
    have hturned := h.turn server route policy q
    rw [hturn] at hturned
    rcases hturned with hgoing | ⟨p', after, htold, -, -⟩
    · apply Going.or_mono (ih (hgoing.finish total q.index p))
      rw [List.length_cons]
      omega
    · exact absurd htold.isStopped hstop
  | case6 c q now later c₁ hturn ih =>
    -- a reply never arrives
    have hturned := h.turn server route policy q
    rw [hturn] at hturned
    rcases hturned with hgoing | ⟨p', after, htold, hfollows, hfinished⟩
    · apply Going.or_mono (ih hgoing)
      rw [List.length_cons]
      omega
    · have hne : after ≠ [] := by
        intro hnil
        cases hfinished hnil
      apply Going.or_mono (.inr (htold.hasStopped_work hfollows hne route total now later))
      rw [List.length_cons]
      omega
  | case7 c q now later c₁ q' hturn ih =>
    -- the request has another turn in the next round
    have hturned := h.turn server route policy q
    rw [hturn] at hturned
    rcases hturned with hgoing | ⟨p', after, htold, hfollows, hfinished⟩
    · apply Going.or_mono (ih hgoing)
      simp only [List.length_append, List.length_cons, List.length_nil]
      omega
    · have hne : after ≠ [] := by
        intro hnil
        cases hfinished hnil
      apply Going.or_mono
        (.inr (htold.hasStopped_work hfollows hne route total now (later ++ [q'])))
      rw [List.length_cons]
      omega

end Course

/-! ### Whole runs -/

/-- What happens in a run in turns after the word to stop. -/
inductive Trails (server : Server) (policy : RetryPolicy) (before : List Event) :
    List Event → Prop
  /-- Nothing does if the batch was waiting for replies that never arrive. -/
  | waiting : Trails server policy before []
  /-- Otherwise it is what follows the reply that comes with the word. -/
  | replied {earlier after : List Event} {r : Request} {p : Reply}
    (hbefore : before = earlier ++ [.sent r]) (hserver : server (sentIn earlier) r = .stopped p)
    (hafter : Follows policy r p after) : Trails server policy before after

/-- The word divides the log in one way only. -/
theorem Course.Told.trails {server : Server} {policy : RetryPolicy} {sends asks : Nat} {c : Course}
    {r : Request} {p : Reply} {told before after : List Event}
    (h : c.Told server sends asks r p told) (hfollows : Follows policy r p told)
    (hlog : c.log = before ++ .stopped :: after) :
    Trails server policy before after ∧ Few sends asks after := by
  obtain ⟨earlier, hearlier, hmem, hserver⟩ := h.exists_before
  have hsplit : earlier ++ [.sent r] ++ .stopped :: told = before ++ .stopped :: after := by
    rw [← hlog, hearlier, List.append_assoc]
    rfl
  have hmem' : Event.stopped ∉ earlier ++ [.sent r] := by simpa using hmem
  obtain ⟨hbefore, -, rfl⟩ := (List.append_cons_inj_of_notMem hmem' h.few.notMem).1 hsplit
  exact ⟨.replied hbefore.symm hserver hfollows, h.few⟩

/-- **What a run in turns does after the word to stop.** -/
theorem trails_of_course {b : Batch} (h : b.control.activity.phase = .inactive)
    (hstop : b.control.isStopped = false) (hlog : b.log = []) (server : Server) (route : Route)
    (answers : Option (List Bool)) {before after : List Event}
    (hcourse : (b.course server route answers).log = before ++ .stopped :: after) :
    Trails server (b.policyFor answers.isSome) before after ∧
      (sentIn after).length < b.requests.length * (b.policy.limit + 1) ∧
      (askedIn after).length ≤ b.requests.length := by
  have hgoing : Course.Going ⟨b.scene.control, b.log, [], answers.getD []⟩ :=
    ⟨(Sound.start h).live, hstop, by rw [hlog]; exact List.not_mem_nil⟩
  have hlength : ([] : List Pending).length + b.pendings.length = b.requests.length := by
    rw [pendings, List.length_map, List.length_zipIdx]
    exact Nat.zero_add _
  have hwork := hgoing.work server route (b.policyFor answers.isSome) b.requests.length []
    b.pendings
  rw [hlength] at hwork
  unfold course at hcourse
  generalize Course.work server route (b.policyFor answers.isSome) b.requests.length _ []
    b.pendings = c at hwork hcourse
  rcases hwork with hgoing' | ⟨sends, r, p, after', hsends, htold, hfollows⟩
  · -- the batch is told to stop at the end, or not at all
    unfold Course.release at hcourse
    split at hcourse
    · rename_i hlt
      have hrelease : (c.stop route).log = c.log ++ .stopped :: [] := by
        unfold Course.stop
        rw [if_neg (by simp [hgoing'.isStopped])]
      rw [hrelease] at hcourse
      obtain ⟨rfl, -, rfl⟩ :=
        (List.append_cons_inj_of_notMem hgoing'.notMem List.not_mem_nil).1 hcourse
      exact ⟨.waiting, Nat.mul_pos (by omega) (Nat.succ_pos _), Nat.zero_le _⟩
    · refine absurd ?_ hgoing'.notMem
      rw [hcourse]
      simp
  · -- it was told to stop in one of the turns
    have hrelease : c.release route b.requests.length = c := by
      unfold Course.release Course.stop
      rw [if_pos htold.isStopped, ite_self]
    rw [hrelease] at hcourse
    obtain ⟨htrails, hfew⟩ := htold.trails hfollows hcourse
    exact ⟨htrails, Nat.lt_of_le_of_lt hfew.sends_le hsends, hfew.asks_le⟩

/-- **What a batch does that is told to stop**, at whatever moment.  In whatever order its requests
follow each other, it does nothing after it has noticed, and until then it sends its requests only
as often as their limits and the answers allow.  In turns, what it still does follows from the reply
that the word to stop comes with; a batch that was told before it starts does nothing at all. -/
theorem run_stopped (name : String) (isCancelled : Bool) (policy : RetryPolicy)
    (requests : List Request) :
    (∀ canAsk moves more s s',
      (preparedBelow name isCancelled policy requests).scene? canAsk moves = some s →
      s.control.isStopped = true →
      (preparedBelow name isCancelled policy requests).scene? canAsk (moves ++ more) = some s' →
      ∃ new, Winds policy.limit s s' more new) ∧
    (∀ server route answers, ∃ report b',
      (preparedBelow name isCancelled policy requests).run server route answers =
        .ok (report, b') ∧
      (isCancelled = true → b'.log = []) ∧
      ∀ before after, b'.log = before ++ .stopped :: after →
        Trails server { policy with asks := policy.asks && answers.isSome } before after ∧
          (sentIn after).length < requests.length * (policy.limit + 1) ∧
          (askedIn after).length ≤ requests.length) ∧
    ∀ server route answers,
      (preparedBelow name isCancelled policy requests).cancel.1.run server route answers =
        .error (.activityStarted name) := by
  have hinactive :
      (preparedBelow name isCancelled policy requests).control.activity.phase = .inactive := rfl
  refine ⟨?_, ?_, fun _ _ _ => rfl⟩
  · intro canAsk moves more s s' hs hstop hs'
    unfold scene? at hs hs'
    rw [List.foldlM_append, hs] at hs'
    have hwinds : ∃ new, Winds
        ((preparedBelow name isCancelled policy requests).policyFor canAsk).limit s s' more new :=
      Winds.of_run hstop hs'
    exact hwinds
  · intro server route answers
    -- a batch that was told before has no turns
    have hnone (h : isCancelled = true) : ((preparedBelow name isCancelled policy requests).course
        server route answers).log = [] := by
      subst h
      unfold course Course.release
      rw [Course.work_of_isStopped rfl]
      split <;> rfl
    refine ⟨_, _, run_of_inactive hinactive server route answers, hnone, ?_⟩
    intro before after hlog
    cases isCancelled with
    | false => exact trails_of_course hinactive rfl rfl server route answers hlog
    | true =>
      have hnil := (hnone rfl).symm.trans hlog
      simp at hnil

/-- A server that is late with its first reply, and the batch is told to stop with it. -/
def lateOnce : Server := fun sent _ => if sent = [] then .stopped someDelay else .reply someReply

/-- A batch of one request, which is sent again once. -/
def patient : Batch := preparedBelow "job" false ⟨false, 1⟩ [someRequest]

theorem log_patient (route : Route) :
    (patient.course lateOnce route none).log = [.sent someRequest, .stopped, .sent someRequest] := by
  have hturn : Course.turn lateOnce route (patient.policyFor false)
      ⟨patient.scene.control, [], [], []⟩ ⟨0, someRequest, none⟩ =
      (⟨patient.scene.control.stop route, [.sent someRequest, .stopped, .sent someRequest], [], []⟩,
        .finished someReply) := rfl
  have hcourse : patient.course lateOnce route none = Course.release route 1 (Course.finish 1
      ⟨patient.scene.control.stop route, [.sent someRequest, .stopped, .sent someRequest], [], []⟩ 0
      someReply) :=
    congrArg (Course.release route 1) (Course.work_of_finished rfl hturn)
  rw [hcourse]
  rfl

/-- What it does is bounded by its limit, and what it does in any order as well. -/
theorem run_stopped_patient :
    (∃ s s' new, patient.scene? false [.act 0 .send, .stop .token] = some s ∧
      patient.scene? false [.act 0 .send, .stop .token, .act 0 (.receive someDelay), .act 0 .send] =
        some s' ∧ Winds 1 s s' [.act 0 (.receive someDelay), .act 0 .send] new) ∧
    ∃ report b', patient.run lateOnce .token none = .ok (report, b') ∧
      Trails lateOnce ⟨false, 1⟩ [.sent someRequest] [.sent someRequest] ∧
      (sentIn [.sent someRequest]).length < 1 * (1 + 1) := by
  obtain ⟨hmoves, hruns, -⟩ := run_stopped "job" false ⟨false, 1⟩ [someRequest]
  constructor
  · obtain ⟨new, hwinds⟩ := hmoves false [.act 0 .send, .stop .token]
      [.act 0 (.receive someDelay), .act 0 .send] _ _ rfl rfl rfl
    exact ⟨_, _, new, rfl, rfl, hwinds⟩
  · obtain ⟨report, b', hrun, -, htrails⟩ := hruns lateOnce .token none
    have hlog : b'.log = [.sent someRequest] ++ .stopped :: [.sent someRequest] := by
      have hsame := (run_of_inactive (b := patient) rfl lateOnce .token none).symm.trans hrun
      rw [← (Prod.mk.inj (Except.ok.inj hsame)).2]
      exact log_patient .token
    obtain ⟨htrails, hsends, -⟩ := htrails _ _ hlog
    exact ⟨report, b', hrun, htrails, hsends⟩

/-- **A request that is sent again although its batch is told to stop**, because its failure may
pass. -/
theorem run_stopped_resends :
    ∃ report b', patient.run lateOnce .activity none = .ok (report, b') ∧
      b'.log = [.sent someRequest, .stopped, .sent someRequest] :=
  ⟨_, _, run_of_inactive rfl lateOnce .activity none, log_patient .activity⟩

end Batch

end SignIn
