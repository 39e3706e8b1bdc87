import SignIn.Attempt

/-!
# What comes of acting on the world

An attempt sends each request in a batch of its own.  Such a batch comes down to a few
cases: it was told to stop before it could send, it has the server's reply, or it is told
to stop while the request is under way, with the server's reply or without it.

After the word to stop, all that a log may still hold is the reply of the batch that was
under way.

## Main definitions

* `World.Sends` — what comes of sending a request.
* `Log.HaltsAt` — a log after which nothing was started any more.

## Main results

* `World.send_spec` — sending a request comes to one of these cases.
* `Log.append_cons_inj` — a log is split in one way at the only event of a sort.
* `Log.append_cons_cases` — where an event stands in a log of two parts.
* `Log.HaltsAt.eq_of_append` — a halted log has one word to stop, and it knows what the
  account was.
-/

namespace SignIn

/-! ### A batch of one request -/

namespace Batch.Course

/-- A request that is never sent again has its reply, or none, after one attempt. -/
theorem attempt_zero (server : Server) (route : Route) (c : Course) (r : Request) :
    c.attempt server route false 0 r =
      match c.send server route r with
      | (c, none) => (c, .silent)
      | (c, some p) => (c, .finished p) := by
  unfold attempt
  rcases c.send server route r with ⟨c', _ | p⟩
  · rfl
  · dsimp only
    split
    · rfl
    · split <;> rfl

/-- A single request that is never sent again has one turn, unless the batch is told to
stop before it. -/
theorem work_single (server : Server) (route : Route) (total : Nat) (c : Course) (i : Nat)
    (r : Request) :
    c.work server route ⟨false, 0⟩ total [] [⟨i, r, none⟩] =
      if c.control.isStopped then c
      else match c.send server route r with
        | (c, none) => c
        | (c, some p) => c.finish total i p := by
  have ht : c.turn server route ⟨false, 0⟩ ⟨i, r, none⟩ =
      match c.send server route r with
      | (c, none) => (c, .silent)
      | (c, some p) => (c, .finished p) := by
    simp only [turn, attempt_zero]
    rcases c.send server route r with ⟨c', _ | p⟩ <;> rfl
  rw [work]
  split
  · rfl
  · rcases hs : c.send server route r with ⟨c₁, _ | p₁⟩
    all_goals
      rw [hs] at ht
      rw [work]
      split <;> simp_all [work.eq_1]

end Batch.Course

namespace World

/-- The batch of an attempt that was told to stop sends nothing. -/
theorem send_of_isStopped {log : Log} (h : log.isStopped = true) (w : World) (name : String)
    (a : Account) (r : Request) :
    w.send name a log r = (log ++ [.answered r (.cancelled r.url) a], .ok (.cancelled r.url)) := by
  simp [send, batchFor, Batch.below, Batch.new, Batch.add, Batch.run, Batch.Course.work,
    Batch.Course.release, Batch.Course.stop, Batch.finalReply, Control.new, Control.tell,
    Activity.new, Activity.phase, Activity.tell, Activity.update, Snapshot.initial,
    Snapshot.after?, Log.ofBatch, Except.bind, h]

/-- Otherwise what happens is up to the server. -/
theorem send_of_not_isStopped {log : Log} (h : log.isStopped = false) (w : World) (name : String)
    (a : Account) (r : Request) :
    w.send name a log r =
      match w.server log.requests r with
      | .reply p => (log ++ [.sent r, .answered r p a], .ok p)
      | .stopped p => (log ++ [.sent r, .stopped a, .answered r p a], .ok p)
      | .silence =>
        (log ++ [.sent r, .stopped a, .answered r (.cancelled r.url) a],
          .ok (.cancelled r.url)) := by
  cases ht : w.server log.requests r <;>
    simp [send, batchFor, Batch.below, Batch.new, Batch.add, Batch.run, Batch.Course.work_single,
      Batch.Course.send, Batch.Course.finish, Batch.Course.release, Batch.Course.stop,
      Batch.finalReply, Batch.sentIn, Control.new, Control.stop, Control.tell, Activity.new,
      Activity.phase, Activity.tell, Activity.update, Snapshot.initial, Snapshot.after?,
      RetryPolicy.disabled, Log.ofBatch, Except.bind, h, ht]

/-- What comes of sending a request: what the log gains, and the reply. -/
inductive Sends (w : World) (a : Account) (log : Log) (r : Request) : Log → Reply → Prop
  /-- The attempt was told to stop before; nothing is sent. -/
  | unsent (h : log.isStopped = true) :
    Sends w a log r [.answered r (.cancelled r.url) a] (.cancelled r.url)
  /-- The server's reply arrives. -/
  | answered {p : Reply} (h : log.isStopped = false) (hp : w.server log.requests r = .reply p) :
    Sends w a log r [.sent r, .answered r p a] p
  /-- The attempt is told to stop, and the server's reply arrives or not. -/
  | stopped {p : Reply} (h : log.isStopped = false)
    (hp : w.server log.requests r = .stopped p ∨
      w.server log.requests r = .silence ∧ p = .cancelled r.url) :
    Sends w a log r [.sent r, .stopped a, .answered r p a] p

/-- One request is answered, with the reply. -/
theorem Sends.exchanges_eq {w : World} {a : Account} {log more : Log} {r : Request} {p : Reply}
    (h : w.Sends a log r more p) : more.exchanges = [(r, p)] := by
  cases h <;> rfl

/-- **Sending a request always ends with a reply**, in one of the three ways. -/
theorem send_spec (w : World) (name : String) (a : Account) (log : Log) (r : Request) :
    ∃ more p, w.send name a log r = (log ++ more, .ok p) ∧ w.Sends a log r more p := by
  cases h : log.isStopped with
  | true => exact ⟨_, _, send_of_isStopped h w name a r, .unsent h⟩
  | false =>
    rw [send_of_not_isStopped h]
    cases hp : w.server log.requests r with
    | reply p => exact ⟨_, _, rfl, .answered h hp⟩
    | stopped p => exact ⟨_, _, rfl, .stopped h (.inl hp)⟩
    | silence => exact ⟨_, _, rfl, .stopped h (.inr ⟨hp, rfl⟩)⟩

end World

/-! ### Halted logs -/

namespace Log

/-- The log of an attempt that was told to stop while its account stood as given, and has
started nothing since. -/
def HaltsAt (a : Account) (log : Log) : Prop :=
  ∃ before after : Log, log = before ++ .stopped a :: after ∧ before.isStopped = false ∧
    after.isStopped = false ∧ after.requests = [] ∧ after.menus = []

/-- Two ways to split a log at an event of some sort agree, if one of them has no other event
of this sort. -/
theorem append_cons_inj {sort : Event → Prop} {before before' after after' : Log} {e e' : Event}
    (hb : ∀ x ∈ before, ¬ sort x) (ha : ∀ x ∈ after, ¬ sort x) (he : sort e')
    (h : before ++ e :: after = before' ++ e' :: after') :
    before = before' ∧ e = e' ∧ after = after' := by
  induction before generalizing before' with
  | nil =>
    cases before' with
    | nil => simpa using h
    | cons x before' =>
      simp only [List.nil_append, List.cons_append, List.cons.injEq] at h
      exact (ha e' (by simp [h.2]) he).elim
  | cons x before ih =>
    cases before' with
    | nil =>
      simp only [List.nil_append, List.cons_append, List.cons.injEq] at h
      exact (hb e' (by simp [h.1]) he).elim
    | cons x' before' =>
      simp only [List.cons_append, List.cons.injEq] at h ⊢
      obtain ⟨rfl, hrest⟩ := ih (fun y hy => hb y (by simp [hy])) h.2
      exact ⟨⟨h.1, rfl⟩, hrest⟩

theorem ne_stopped_of_mem {log : Log} (h : log.isStopped = false) {e : Event} (he : e ∈ log) :
    ¬ ∃ a, e = .stopped a := by
  rintro ⟨a, rfl⟩
  simpa using List.any_eq_false.1 h _ he

theorem ne_answered_of_mem {log : Log} (h : log.exchanges = []) {e : Event} (he : e ∈ log) :
    ¬ ∃ q p a, e = .answered q p a := by
  rintro ⟨q, p, a, rfl⟩
  simpa using List.filterMap_eq_nil_iff.1 h _ he

/-- A log that holds the word to stop is split at one. -/
theorem exists_stopped {log : Log} (h : log.isStopped = true) :
    ∃ (before : Log) (a : Account) (after : Log), log = before ++ .stopped a :: after := by
  obtain ⟨e, he, hstop⟩ := List.any_eq_true.1 h
  obtain ⟨before, after, rfl⟩ := List.append_of_mem he
  cases e with
  | stopped a => exact ⟨before, a, after, rfl⟩
  | sent => cases hstop
  | answered => cases hstop
  | offered => cases hstop

/-- An event in a log of two parts stands in one of them. -/
theorem append_cons_cases {log log' before after : Log} {e : Event}
    (h : log ++ log' = before ++ e :: after) :
    (∃ more, log = before ++ e :: more ∧ after = more ++ log') ∨
      ∃ more, before = log ++ more ∧ log' = more ++ e :: after := by
  obtain ⟨more, hb, hl⟩ | ⟨more, hl, ha⟩ := List.append_eq_append_iff.1 h
  · exact .inr ⟨more, hb, hl⟩
  · cases more with
    | nil => exact .inr ⟨[], by simpa using hl.symm, by simpa using ha.symm⟩
    | cons e' more =>
      obtain ⟨rfl, rfl⟩ := List.cons.inj ha
      exact .inl ⟨more, hl, rfl⟩

/-- A log with one answer is split at it in one way. -/
theorem append_answered_inj (before : Log) {before' after after' : Log} {q q' : Request}
    {p p' : Reply} {a a' : Account} (hb : before.exchanges = []) (ha : after.exchanges = [])
    (h : before ++ .answered q p a :: after = before' ++ .answered q' p' a' :: after') :
    before = before' ∧ q = q' ∧ p = p' ∧ a = a' ∧ after = after' := by
  obtain ⟨h₁, h₂, h₃⟩ := append_cons_inj (fun _ => ne_answered_of_mem hb)
    (fun _ => ne_answered_of_mem ha) ⟨q', p', a', rfl⟩ h
  cases h₂
  exact ⟨h₁, rfl, rfl, rfl, h₃⟩

/-- A halted log has one word to stop, which knows what the account was. -/
theorem HaltsAt.eq_of_append {a a' : Account} {log before after : Log} (h : log.HaltsAt a)
    (hl : log = before ++ .stopped a' :: after) :
    a = a' ∧ after.requests = [] ∧ after.menus = [] := by
  obtain ⟨before₀, after₀, rfl, hb, ha, hr, hm⟩ := h
  obtain ⟨-, he, rfl⟩ := append_cons_inj (fun _ => ne_stopped_of_mem hb)
    (fun _ => ne_stopped_of_mem ha) ⟨a', rfl⟩ hl
  exact ⟨Event.stopped.inj he, hr, hm⟩

end Log

end SignIn
