import SignIn.Activity

/-!
# What an activity went through

The updates that an activity accepts, from its beginning on, tell all about it.  There are few
ways in which they can follow each other: the activity starts, shows progress and status, and
ends; or it is given up before it starts.  Each of these ways is one case of an inductive
predicate, together with what a watcher sees then.

## Main definitions

* `Update.isShow`, `Update.isEnd` — updates that only show something, and those that end it.
* `lastProgress`, `lastStatus` — what was shown last.
* `Story` — the updates that were accepted, and what they led to.

## Main results

* `Story.step` — every accepted update carries the story on.
* `Story.length_ends`, `Story.failures_eq` and others — what a watcher sees, told by the updates.
-/

namespace SignIn

namespace Update

/-- The update only shows something. -/
def isShow : Update → Bool
  | .progress _ _ | .status _ => true
  | _ => false

/-- The update ends the activity. -/
def isEnd : Update → Bool
  | .succeed | .fail _ | .abort => true
  | _ => false

/-- The progress that the update shows. -/
def progress? : Update → Option Progress
  | .progress current total => some ⟨current, total⟩
  | _ => none

/-- The status that the update shows. -/
def status? : Update → Option String
  | .status text => some text
  | _ => none

/-- The message of the failure that the update ends with. -/
def failure? : Update → Option String
  | .fail message => some message
  | _ => none

theorem isShow_eq_false_of_isEnd {u : Update} (h : u.isEnd = true) : u.isShow = false := by
  cases u <;> simp_all [isEnd, isShow]

theorem failure?_of_isShow {u : Update} (h : u.isShow = true) : u.failure? = none := by
  cases u <;> simp_all [isShow, failure?]

theorem ne_start_of_isShow {u : Update} (h : u.isShow = true) : u ≠ .start := by
  rintro rfl
  cases h

end Update

/-- The progress shown last; at first there is none. -/
def lastProgress (us : List Update) : Progress :=
  (us.filterMap Update.progress?).getLast?.getD ⟨0, 0⟩

/-- The status shown last; at first there is none. -/
def lastStatus (us : List Update) : String := (us.filterMap Update.status?).getLast?.getD ""

/-- The updates that an activity has accepted, and what a watcher sees of it. -/
inductive Story : List Update → Snapshot → Prop
  /-- It has not started. -/
  | unstarted : Story [] .initial
  /-- It runs. -/
  | running {shown : List Update} (h : ∀ u ∈ shown, u.isShow = true) :
    Story (.start :: shown) ⟨.running, lastProgress shown, lastStatus shown, none⟩
  /-- It has succeeded. -/
  | succeeded {shown : List Update} (h : ∀ u ∈ shown, u.isShow = true) :
    Story (.start :: shown ++ [.succeed]) ⟨.succeeded, lastProgress shown, lastStatus shown, none⟩
  /-- It has failed. -/
  | failed {shown : List Update} (h : ∀ u ∈ shown, u.isShow = true) (message : String) :
    Story (.start :: shown ++ [.fail message])
      ⟨.failed, lastProgress shown, lastStatus shown, some message⟩
  /-- It was given up while it ran. -/
  | aborted {shown : List Update} (h : ∀ u ∈ shown, u.isShow = true) :
    Story (.start :: shown ++ [.abort]) ⟨.aborted, lastProgress shown, lastStatus shown, none⟩
  /-- It was given up before it started. -/
  | abandoned : Story [.abort] { Snapshot.initial with phase := .aborted }

namespace Story

/-! ### One update after the other -/

theorem all_isShow_concat {shown : List Update} (h : ∀ u ∈ shown, u.isShow = true) {u : Update}
    (hu : u.isShow = true) : ∀ v ∈ shown ++ [u], v.isShow = true := by
  intro v hv
  obtain hv | hv := List.mem_append.1 hv
  · exact h v hv
  · rw [List.mem_singleton.1 hv]
    exact hu

/-- **An accepted update carries the story on.** -/
theorem step {us : List Update} {s s' : Snapshot} {u : Update} (h : Story us s)
    (hs : s.after? u = some s') : Story (us ++ [u]) s' := by
  have terminal (ht : s.phase.isTerminal = true) : Story (us ++ [u]) s' := by
    rw [Snapshot.after?_eq_none ht] at hs
    cases hs
  cases h with
  | unstarted =>
    cases u with
    | start =>
      obtain rfl := Option.some.inj hs
      exact .running (by simp)
    | abort =>
      obtain rfl := Option.some.inj hs
      exact .abandoned
    | succeed => cases hs
    | fail message => cases hs
    | progress current total => cases hs
    | status text => cases hs
  | @running shown h =>
    rw [List.cons_append]
    cases u with
    | start => cases hs
    | succeed =>
      obtain rfl := Option.some.inj hs
      exact .succeeded h
    | fail message =>
      obtain rfl := Option.some.inj hs
      exact .failed h message
    | abort =>
      obtain rfl := Option.some.inj hs
      exact .aborted h
    | progress current total =>
      obtain rfl := Option.some.inj hs
      have := running (all_isShow_concat h (u := .progress current total) rfl)
      simpa [lastProgress, lastStatus, Update.progress?, Update.status?] using this
    | status text =>
      obtain rfl := Option.some.inj hs
      have := running (all_isShow_concat h (u := .status text) rfl)
      simpa [lastProgress, lastStatus, Update.progress?, Update.status?] using this
  | succeeded => exact terminal rfl
  | failed => exact terminal rfl
  | aborted => exact terminal rfl
  | abandoned => exact terminal rfl

/-! ### What a watcher sees -/

section Shown

variable {shown : List Update}

theorem count_start_of_shown (h : ∀ u ∈ shown, u.isShow = true) :
    (.start :: shown).count .start = 1 := by
  rw [List.count_cons_self, List.count_eq_zero.2 fun hu => Update.ne_start_of_isShow (h _ hu) rfl]

theorem filter_isEnd_of_shown (h : ∀ u ∈ shown, u.isShow = true) :
    (.start :: shown).filter Update.isEnd = [] := by
  rw [List.filter_cons_of_neg (by decide), List.filter_eq_nil_iff]
  intro u hu hend
  have hshow := h u hu
  rw [Update.isShow_eq_false_of_isEnd hend] at hshow
  cases hshow

theorem filterMap_failure?_of_shown (h : ∀ u ∈ shown, u.isShow = true) :
    (.start :: shown).filterMap Update.failure? = [] := by
  rw [List.filterMap_cons_none rfl]
  exact List.filterMap_eq_nil_iff.2 fun u hu => Update.failure?_of_isShow (h u hu)

end Shown

theorem lastProgress_concat (us : List Update) {u : Update} (h : u.progress? = none) :
    lastProgress (us ++ [u]) = lastProgress us := by
  simp only [lastProgress, List.filterMap_append, List.filterMap_cons_none h, List.filterMap_nil,
    List.append_nil]

theorem lastStatus_concat (us : List Update) {u : Update} (h : u.status? = none) :
    lastStatus (us ++ [u]) = lastStatus us := by
  simp only [lastStatus, List.filterMap_append, List.filterMap_cons_none h, List.filterMap_nil,
    List.append_nil]

variable {us : List Update} {s : Snapshot}

/-- It starts once at most. -/
theorem count_start_le (h : Story us s) : us.count .start ≤ 1 := by
  cases h with
  | unstarted => exact Nat.zero_le 1
  | abandoned => exact Nat.zero_le 1
  | running h => exact Nat.le_of_eq (count_start_of_shown h)
  | succeeded h | failed h | aborted h =>
    refine Nat.le_of_eq ?_
    rw [List.count_append, count_start_of_shown h, List.count_eq_zero.2 (by simp)]

/-- It ends once, if it has ended. -/
theorem length_ends (h : Story us s) :
    (us.filter Update.isEnd).length = if s.phase.isTerminal then 1 else 0 := by
  cases h with
  | unstarted => rfl
  | abandoned => rfl
  | running h =>
    rw [filter_isEnd_of_shown h]
    rfl
  | succeeded h | failed h | aborted h =>
    rw [List.filter_append, filter_isEnd_of_shown h]
    rfl

/-- The failure that is shown is the only one that was accepted. -/
theorem failures_eq (h : Story us s) : us.filterMap Update.failure? = s.failure.toList := by
  cases h with
  | unstarted => rfl
  | abandoned => rfl
  | running h => exact filterMap_failure?_of_shown h
  | succeeded h | failed h | aborted h =>
    rw [List.filterMap_append, filterMap_failure?_of_shown h]
    rfl

/-- It shows a failure exactly if it has failed. -/
theorem isSome_failure_iff (h : Story us s) : s.failure.isSome = true ↔ s.phase = .failed := by
  cases h <;> simp [Snapshot.initial]

/-- What has succeeded or failed has started. -/
theorem head?_eq_start (h : Story us s) (hs : s.phase = .succeeded ∨ s.phase = .failed) :
    us.head? = some .start := by
  cases h with
  | unstarted | abandoned => exact absurd hs (by decide)
  | running | succeeded | failed | aborted => rfl

/-- It shows the progress shown last. -/
theorem progress_eq (h : Story us s) : s.progress = lastProgress us := by
  cases h with
  | unstarted | abandoned | running => rfl
  | succeeded | failed | aborted => exact (lastProgress_concat _ rfl).symm

/-- It shows the status shown last. -/
theorem status_eq (h : Story us s) : s.status = lastStatus us := by
  cases h with
  | unstarted | abandoned | running => rfl
  | succeeded | failed | aborted => exact (lastStatus_concat _ rfl).symm

end Story

end SignIn
