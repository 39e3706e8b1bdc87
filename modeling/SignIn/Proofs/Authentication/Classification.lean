import SignIn.Proofs.Authentication.Answered
import SignIn.Proofs.Authentication.Checks

/-!
# Replies of any other status

A reply that is not of status 200 makes no grant, and says by itself what the exchange ends with.
The kind of its failure, its status and its body are looked at in this order; only where nothing
else decides, it matters whether it is the first reply, because only then the service may count as
offline.

## Main definitions

* `Reply.IsUnreached` — no server was reached, though nobody gave the request up.
* `Ungranted` — what a reply of any other status leads to.

## Main results

* `granted_of_status_ne`, `ungranted` — such a reply makes no grant, and leads to this.
* `Receives.ungranted` — it ends the exchange.
* `act_offline_iff` — when an exchange reports that the service is offline.
-/

namespace SignIn

open SignIn.Authentication

/-- There was no response at all, and neither was the request given up nor is the account gone. -/
def Reply.IsUnreached (p : Reply) : Prop :=
  p.status = none ∧ ∃ k, p.failureKind? = some k ∧ k ≠ .gone ∧ k ≠ .cancelled

namespace Authentication

/-- What a reply of another status than 200 leads to; `detects` tells whether it may mean that the
service is offline. -/
structure Ungranted (detects : Bool) (p : Reply) (o : Outcome) : Prop where
  /-- That the account is gone comes before all else. -/
  gone : p.failureKind? = some .gone → o = .gone ("The Mojang account no longer exists. " ++
    "It may have been migrated to a Microsoft account.")
  /-- Then a response with a structured error fails with its message, or with its name if the
  message is empty. -/
  structured : ∀ e, p.failureKind? ≠ some .gone → p.status ≠ none →
    Refusal.parse? p.body = some e → o = .hard (if e.text = "" then e.name else e.text)
  /-- Any other response fails without a message of the server. -/
  unstructured : p.failureKind? ≠ some .gone → p.status ≠ none → Refusal.parse? p.body = none →
    o = .soft "An error occurred but the authentication server didn't give an error message."
  /-- Without a response, a request may have been given up. -/
  cancelled : p.status = none → p.failureKind? = some .cancelled →
    o = .soft "Authentication operation cancelled."
  /-- Otherwise no server was reached. -/
  unreached : ∀ f, p.status = none → p.failure = some f → f.kind ≠ .gone → f.kind ≠ .cancelled →
    o = if detects then .offline (networkMessage f) else .soft (networkMessage f)

/-- What decides on its own is the failure, and else the body. -/
theorem granted_of_status_ne (detects : Bool) {p : Reply} (hs : p.status ≠ some 200) :
    granted detects p = .error ((failed? detects p).getD (refused p.body)) := by
  unfold granted
  cases failed? detects p with
  | some o => rfl
  | none => rw [if_neg hs]; rfl

theorem refused_of_parse? {body : Bytes} {e : Refusal} (h : Refusal.parse? body = some e) :
    refused body = .hard (if e.text = "" then e.name else e.text) := by
  rw [refused, h]
  rfl

theorem refused_of_not_parse? {body : Bytes} (h : Refusal.parse? body = none) : refused body =
    .soft "An error occurred but the authentication server didn't give an error message." := by
  rw [refused, h]

/-- A failure without a response decides on its own. -/
theorem failed?_of_no_status (detects : Bool) {p : Reply} {f : Failure} (hs : p.status = none)
    (hf : p.failure = some f) (hk : f.kind ≠ .gone) :
    failed? detects p = some (unanswered detects f) := by
  rw [failed?, hf, Option.bind_some, if_neg hk, hs, Option.isSome_none, if_neg Bool.false_ne_true]

/-- **A reply of another status says by itself what it leads to.** -/
theorem ungranted (detects : Bool) {p : Reply} :
    Ungranted detects p ((failed? detects p).getD (refused p.body)) where
  gone hk := by
    obtain ⟨f, hf, hk⟩ := Option.map_eq_some_iff.1 hk
    rw [failed?, hf, Option.bind_some, if_pos hk, Option.getD_some]
  structured e hk hs he := by
    obtain ⟨status, hs⟩ := Option.ne_none_iff_exists'.1 hs
    rw [(failed?_of_status detects hs).2 hk, Option.getD_none, refused_of_parse? he]
  unstructured hk hs he := by
    obtain ⟨status, hs⟩ := Option.ne_none_iff_exists'.1 hs
    rw [(failed?_of_status detects hs).2 hk, Option.getD_none, refused_of_not_parse? he]
  cancelled hs hk := by
    obtain ⟨f, hf, hk⟩ := Option.map_eq_some_iff.1 hk
    rw [failed?_of_no_status detects hs hf (by rw [hk]; decide), Option.getD_some, unanswered,
      if_pos hk]
  unreached f hs hf hg hc := by
    rw [failed?_of_no_status detects hs hf hg, Option.getD_some, unanswered, if_neg hc]

theorem status_refused_ne (body : Bytes) : (refused body).status ≠ .offline := by
  unfold refused
  split <;> exact nofun

theorem status_unanswered_iff {detects : Bool} {f : Failure} :
    (unanswered detects f).status = .offline ↔ detects = true ∧ f.kind ≠ .cancelled := by
  unfold unanswered
  split
  · rename_i hk
    exact iff_of_false nofun fun h => h.2 hk
  · rename_i hk
    cases detects
    · exact iff_of_false nofun fun h => Bool.false_ne_true h.1
    · exact iff_of_true rfl ⟨rfl, hk⟩

/-- A reply says that the service is offline exactly if no server was reached, where this is
looked for. -/
theorem status_offline_iff {detects : Bool} {p : Reply} :
    ((failed? detects p).getD (refused p.body)).status = .offline ↔
      detects = true ∧ p.IsUnreached := by
  cases hf : p.failure with
  | none =>
    have hno : failed? detects p = none := by rw [failed?, hf, Option.bind_none]
    rw [hno, Option.getD_none]
    refine iff_of_false (status_refused_ne p.body) ?_
    rintro ⟨-, -, k, hk, -⟩
    simp [Reply.failureKind?, hf] at hk
  | some f =>
    have hkind : p.failureKind? = some f.kind := by rw [Reply.failureKind?, hf, Option.map_some]
    by_cases hg : f.kind = .gone
    · rw [(ungranted detects).gone (hkind.trans (congrArg some hg))]
      refine iff_of_false (fun h => by cases h) ?_
      rintro ⟨-, -, k, hk, hne, -⟩
      rw [hkind, Option.some.injEq] at hk
      exact hne (hk ▸ hg)
    · cases hs : p.status with
      | some status =>
        have hno := (failed?_of_status detects hs).2 (by rw [hkind]; simpa using hg)
        rw [hno, Option.getD_none]
        refine iff_of_false (status_refused_ne p.body) ?_
        rintro ⟨-, h, -⟩
        rw [hs] at h
        cases h
      | none =>
        rw [failed?_of_no_status detects hs hf hg, Option.getD_some, status_unanswered_iff,
          Reply.IsUnreached, hkind]
        simp [hs, hg]

/-! ### Whole steps -/

variable {auth : Authentication} {w : World} {k : Kind} {x y : Standing} {a b : Account}
  {log before : Log} {q : Request} {p : Reply} {o : Outcome}

/-- **A reply of another status ends the exchange**, and leaves the account as it was. -/
theorem Receives.ungranted (h : Receives auth w auth.firstKind ⟨a, log, false⟩ before q p b)
    (hs : p.status ≠ some 200) :
    Ungranted (before.exchanges.isEmpty && auth.detectsOffline) p (auth.act w a log).outcome ∧
      (auth.act w a log).account = b ∧
      (auth.act w a log).log = log ++ (before ++ [.answered q p b]) := by
  rw [h.act_of_not_granted (granted_of_status_ne _ hs)]
  exact ⟨Authentication.ungranted _, rfl, rfl⟩

/-- Nothing told the exchange to stop then. -/
theorem Receives.going_of_status_ne (h : Receives auth w auth.firstKind ⟨a, log, false⟩ before q p b)
    (hs : p.status ≠ some 200) : (auth.act w a log).log.isStopped = false := by
  rw [(h.ungranted hs).2.2]
  exact h.going

/-- A response of status 200 that makes no grant does not say that the service is offline. -/
theorem status_ne_of_not_granted {detects : Bool} {o : Outcome} (hs : p.status = some 200)
    (h : granted detects p = .error o) : o.status ≠ .offline := by
  by_cases hk : p.failureKind? = some .gone
  · rw [status_of_granted_of_gone h hk]
    exact nofun
  · unfold granted at h
    rw [(failed?_of_status detects hs).2 hk, if_pos hs] at h
    cases hp : Grant.parse p.body with
    | ok g => simp [hp] at h
    | error m =>
      rw [hp, mapError_error, Except.error.injEq] at h
      rw [← h]
      exact nofun

/-- A reply that ends an exchange says that the service is offline only if no server was reached,
where this is looked for. -/
theorem unreached_of_handle {isFirst : Bool} (h : auth.handle w isFirst x p = (y, .done o))
    (hx : x.log.isStopped = false) (hy : y.log.isStopped = false) (ho : o.status = .offline) :
    (isFirst && auth.detectsOffline) = true ∧ p.IsUnreached := by
  cases hg : granted (isFirst && auth.detectsOffline) p with
  | error o' =>
    rw [handle, hg, Prod.mk.injEq, Verdict.done.injEq] at h
    obtain ⟨-, rfl⟩ := h
    by_cases hs : p.status = some 200
    · exact absurd ho (status_ne_of_not_granted hs hg)
    · rw [granted_of_status_ne _ hs, Except.error.injEq] at hg
      exact status_offline_iff.1 (hg ▸ ho)
  | ok g =>
    obtain ⟨hs, hk, hp⟩ := granted_eq_ok_iff.1 hg
    have hh := process_spec (w := w) hs hk hp hx
    rw [handle, hg] at h
    dsimp only at h
    rw [h] at hh
    cases hh with
    | ends => cases ho
    | fails hfails =>
      obtain ⟨c, -, rfl⟩ := failsFirst_of_process hp h hy hfails
      cases c <;> cases ho

/-- An exchange says so only about its first request. -/
theorem unreached_of_exchange {isFirst : Bool}
    (hr : (auth.exchange w k isFirst x).log.isStopped = false)
    (ho : (auth.exchange w k isFirst x).outcome.status = .offline) :
    (isFirst && auth.detectsOffline) = true ∧ ∃ q p, Gets auth w k x q p ∧ p.IsUnreached := by
  induction k, isFirst, x using exchange.induct auth w with
  | case1 k isFirst x y o hround =>
    rw [exchange_of_done hround] at hr ho
    have h := round_spec auth w k isFirst x
    rw [hround] at h
    cases h with
    | unsendable => cases ho
    | stopped => cases ho
    | @replied q p _ _ hq hx hp =>
      have hgets : Gets auth w k x q p := ⟨hx, hq, hp⟩
      have hgoing := (Receives.now hgets).going
      rw [hgets.round_eq] at hround
      obtain ⟨hfirst, hunreached⟩ := unreached_of_handle hround hgoing hr ho
      exact ⟨hfirst, q, p, hgets, hunreached⟩
  | case2 k isFirst x y hround ih =>
    -- the rounds after this one do not look for it
    rw [exchange_of_again hround] at hr ho
    have hno := (ih hr ho).1
    simp at hno

/-- **An exchange reports that the service is offline** exactly if its first request reached no
server, where this is looked for. -/
theorem act_offline_iff (hstop : (auth.act w a log).log.isStopped = false) :
    (auth.act w a log).outcome.status = .offline ↔ auth.detectsOffline = true ∧
      ∃ q p, Gets auth w auth.firstKind ⟨a, log, false⟩ q p ∧ p.IsUnreached := by
  constructor
  · intro ho
    obtain ⟨hdetects, h⟩ := unreached_of_exchange hstop ho
    exact ⟨by simpa using hdetects, h⟩
  · rintro ⟨hdetects, q, p, h, hunreached⟩
    have hs : p.status ≠ some 200 := by simp [hunreached.1]
    rw [(Receives.now h).act_of_not_granted (granted_of_status_ne _ hs)]
    exact status_offline_iff.2 ⟨by simpa using hdetects, hunreached⟩

end Authentication

end SignIn
