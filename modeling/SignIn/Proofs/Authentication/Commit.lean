import SignIn.Proofs.Authentication.Confirmation

/-!
# All or nothing

What authenticating leaves behind is told by the replies alone.  The replies that were
accepted have been taken over one after the other, each of them as a whole; the last reply
of an exchange counts if it led to success, and every reply before the last one does.
Nothing else has touched the account, apart from the token that a log-in pins first.

## Main definitions

* `Commits` — taking over the replies of a list, one after the other.

## Main results

* `perform_commits` — the account afterwards is the one before, with these replies taken
  over.
-/

namespace SignIn

namespace Authentication

/-- Replies are taken over, one after the other, each at its place in the log and where the
exchange stands there: whether a profile was picked before, and the account. -/
inductive Commits (w : World) (log : Log) :
    Bool → Account → List (Request × Reply) → Account → Prop
  /-- There is no reply. -/
  | nil {hasPicked : Bool} {a : Account} : Commits w log hasPicked a [] a
  /-- The first reply is accepted, and its grant is taken over. -/
  | cons {hasPicked isPicked : Bool} {a a' : Account} {q : Request} {p : Reply} {g : Grant}
    {e : ProfileEntry} {before after : Log} {rest : List (Request × Reply)}
    (place : log = before ++ .answered q p a :: after)
    (accepted : Accepted w ⟨a, before ++ [.answered q p a], hasPicked⟩ p g e isPicked)
    (others : Commits w log isPicked (a.granted g e (w.clock before.requests)) rest a') :
    Commits w log hasPicked a ((q, p) :: rest) a'

namespace Commits

variable {w : World} {log : Log} {hasPicked : Bool} {a a' : Account}
  {replies : List (Request × Reply)}

/-- Who the account is never changes. -/
theorem service_username (h : Commits w log hasPicked a replies a') :
    a'.service = a.service ∧ a'.username = a.username := by
  induction h with
  | nil => exact ⟨rfl, rfl⟩
  | cons _ _ _ ih => exact ih

/-- A reply is taken over right after its request was sent. -/
theorem sent_answered {before m : Log} {isPicked : Bool} {q : Request} {p : Reply} {g : Grant}
    {e : ProfileEntry}
    (accepted : Accepted w ⟨a, before ++ [.sent q, .answered q p a], hasPicked⟩ p g e isPicked)
    (others : Commits w (before ++ [.sent q, .answered q p a] ++ m) isPicked
      (a.granted g e (w.clock (Log.requests (before ++ [.sent q, .answered q p a])))) replies a') :
    Commits w (before ++ [.sent q, .answered q p a] ++ m) hasPicked a ((q, p) :: replies) a' := by
  have hb : before ++ [.sent q, .answered q p a] =
      (before ++ [.sent q]) ++ [Log.Event.answered q p a] := by simp
  have hr : Log.requests (before ++ [.sent q, .answered q p a]) =
      Log.requests (before ++ [.sent q]) := by simp
  rw [hr] at others
  rw [hb] at accepted
  have place : before ++ [.sent q, .answered q p a] ++ m =
      (before ++ [.sent q]) ++ .answered q p a :: m := by simp
  exact .cons place accepted others

end Commits

/-- A reply that leads on. -/
def Verdict.isGood : Verdict → Bool
  | .done o => o.status = .working
  | .again => true

@[simp] theorem Verdict.isGood_done (o : Outcome) :
    (Verdict.done o).isGood = true ↔ o.status = .working := by
  simp [isGood]

/-- One round takes over its reply, or leaves the account alone. -/
theorem Round.commits {auth : Authentication} {w : World} {k : Kind} {x y : Standing} {v : Verdict}
    (h : Round auth w k x y v) :
    ∃ new, y.log = x.log ++ new ∧ new.exchanges.length ≤ 1 ∧
      (∀ q, auth.request w.settings (accountFor w x.account k) k = .ok q →
        ∃ p, new.exchanges = [(q, p)]) ∧
      Commits w y.log x.hasPicked (accountFor w x.account k)
        (if v.isGood then new.exchanges else []) y.account := by
  cases h with
  | unsendable he =>
    exact ⟨[], by simp, by simp, fun q hq => (request_ne_ok he q hq).elim, .nil⟩
  | @stopped q more p hq hs hstop =>
    refine ⟨more, rfl, by simp [hs.exchanges_eq], fun q' hq' => ?_, .nil⟩
    rw [hq, Except.ok.injEq] at hq'
    exact ⟨p, hq' ▸ hs.exchanges_eq⟩
  | @replied q p y v hq hx hp hh =>
    have hq' (q' : Request) (h : auth.request w.settings (accountFor w x.account k) k = .ok q') :
        q = q' := by
      rw [hq, Except.ok.injEq] at h
      exact h
    cases hh with
    | @fails o more ho hno hard hm =>
      refine ⟨[.sent q, .answered q p (accountFor w x.account k)] ++ more, by simp,
        by simp [hm.exchanges_eq_nil], fun q' h => ⟨p, by simp [hm.exchanges_eq_nil, hq' q' h]⟩, ?_⟩
      rw [Verdict.isGood, decide_eq_false (Status.isFailure_iff.1 ho).1]
      exact .nil
    | @ends g e h =>
      refine ⟨[.sent q, .answered q p (accountFor w x.account k)], rfl, by simp,
        fun q' h => ⟨p, by simp [hq' q' h]⟩, ?_⟩
      have hc := Commits.sent_answered (m := []) h .nil
      rw [List.append_nil] at hc
      exact hc
    | @picks g e more h hm hs =>
      refine ⟨[.sent q, .answered q p (accountFor w x.account k)] ++ more, by simp,
        by simp [hm.exchanges_eq_nil], fun q' h => ⟨p, by simp [hm.exchanges_eq_nil, hq' q' h]⟩, ?_⟩
      simpa [hm.exchanges_eq_nil, Verdict.isGood] using Commits.sent_answered h .nil

theorem Exchange.commits {auth : Authentication} {w : World} {a : Account} {log : Log} {r : Result}
    (h : Exchange auth w a log r) :
    ∃ new, r.log = log ++ new ∧
      Commits w r.log false (accountFor w a auth.firstKind)
        (if r.outcome.status = .working then new.exchanges else new.exchanges.dropLast)
        r.account := by
  cases h with
  | @single y o h =>
    obtain ⟨new, hlog, hlen, -, hc⟩ := h.commits
    simp only [Verdict.isGood_done] at hc
    refine ⟨new, hlog, ?_⟩
    -- the only reply is the last one
    have hnil : new.exchanges.dropLast = [] := by
      rw [← List.length_eq_zero_iff, List.length_dropLast]
      omega
    rw [hnil]
    exact hc
  | @double a₁ a₂ q₁ q₂ p₁ g e more z o ha₁ hq₁ hx hp₁ accepted hm hs ha₂ hq₂ h₂ =>
    obtain ⟨new, hlog, -, hone, hc⟩ := h₂.commits
    obtain ⟨p₂, hnew⟩ := hone q₂ hq₂
    have hreplies : Log.exchanges ([.sent q₁, .answered q₁ p₁ a₁] ++ more ++ new) =
        [(q₁, p₁), (q₂, p₂)] := by
      simp [hm.exchanges_eq_nil, hnew]
    refine ⟨[.sent q₁, .answered q₁ p₁ a₁] ++ more ++ new, by simp [hlog], ?_⟩
    have hlog' : z.log = log ++ [.sent q₁, .answered q₁ p₁ a₁] ++ (more ++ new) := by simp [hlog]
    simp only [Verdict.isGood_done, hnew] at hc
    -- the first reply is not the last one, and counts however the exchange ends
    have hrest : (if o.status = .working then [(q₁, p₁), (q₂, p₂)]
        else [(q₁, p₁), (q₂, p₂)].dropLast) =
        (q₁, p₁) :: if o.status = .working then [(q₂, p₂)] else [] := by
      split <;> rfl
    dsimp only
    rw [hreplies, hrest, ← ha₁, hlog']
    refine .sent_answered accepted ?_
    rw [← hlog', Log.requests_append, Log.requests_sent, Log.requests_answered,
      Log.requests_nil, ← ha₂]
    exact hc

/-- An exchange does well only with a reply. -/
theorem Exchange.exists_reply {auth : Authentication} {w : World} {a : Account} {log : Log}
    {r : Result} (h : Exchange auth w a log r) (ho : r.outcome.status = .working) :
    ∃ new, r.log = log ++ new ∧ new.exchanges ≠ [] := by
  cases h with
  | single h =>
    obtain ⟨q, p, -, -, hlog, -⟩ := h.of_working ho
    exact ⟨_, hlog, by simp⟩
  | @double a₁ a₂ q₁ q₂ p₁ g e more z o ha₁ hq₁ hx hp₁ accepted hm hs ha₂ hq₂ h₂ =>
    obtain ⟨new, hlog, -⟩ := h₂.commits
    refine ⟨[.sent q₁, .answered q₁ p₁ a₁] ++ more ++ new, by simp [hlog], ?_⟩
    simp

/-- **Taking replies over is all or nothing.**  An authentication step gets some replies, and at
least one if it did its part.  The account afterwards is the one that the first request was made
for, with every reply but the last taken over, and with the last one taken over exactly if the step
did its part. -/
theorem perform_commits (auth : Authentication) (w : World) (a : Account) (log : Log) :
    let r := ((Step.authentication auth).perform w a log).2
    ∃ new, r.log = log ++ new ∧
      Commits w r.log false (accountFor w a auth.firstKind)
        (if r.outcome.status = .working then new.exchanges else new.exchanges.dropLast) r.account ∧
      (r.outcome.status = .working → new.exchanges ≠ []) ∧
      r.account.service = a.service ∧ r.account.username = a.username := by
  obtain ⟨new, hlog, hc⟩ := (act_spec auth w a log).commits
  refine ⟨new, hlog, hc, ?_, ?_⟩
  · intro ho
    obtain ⟨new', hlog', hne⟩ := (act_spec auth w a log).exists_reply ho
    rwa [List.append_cancel_left (hlog.symm.trans hlog')]
  · have ha : (accountFor w a auth.firstKind).service = a.service ∧
        (accountFor w a auth.firstKind).username = a.username := by
      cases auth.firstKind <;> exact ⟨rfl, rfl⟩
    exact ⟨hc.service_username.1.trans ha.1, hc.service_username.2.trans ha.2⟩

/-- A renewal with two replies, which takes over both of them. -/
theorem perform_commits_swapping :
    let r := ((Step.authentication renewal).perform swapping pinnedAccount []).2
    ∃ q₁ q₂ b, Swaps q₁ q₂ b ∧ r.outcome.status = .working ∧
      r.log.exchanges = [(q₁, listed q₁), (q₂, selected q₂)] ∧
      Commits swapping r.log false pinnedAccount [(q₁, listed q₁), (q₂, selected q₂)] r.account := by
  obtain ⟨q₁, q₂, b, h⟩ := exists_swaps
  obtain ⟨a, -, hact⟩ := h.act_eq
  obtain ⟨new, hlog, hcommits, -, -⟩ := perform_commits renewal swapping pinnedAccount []
  intro r
  have hr : r = _ := hact
  have hworking : r.outcome.status = .working := by
    rw [hr]
    rfl
  have hnew : new = r.log := hlog.symm
  have hexchanges : r.log.exchanges = [(q₁, listed q₁), (q₂, selected q₂)] := by
    rw [hr]
    rfl
  refine ⟨q₁, q₂, b, h, hworking, hexchanges, ?_⟩
  rw [show ((Step.authentication renewal).perform swapping pinnedAccount []).2 = r from rfl,
    if_pos hworking, hnew, hexchanges] at hcommits
  exact hcommits

end Authentication

end SignIn
