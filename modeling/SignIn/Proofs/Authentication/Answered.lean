import SignIn.Proofs.Authentication.Commit
import SignIn.Proofs.Authentication.Received

/-!
# What comes of each reply

An exchange deals with its replies one by one.  Whatever a reply leads to by itself is then what
the exchange comes to: it ends the exchange, or it is the first one and asks for another.  So what
is said about a single reply can be said about every reply of a whole exchange, with the account
and the log as they were when it arrived.

## Main definitions

* `Deals` — what comes of a reply, as far as the whole exchange is concerned.

## Main results

* `Receives.deals` — every reply of an exchange is dealt with by itself.
-/

namespace SignIn

namespace Authentication

/-- What comes of a reply that arrives where an exchange stands, given what happens after it and
what the exchange ends with. -/
inductive Deals (auth : Authentication) (w : World) (x : Standing) (p : Reply) (after : Log)
    (r : Result) : Prop
  /-- It ends the exchange. -/
  | ends {y : Standing} {o : Outcome} (h : auth.handle w (!x.hasPicked) x p = (y, .done o))
    (hr : r = ⟨o, y.account, y.log⟩) (hlog : y.log = x.log ++ after)
    (last : after.exchanges = [])
  /-- It asks for another round, and there is another reply. -/
  | leads {y : Standing} (h : auth.handle w (!x.hasPicked) x p = (y, .again))
    (first : x.hasPicked = false) (more : after.exchanges ≠ [])

variable {auth : Authentication} {w : World} {a b : Account} {log before after : Log} {q : Request}
  {p : Reply}

/-- A step comes down to what comes of any of its replies. -/
theorem Receives.act_eq (h : Receives auth w auth.firstKind ⟨a, log, false⟩ before q p b) :
    auth.act w a log = auth.follow w (auth.handle w
      (!(Standing.upon ⟨a, log, false⟩ before q p b).hasPicked)
      (.upon ⟨a, log, false⟩ before q p b) p) := by
  rw [act, h.exchange_eq]
  simp [Standing.upon]

/-- A round whose request can be made ends with a reply, whether it is told to stop or not. -/
theorem exchange_answered {k : Kind} {x : Standing} (isFirst : Bool)
    (hq : auth.request w.settings (accountFor w x.account k) k = .ok q) :
    ∃ new, (auth.exchange w k isFirst x).log = x.log ++ new ∧ new.exchanges ≠ [] := by
  have h := round_spec auth w k isFirst x
  rcases hr : auth.round w k isFirst x with ⟨y, v⟩
  rw [hr] at h
  obtain ⟨new, hnew, -, hone, -⟩ := h.commits
  obtain ⟨p, hp⟩ := hone q hq
  obtain ⟨later, hlater⟩ := follow_log auth w y v
  refine ⟨new ++ later, ?_, by simp [hp]⟩
  rw [exchange_eq_follow, hr, hlater, hnew, List.append_assoc]

/-- **Every reply of an exchange is dealt with by itself.** -/
theorem Receives.deals (h : Receives auth w auth.firstKind ⟨a, log, false⟩ before q p b)
    (hlog : (auth.act w a log).log = log ++ (before ++ .answered q p b :: after)) :
    Deals auth w (.upon ⟨a, log, false⟩ before q p b) p after (auth.act w a log) := by
  have hact := h.act_eq
  generalize hx : Standing.upon ⟨a, log, false⟩ before q p b = x at hact ⊢
  have hxlog : log ++ (before ++ .answered q p b :: after) = x.log ++ after := by
    simp [← hx, Standing.upon]
  have hgoing : x.log.isStopped = false := hx ▸ h.going
  obtain ⟨more, hmore, hm⟩ := handle_log auth w (!x.hasPicked) p hgoing
  have hspec := handle_spec auth w (!x.hasPicked) p hgoing
  rcases hh : auth.handle w (!x.hasPicked) x p with ⟨y, v⟩
  rw [hh] at hact hmore hspec
  dsimp only at hmore hspec
  cases v with
  | done o =>
    have hy : y.log = x.log ++ after := by
      rw [← hxlog, ← hlog, hact]
      rfl
    obtain rfl : more = after := List.append_cancel_left (hmore.symm.trans hy)
    exact .ends hh hact hy hm
  | again =>
    obtain ⟨g, e, hacc⟩ : ∃ g e, Accepted w x p g e true := by
      cases hspec with
      | picks hacc => exact ⟨_, _, hacc⟩
    obtain ⟨ps, hl⟩ := hacc.exists_lists
    obtain rfl : y = x.picked w g e ps :=
      congrArg Prod.fst (hh.symm.trans (handle_of_picked hacc hl hgoing _))
    obtain ⟨⟩ | ⟨-, first, -⟩ := hacc.names
    -- the renewal that has to confirm the pick can be sent
    obtain ⟨k, hk⟩ := h.exists_request
    obtain ⟨q', hq'⟩ := exists_renewal hk (b := (x.picked w g e ps).account) (by rw [← hx]; rfl)
    obtain ⟨new, hnew, hne⟩ := exchange_answered (k := .renewal) false hq'
    refine .leads hh first ?_
    have hy : (x.picked w g e ps).log ++ new = x.log ++ after := by
      rw [← hxlog, ← hlog, hact]
      exact hnew.symm
    rw [show (x.picked w g e ps).log = x.log ++ offers ps from rfl, List.append_assoc] at hy
    obtain rfl := List.append_cancel_left hy
    simp [hne]

end Authentication

end SignIn
