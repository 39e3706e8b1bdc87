import SignIn.Proofs.Attempt
import SignIn.Step.Lookup

/-!
# What looking a profile up comes to

Looking a profile up sends one request, if it sends any, and changes nothing of the account
but its profile.

## Main definitions

* `Lookup.Looks` — what comes of looking a profile up.

## Main results

* `Lookup.act_spec` — every run is one of these cases.
* `Lookup.kind_of_request` — the request asks for data and sends none.
-/

namespace SignIn

namespace Lookup

/-- What comes of looking a profile up. -/
inductive Looks (w : World) (a : Account) (log : Log) : Result → Prop
  /-- No profile has been selected. -/
  | nameless (h : a.profile.isEmpty = true) :
    Looks w a log ⟨.hard "A UUID is required to get the profile.", a, log⟩
  /-- The address is no URL. -/
  | unsendable {e : Error} (h : a.profile.isEmpty = false) (he : request w.settings a = .error e) :
    Looks w a log ⟨.hard (failureMessage e.message), a, log⟩
  /-- The attempt was told to stop before, or is told so while the request is under way. -/
  | stopped {q : Request} {more : Log} {p : Reply} (h : a.profile.isEmpty = false)
    (hq : request w.settings a = .ok q) (hs : w.Sends a log q more p)
    (hstop : (log ++ more).isStopped = true) : Looks w a log ⟨.aborted, a, log ++ more⟩
  /-- The reply arrives and is judged. -/
  | replied {q : Request} {p : Reply} (h : a.profile.isEmpty = false)
    (hq : request w.settings a = .ok q) (hx : log.isStopped = false)
    (hp : w.server log.requests q = .reply p) :
    Looks w a log ⟨(judge p a.profile).1, { a with profile := (judge p a.profile).2 },
      log ++ [.sent q, .answered q p a]⟩

/-- **Looking a profile up comes to one of these.** -/
theorem act_spec (w : World) (a : Account) (log : Log) : Looks w a log (act w a log) := by
  unfold act
  cases h : a.profile.isEmpty with
  | true => exact .nameless h
  | false =>
    rw [if_neg Bool.false_ne_true]
    cases hq : request w.settings a with
    | error e => exact .unsendable h hq
    | ok q =>
      obtain ⟨more, p, hsend, hs⟩ := w.send_spec "ProfileFetchStep" a log q
      simp only [hsend]
      cases hstop : (log ++ more).isStopped with
      | true => exact .stopped h hq hs hstop
      | false =>
        rw [if_neg Bool.false_ne_true]
        cases hs with
        | unsent h => simp [h] at hstop
        | stopped => simp at hstop
        | answered hx hp => exact .replied h hq hx hp

/-- A reply that arrives, while nothing tells the attempt to stop, is judged. -/
theorem act_of_reply {w : World} {a : Account} {log : Log} {q : Request} {p : Reply}
    (h : a.profile.isEmpty = false) (hq : request w.settings a = .ok q)
    (hx : log.isStopped = false) (hp : w.server log.requests q = .reply p) :
    act w a log = ⟨(judge p a.profile).1, { a with profile := (judge p a.profile).2 },
      log ++ [.sent q, .answered q p a]⟩ := by
  have hsend : w.send "ProfileFetchStep" a log q =
      (log ++ [.sent q, .answered q p a], .ok p) := by
    rw [World.send_of_not_isStopped hx, hp]
  have hstop : Log.isStopped (log ++ [.sent q, .answered q p a]) = false := by simp [hx]
  rw [act, h, hq, if_neg Bool.false_ne_true]
  simp only [hsend, hstop, Bool.false_eq_true, if_false]

/-- The request asks for data and sends none. -/
theorem kind_of_request {s : Settings} {a : Account} {q : Request} (h : request s a = .ok q) :
    q.kind = .download := by
  unfold request at h
  cases hu : (Url.parse (a.sessionServerUrl s ++ "/session/minecraft/profile/" ++
      a.profile.id)).mapError Error.invalidUrl with
  | error e => simp [hu, Except.map] at h
  | ok url =>
    rw [hu] at h
    obtain rfl := Except.ok.inj h
    rfl

end Lookup

end SignIn
