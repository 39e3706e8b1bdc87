import SignIn.Proofs.Exchange.Session
import SignIn.Proofs.Lookup

/-!
# What every reply means when a profile is looked up

A profile that the server does not know, and a body that describes none, leave the account without
a profile; a body that describes one gives it that profile.  Every other failure leaves the account
as it is, and is final exactly if the server itself reported it.

## Main definitions

* `Lookup.address` — where the profile of an account is.
* `Lookup.Settles` — what a reply means for the outcome and for the profile.
* `Lookup.Classified` — what looking a profile up comes to.

## Main results

* `Lookup.judge_settles` — a reply is judged so.
* `Lookup.perform_classified` — looking a profile up comes to this, on every account.
-/

namespace SignIn

namespace Lookup

/-- Where the profile of an account is. -/
def address (s : Settings) (a : Account) : String :=
  a.sessionServerUrl s ++ "/session/minecraft/profile/" ++ a.profile.id

theorem request_eq_ok {s : Settings} {a : Account} {url : Url}
    (h : Url.parse (address s a) = .ok url) :
    request s a = .ok (Request.download url).withJsonHeaders := by
  rw [request, ← address, h]
  rfl

theorem request_eq_error {s : Settings} {a : Account} {fault : Url.Fault}
    (h : Url.parse (address s a) = .error fault) : request s a = .error (.invalidUrl fault) := by
  rw [request, ← address, h]
  rfl

/-- What a reply means for the outcome, and for the profile that the account had before. -/
structure Settles (p : Reply) (old : Profile) (o : Outcome) (new : Profile) : Prop where
  /-- A success describes the profile. -/
  found : p.failure = none → ∀ described, Profile.IsDescribed p.body described →
    o = .working "Minecraft Java profile acquisition succeeded." ∧ new = described
  /-- A success that describes none takes the profile away. -/
  undescribed : p.failure = none → Profile.IsUndescribed p.body →
    o = .soft "Minecraft Java profile response could not be parsed" ∧ new = .none
  /-- So does a server that knows of no profile, and this is no failure. -/
  unknown : p.failureKind? = some .notFound →
    o = .working "Account has no Minecraft profile." ∧ new = .none
  /-- Anything else that a server reports is final. -/
  refused : ∀ f, p.failure = some f → f.kind.isApplication = true → f.kind ≠ .notFound →
    o = .hard (failureMessage f.message) ∧ new = old
  /-- Where no server answered, trying again may help. -/
  unreached : ∀ f, p.failure = some f → f.kind.isApplication = false →
    o = .soft (failureMessage f.message) ∧ new = old

/-- A judgement in two parts. -/
theorem judge_eq_iff {p : Reply} {old new : Profile} {o : Outcome} :
    judge p old = (o, new) ↔ (judge p old).1 = o ∧ (judge p old).2 = new :=
  Prod.ext_iff

theorem judge_of_failure {p : Reply} {f : Failure} (h : p.failure = some f) (old : Profile) :
    judge p old = failed f old := by
  rw [judge, h]

theorem judge_of_success {p : Reply} (h : p.failure = none) (old : Profile) :
    judge p old = described p.body := by
  rw [judge, h]

/-- **A reply is judged by its failure, and a success by what it describes.** -/
theorem judge_settles (p : Reply) (old : Profile) :
    Settles p old (judge p old).1 (judge p old).2 where
  found h found hfound := by
    rw [← judge_eq_iff, judge_of_success h, described, Profile.ofSession?_of_described hfound]
  undescribed h hno := by
    rw [← judge_eq_iff, judge_of_success h, described, Profile.ofSession?_of_undescribed hno]
  unknown h := by
    obtain ⟨f, hf, hk⟩ := Option.map_eq_some_iff.1 h
    rw [← judge_eq_iff, judge_of_failure hf, failed, if_pos hk]
  refused f hf happ hk := by
    rw [← judge_eq_iff, judge_of_failure hf, failed, if_neg hk, if_pos happ]
  unreached f hf happ := by
    have hk : f.kind ≠ .notFound := by
      intro hk
      rw [hk] at happ
      cases happ
    rw [← judge_eq_iff, judge_of_failure hf, failed, if_neg hk, happ, if_neg Bool.false_ne_true]

/-- A status that looking a profile up may end with. -/
def IsUsual (s : Status) : Prop := s = .working ∨ s = .failedHard ∨ s = .failedSoft

theorem isUsual_judge (p : Reply) (old : Profile) : IsUsual (judge p old).1.status := by
  unfold judge failed described
  repeat' split
  all_goals simp [IsUsual, Outcome.working, Outcome.hard, Outcome.soft]

/-- What looking a profile up comes to. -/
structure Classified (w : World) (a : Account) (log : Log) (r : Result) : Prop where
  /-- Without a profile there is nothing to ask for, and nothing is sent. -/
  nameless : a.profile.id = "" → r = ⟨.hard "A UUID is required to get the profile.", a, log⟩
  /-- Without an address there is nobody to ask, and nothing is sent. -/
  unaddressed : a.profile.id ≠ "" → ∀ fault, Url.parse (address w.settings a) = .error fault →
    r = ⟨.hard (failureMessage (Error.invalidUrl fault).message), a, log⟩
  /-- Otherwise, unless the attempt is told to stop, one request asks for the profile, and the reply
  to it settles the outcome and the profile. -/
  answered : a.profile.id ≠ "" → ∀ url p, Url.parse (address w.settings a) = .ok url →
    log.isStopped = false →
    w.server log.requests (Request.download url).withJsonHeaders = .reply p →
    r.log = log ++ [.sent (Request.download url).withJsonHeaders,
        .answered (Request.download url).withJsonHeaders p a] ∧
      Settles p a.profile r.outcome r.account.profile
  /-- These are all the ways that it may go unless the attempt is told to stop. -/
  total : r.log.isStopped = false → a.profile.id = "" ∨
    (∃ fault, Url.parse (address w.settings a) = .error fault) ∨
    ∃ url p, Url.parse (address w.settings a) = .ok url ∧ log.isStopped = false ∧
      w.server log.requests (Request.download url).withJsonHeaders = .reply p
  /-- Nothing of the account but its profile changes, even if the attempt is told to stop. -/
  frame : r.account = { a with profile := r.account.profile }
  /-- Neither is the account ever gone, nor the service offline, nor all done. -/
  status : r.outcome.status ≠ .offline ∧ r.outcome.status ≠ .failedGone ∧
    r.outcome.status ≠ .succeeded

theorem Looks.frame {w : World} {a : Account} {log : Log} {r : Result} (h : Looks w a log r) :
    r.account = { a with profile := r.account.profile } := by
  cases h <;> rfl

theorem Looks.isUsual {w : World} {a : Account} {log : Log} {r : Result} (h : Looks w a log r) :
    IsUsual r.outcome.status := by
  cases h with
  | nameless => exact .inr (.inl rfl)
  | unsendable => exact .inr (.inl rfl)
  | stopped => exact .inr (.inr rfl)
  | @replied q p => exact isUsual_judge p a.profile

theorem IsUsual.ne {s : Status} (h : IsUsual s) :
    s ≠ .offline ∧ s ≠ .failedGone ∧ s ≠ .succeeded := by
  obtain rfl | rfl | rfl := h <;> decide

/-- What was not told to stop had nothing to ask for, nobody to ask, or a reply. -/
theorem Looks.total {w : World} {a : Account} {log : Log} {r : Result} (h : Looks w a log r)
    (hr : r.log.isStopped = false) : a.profile.id = "" ∨
      (∃ fault, Url.parse (address w.settings a) = .error fault) ∨
      ∃ url p, Url.parse (address w.settings a) = .ok url ∧ log.isStopped = false ∧
        w.server log.requests (Request.download url).withJsonHeaders = .reply p := by
  cases hurl : Url.parse (address w.settings a) with
  | error fault => exact .inr (.inl ⟨fault, rfl⟩)
  | ok url =>
    cases h with
    | nameless h => exact .inl (by simpa [Profile.isEmpty] using h)
    | unsendable _ he =>
      rw [request_eq_ok hurl] at he
      cases he
    | stopped _ _ _ hstop =>
      rw [hstop] at hr
      cases hr
    | replied _ hq hx hp =>
      rw [request_eq_ok hurl, Except.ok.injEq] at hq
      subst hq
      exact .inr (.inr ⟨url, _, rfl, hx, hp⟩)

/-- **Looking a profile up is classified.**  A step that has not acted yet sends one request unless
there is nothing to ask for or nobody to ask, and the kind of the reply determines whether the
account keeps its profile, loses it or gets another one. -/
theorem perform_classified (w : World) (a : Account) (log : Log) :
    Classified w a log (Step.lookup.perform w a log).2 := by
  have hact : (Step.lookup.perform w a log).2 = act w a log := rfl
  have hlooks := act_spec w a log
  have hselected (h : a.profile.id ≠ "") : a.profile.isEmpty = false := by
    simpa [Profile.isEmpty] using h
  rw [hact]
  refine ⟨fun h => ?_, fun h fault hurl => ?_, fun h url p hurl hx hp => ?_, hlooks.total,
    hlooks.frame, hlooks.isUsual.ne⟩
  · rw [act, if_pos (by simpa [Profile.isEmpty] using h)]
  · rw [act, if_neg (by simpa using hselected h), request_eq_error hurl]
  · rw [act_of_reply (hselected h) (request_eq_ok hurl) hx hp]
    exact ⟨rfl, judge_settles p a.profile⟩

end Lookup

end SignIn
