import SignIn.Step.Authentication

/-!
# Which replies are accepted

A reply is accepted for an account if it passes one check after the other: the server
says yes, both tokens are there and the token of the installation is the pinned one, and
the reply settles on a profile, by itself or through a pick from the profiles it lists.
Here the checks are put down as one structure, apart from the order in which they are
made, and each function that makes some of them is matched with its part.

## Main definitions

* `Grant.Lists`, `Grant.Picks`, `Grant.Names` — the profile that a grant settles on.
* `Accepted` — all checks.
* `ChangesToken`, `Reply.rejection` — a reply that does not agree with a pinned token, and what
  an attempt ends with then.
* `Account.granted` — the account with all that an accepted reply gives.

## Main results

* `granted_eq_ok_iff`, `tokenFault?_eq_none_iff`, `candidates_eq_ok_iff` — functions against
  their parts of the checks.
-/

namespace SignIn

open SignIn.Authentication SignIn.Json SignIn.Time

/-! ### The profile that a grant settles on -/

namespace Grant

/-- The grant lists profiles, each of them well formed. -/
def Lists (g : Grant) (ps : List ProfileEntry) : Prop :=
  ∃ vs, g.availableProfiles = some (.array vs) ∧ vs.mapM ProfileEntry.ofValue? = some ps

/-- A profile of the list is picked: the only one, or the first of the name that the user
answers with, after some menus. -/
inductive Picks (w : World) (shown : List Menu) (g : Grant) (e : ProfileEntry) : Prop
  /-- There is no other one. -/
  | sole (h : g.Lists [e])
  /-- The user picks it. -/
  | chosen {ps : List ProfileEntry} {name : String} (h : g.Lists ps) (several : 2 ≤ ps.length)
    (answer : w.picker shown (menu ps) = .chosen (some name)) (nonempty : name ≠ "")
    (found : ps.find? (·.name == name) = some e)

/-- Where an exchange stands, the grant settles on a profile, which is picked from the list
or not.  Only one pick is made in an exchange. -/
inductive Names (w : World) (x : Standing) (g : Grant) (e : ProfileEntry) : Bool → Prop
  /-- The server considers it selected. -/
  | selected {v : Value} (h : g.selected = some v) (wellFormed : ProfileEntry.ofValue? v = some e) :
    Names w x g e false
  /-- The server considers none selected, and it is picked. -/
  | picked (h : g.selected = none) (first : x.hasPicked = false)
    (pick : g.Picks w x.log.menus e) : Names w x g e true

theorem Lists.unique {g : Grant} {ps qs : List ProfileEntry} (h : g.Lists ps) (h' : g.Lists qs) :
    ps = qs := by
  obtain ⟨vs, hv, hm⟩ := h
  obtain ⟨vs', hv', hm'⟩ := h'
  rw [hv, Option.some.injEq, Value.array.injEq] at hv'
  subst hv'
  rw [hm, Option.some.injEq] at hm'
  exact hm'

/-- The user answers once, and so at most one profile is picked. -/
theorem Picks.unique {w : World} {shown : List Menu} {g : Grant} {e e' : ProfileEntry}
    (h : g.Picks w shown e) (h' : g.Picks w shown e') : e = e' := by
  rcases h with h | ⟨h, several, ha, -, hf⟩
  · rcases h' with h' | ⟨h', several, -, -, -⟩
    · simpa using h.unique h'
    · simp [← h.unique h'] at several
  · rcases h' with h' | ⟨h', -, ha', -, hf'⟩
    · simp [h.unique h'] at several
    · obtain rfl := h.unique h'
      rw [ha, Pick.chosen.injEq, Option.some.injEq] at ha'
      rw [ha', hf', Option.some.injEq] at hf
      exact hf.symm

/-- A grant settles on at most one profile. -/
theorem Names.unique {w : World} {x : Standing} {g : Grant} {e e' : ProfileEntry} {b b' : Bool}
    (h : g.Names w x e b) (h' : g.Names w x e' b') : e = e' ∧ b = b' := by
  rcases h with ⟨h, hv⟩ | ⟨h, -, hp⟩
  · rcases h' with ⟨h', hv'⟩ | ⟨h', -, -⟩
    · rw [h, Option.some.injEq] at h'
      rw [h', hv', Option.some.injEq] at hv
      exact ⟨hv.symm, rfl⟩
    · simp [h] at h'
  · rcases h' with ⟨h', -⟩ | ⟨-, -, hp'⟩
    · simp [h] at h'
    · exact ⟨hp.unique hp', rfl⟩

end Grant

/-- A reply is accepted where an exchange stands: it makes the grant, which settles on the
profile. -/
structure Accepted (w : World) (x : Standing) (p : Reply) (g : Grant) (e : ProfileEntry)
    (isPicked : Bool) : Prop where
  /-- The server answers that the request is fine. -/
  status : p.status = some 200
  /-- It does not say that the account is gone. -/
  not_gone : p.failureKind? ≠ some .gone
  /-- The body can be read. -/
  parse : Grant.parse p.body = .ok g
  /-- There is a token of the installation. -/
  clientToken_ne_empty : g.clientToken ≠ ""
  /-- It is the pinned one, if one is pinned. -/
  pinned : ∀ t, x.account.clientToken = some t → g.clientToken = t
  /-- There is a token that proves the log-in. -/
  accessToken_ne_empty : g.accessToken ≠ ""
  /-- There is a profile. -/
  names : g.Names w x e isPicked
  /-- It has an identifier. -/
  id_ne_empty : e.id ≠ ""

/-- A reply is accepted in one way at most. -/
theorem Accepted.unique {w : World} {x : Standing} {p : Reply} {g g' : Grant}
    {e e' : ProfileEntry} {b b' : Bool} (h : Accepted w x p g e b) (h' : Accepted w x p g' e' b') :
    g = g' ∧ e = e' ∧ b = b' := by
  obtain rfl : g = g' := Except.ok.inj (h.parse.symm.trans h'.parse)
  exact ⟨rfl, h.names.unique h'.names⟩

/-- Some profiles are listed where one of them is picked. -/
theorem Accepted.exists_lists {w : World} {x : Standing} {p : Reply} {g : Grant} {e : ProfileEntry}
    (h : Accepted w x p g e true) : ∃ ps, g.Lists ps := by
  obtain ⟨⟩ | ⟨-, -, hpick⟩ := h.names
  cases hpick with
  | sole h => exact ⟨_, h⟩
  | chosen h => exact ⟨_, h⟩

/-- The server says yes, but with another token of the installation than the pinned one. -/
def ChangesToken (pinned : String) (p : Reply) : Prop :=
  p.status = some 200 ∧ ∃ g, Grant.parse p.body = .ok g ∧ g.clientToken ≠ "" ∧
    g.clientToken ≠ pinned

/-- What an attempt ends with then.  That an account is gone comes before all else, but no
response of status 200 says so. -/
def Reply.rejection (p : Reply) : Status :=
  if p.failureKind? = some .gone then .failedGone else .failedHard

theorem Reply.rejection_of_not_gone {p : Reply} (h : p.failureKind? ≠ some .gone) :
    p.rejection = .failedHard :=
  if_neg h

/-- A response of status 200 has no failure, and so the failure stays. -/
theorem Reply.rejection_ofResponse (url : Url) (headers : Headers) (body : Bytes) :
    (ofResponse url 200 headers body).rejection = .failedHard :=
  rejection_of_not_gone nofun

/-- The account with all that an accepted reply gives: the token of the installation is
pinned unless one was, the access token is new and known to be good, and the profile is
the one that the reply settles on.  The same profile keeps its skin and cape. -/
def Account.granted (a : Account) (g : Grant) (e : ProfileEntry) (now : Instant) : Account where
  service := a.service
  username := a.username
  clientToken := some (a.clientToken.getD g.clientToken)
  accessToken := ⟨g.accessToken, some now, .certain⟩
  profile :=
    if a.profile.id = e.id then ⟨a.profile.id, e.name, a.profile.skin, a.profile.cape⟩
    else ⟨e.id, e.name, none, none⟩

/-- The profile afterwards has the identifier and the name of the one settled on. -/
theorem Account.profile_granted (a : Account) (g : Grant) (e : ProfileEntry) (now : Instant) :
    (a.granted g e now).profile.id = e.id ∧ (a.granted g e now).profile.name = e.name := by
  unfold granted
  dsimp only
  split <;> simp_all

/-- After a reply is accepted, its token is the pinned one. -/
theorem Accepted.clientToken_granted {w : World} {x : Standing} {p : Reply} {g : Grant}
    {e : ProfileEntry} {b : Bool} (h : Accepted w x p g e b) (now : Instant) :
    (x.account.granted g e now).clientToken = some g.clientToken := by
  cases ht : x.account.clientToken with
  | none => simp [Account.granted, ht]
  | some t => simp [Account.granted, ht, h.pinned t ht]

namespace Authentication

theorem commit_eq_granted (w : World) (a : Account) (log : Log) (g : Grant) (e : ProfileEntry) :
    commit w a log g e = a.granted g e (w.clock log.requests) := rfl

/-! ### What a reply means -/

/-- The failure of a reply that it alone decides on is no success. -/
theorem isFailure_of_failed? {detectsOffline : Bool} {p : Reply} {o : Outcome}
    (h : failed? detectsOffline p = some o) : o.status.isFailure = true := by
  obtain ⟨f, -, hf⟩ := Option.bind_eq_some_iff.1 h
  unfold unanswered at hf
  repeat' split at hf
  all_goals cases hf
  all_goals rfl

/-- With a status, only that the account is gone is decided by the failure alone. -/
theorem failed?_of_status (detectsOffline : Bool) {p : Reply} {status : Nat}
    (h : p.status = some status) :
    failed? detectsOffline p = none ↔ p.failureKind? ≠ some .gone := by
  unfold failed? Reply.failureKind?
  cases hf : p.failure with
  | none => simp only [Option.bind_none, Option.map_none, ne_eq, reduceCtorEq, not_false_eq_true]
  | some f =>
    by_cases hk : f.kind = .gone
    · simp only [Option.bind_some, hk, if_true, Option.map_some, reduceCtorEq, ne_eq,
        not_true_eq_false]
    · simp only [Option.bind_some, hk, if_false, h, Option.isSome_some, if_true, Option.map_some,
        ne_eq, Option.some.injEq, not_false_eq_true]

/-- That the account is gone is the outcome, whatever else the reply says. -/
theorem failed?_of_gone (detectsOffline : Bool) {p : Reply} (h : p.failureKind? = some .gone) :
    ∃ o, failed? detectsOffline p = some o ∧ o.status = .failedGone := by
  obtain ⟨f, hf, hk⟩ := Option.map_eq_some_iff.1 h
  simp only [failed?, hf, Option.bind_some, hk, if_true, Option.some.injEq, exists_eq_left']
  rfl

/-- A reply makes a grant exactly if the server says yes and the body can be read. -/
theorem granted_eq_ok_iff {detectsOffline : Bool} {p : Reply} {g : Grant} :
    granted detectsOffline p = .ok g ↔
      p.status = some 200 ∧ p.failureKind? ≠ some .gone ∧ Grant.parse p.body = .ok g := by
  by_cases hs : p.status = some 200
  · have hf := failed?_of_status detectsOffline hs
    unfold granted
    cases ho : failed? detectsOffline p with
    | some o =>
      rw [ho] at hf
      simp_all
    | none => cases hp : Grant.parse p.body <;> simp_all
  · unfold granted
    cases failed? detectsOffline p <;> simp [hs]

/-- A grant that is not made because the account is gone. -/
theorem status_of_granted_of_gone {detectsOffline : Bool} {p : Reply} {o : Outcome}
    (h : granted detectsOffline p = .error o) (hk : p.failureKind? = some .gone) :
    o.status = .failedGone := by
  obtain ⟨o', ho', hs⟩ := failed?_of_gone detectsOffline hk
  rw [granted, ho', Except.error.injEq] at h
  rw [← h, hs]

/-- A reply that makes no grant leads to a failure. -/
theorem isFailure_of_granted {detectsOffline : Bool} {p : Reply} {o : Outcome}
    (h : granted detectsOffline p = .error o) : o.status.isFailure = true := by
  unfold granted at h
  split at h
  · rename_i o' ho
    obtain rfl : o' = o := by simpa using h
    exact isFailure_of_failed? ho
  · split at h
    · cases hp : Grant.parse p.body with
      | ok g => simp [hp] at h
      | error m =>
        simp only [hp, mapError_error, Except.error.injEq] at h
        simp [← h, Outcome.soft, Status.isFailure]
    · simp only [refused, Except.error.injEq] at h
      rw [← h]
      split <;> rfl

/-! ### The tokens -/

/-- The tokens are in order exactly if both are there and none would change the pinned one. -/
theorem tokenFault?_eq_none_iff {a : Account} {g : Grant} :
    tokenFault? a g = none ↔
      g.clientToken ≠ "" ∧ (∀ t, a.clientToken = some t → g.clientToken = t) ∧
        g.accessToken ≠ "" := by
  have hc : a.checkClientToken g.clientToken = .changed ↔
      ¬ ∀ t, a.clientToken = some t → g.clientToken = t := by
    unfold Account.checkClientToken
    cases a.clientToken with
    | none => simp
    | some t => by_cases h : t = g.clientToken <;> simp [h, eq_comm]
  unfold tokenFault?
  by_cases h₁ : g.clientToken = ""
  · simp only [h₁, if_true, reduceCtorEq, ne_eq, not_true_eq_false, false_and]
  · by_cases h₂ : ∀ t, a.clientToken = some t → g.clientToken = t
    · rw [if_neg h₁, if_neg (by rw [hc]; exact fun h => h h₂)]
      by_cases h₃ : g.accessToken = ""
      · simp only [h₃, if_true, reduceCtorEq, ne_eq, not_true_eq_false, and_false]
      · rw [if_neg h₃]
        exact iff_of_true rfl ⟨h₁, h₂, h₃⟩
    · rw [if_neg h₁, if_pos (hc.2 h₂)]
      simp only [reduceCtorEq, h₂, false_and, and_false]

/-- An accepted reply has tokens in order. -/
theorem tokenFault?_of_accepted {w : World} {x : Standing} {p : Reply} {g : Grant}
    {e : ProfileEntry} {b : Bool} (h : Accepted w x p g e b) : tokenFault? x.account g = none :=
  tokenFault?_eq_none_iff.2 ⟨h.clientToken_ne_empty, h.pinned, h.accessToken_ne_empty⟩

/-- Tokens out of order are a failure that stays. -/
theorem status_of_tokenFault? {a : Account} {g : Grant} {o : Outcome}
    (h : tokenFault? a g = some o) : o.status = .failedHard := by
  unfold tokenFault? at h
  repeat' split at h
  all_goals cases h
  all_goals rfl

/-! ### The profile -/

theorem candidates_eq_ok_iff {g : Grant} {ps : List ProfileEntry} :
    candidates g = .ok ps ↔ g.Lists ps := by
  unfold candidates Grant.Lists
  split
  · rename_i vs hv
    split
    · rename_i qs hm
      constructor
      · rintro ⟨⟩
        exact ⟨vs, hv, hm⟩
      · rintro ⟨vs', hv', hm'⟩
        rw [hv, Option.some.injEq, Value.array.injEq] at hv'
        subst hv'
        rw [hm, Option.some.injEq] at hm'
        rw [hm']
    · rename_i hm
      simp only [reduceCtorEq, false_iff]
      rintro ⟨vs', hv', hm'⟩
      rw [hv, Option.some.injEq, Value.array.injEq] at hv'
      subst hv'
      rw [hm] at hm'
      cases hm'
  · rename_i hv
    simp only [reduceCtorEq, false_iff]
    rintro ⟨vs, hv', -⟩
    exact hv vs hv'

end Authentication

end SignIn
