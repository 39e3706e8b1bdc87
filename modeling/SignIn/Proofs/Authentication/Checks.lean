import SignIn.Proofs.Authentication.Round

/-!
# The order of the checks

A grant is checked piece by piece, and the first piece that is out of order decides what the
exchange ends with.  Each check is put down here with the pieces of JSON that fail it, apart from
the functions that make it; that the functions make the checks in this order, and end with the
outcome of the first one that fails, is what is proved.

## Main definitions

* `Check`, `Check.all` — the checks, in their order.
* `Check.outcome` — what an exchange ends with that fails one.
* `Grant.Fails`, `Grant.FailsFirst` — which checks a grant fails, and which one first.

## Main results

* `Grant.FailsFirst.unique` — at most one check fails first.
* `failsFirst_of_process` — a grant that is not taken over fails with its first check.
-/

namespace SignIn

open SignIn.Authentication SignIn.Json

/-! ### Shapes of JSON -/

namespace ProfileEntry

/-- A member that reads as a text: it is absent, `null` or a text. -/
def IsTextual (member : Option Value) : Prop :=
  member = none ∨ member = some .null ∨ ∃ s, member = some (.string s)

/-- An object whose identifier and name read as texts. -/
def IsWellFormed (v : Value) : Prop :=
  ∃ ms, v = .object ms ∧ IsTextual (ms.lookup "id") ∧ IsTextual (ms.lookup "name")

theorem exists_textMember?_iff {name : String} {ms : List (String × Value)} :
    (∃ s, textMember? name ms = some s) ↔ IsTextual (ms.lookup name) := by
  unfold textMember? IsTextual
  generalize ms.lookup name = member
  cases member with
  | none => simp
  | some v => cases v <;> simp

/-- The values that are entries are the well-formed ones. -/
theorem exists_ofValue?_iff {v : Value} : (∃ e, ofValue? v = some e) ↔ IsWellFormed v := by
  unfold IsWellFormed
  cases v with
  | object ms =>
    simp only [ofValue?, Value.object.injEq, exists_eq_left', ← exists_textMember?_iff]
    cases textMember? "id" ms <;> cases textMember? "name" ms <;> simp
  | _ => simp [ofValue?]

theorem ofValue?_eq_none_iff {v : Value} : ofValue? v = none ↔ ¬ IsWellFormed v := by
  rw [← exists_ofValue?_iff]
  cases ofValue? v <;> simp

/-- A list is one of entries if each of its items is well formed. -/
theorem exists_mapM_ofValue?_iff {vs : List Value} :
    (∃ ps, vs.mapM ofValue? = some ps) ↔ ∀ v ∈ vs, IsWellFormed v := by
  induction vs with
  | nil => simp
  | cons v vs ih =>
    rw [List.forall_mem_cons, ← ih, ← exists_ofValue?_iff, List.mapM_cons]
    cases ofValue? v <;> cases vs.mapM ofValue? <;> simp

/-- The identifier of an entry is the text of its member. -/
theorem id_ne_empty_iff {ms : List (String × Value)} {e : ProfileEntry}
    (h : ofValue? (.object ms) = some e) :
    e.id ≠ "" ↔ ∃ s, s ≠ "" ∧ ms.lookup "id" = some (.string s) := by
  obtain ⟨s, hs, t, ht, rfl⟩ : ∃ s, textMember? "id" ms = some s ∧
      ∃ t, textMember? "name" ms = some t ∧ ⟨s, t⟩ = e := by
    simpa [ofValue?, Option.bind_eq_some_iff] using h
  unfold textMember? at hs
  generalize ms.lookup "id" = member at hs ⊢
  cases member with
  | none => simp_all
  | some v => cases v <;> simp_all

end ProfileEntry

namespace Grant

/-- The grant selects no profile: the member is absent, `null` or `{}`. -/
def SelectsNothing (g : Grant) : Prop :=
  g.selectedProfile = none ∨ g.selectedProfile = some .null ∨ g.selectedProfile = some (.object [])

theorem selected_eq_none_iff {g : Grant} : g.selected = none ↔ g.SelectsNothing := by
  unfold selected SelectsNothing
  split <;> simp_all

/-- Otherwise what counts is the member itself. -/
theorem selected_eq_some_iff {g : Grant} {v : Value} :
    g.selected = some v ↔ g.selectedProfile = some v ∧ ¬ g.SelectsNothing := by
  unfold selected SelectsNothing
  split <;> simp_all

end Grant

/-! ### The checks -/

namespace Authentication

/-- What a grant has to pass. -/
inductive Check where
  /-- There is a token of the installation. -/
  | clientToken
  /-- It is the pinned one, if one is pinned. -/
  | pinned
  /-- There is a token that proves the log-in. -/
  | accessToken
  /-- The selected profile is well formed. -/
  | selection
  /-- After a pick, a profile is selected. -/
  | confirmation
  /-- Without a selected profile, profiles are listed. -/
  | list
  /-- Each of them is well formed. -/
  | entries
  /-- There is one at least. -/
  | someEntry
  /-- One is picked, if there are several. -/
  | pick
  /-- The profile has an identifier. -/
  | identifier
  deriving DecidableEq, Repr

namespace Check

/-- The checks, in the order in which they are made. -/
def all : List Check :=
  [.clientToken, .pinned, .accessToken, .selection, .confirmation, .list, .entries, .someEntry,
    .pick, .identifier]

/-- The checks that are made before one. -/
def earlier (c : Check) : List Check := all.takeWhile (· ≠ c)

/-- Of two checks, one is made before the other. -/
theorem mem_earlier_or (c d : Check) : c = d ∨ c ∈ d.earlier ∨ d ∈ c.earlier := by
  cases c <;> cases d <;> decide

/-- What an exchange ends with that fails a check. -/
def outcome : Check → Outcome
  | .clientToken => .hard "The authentication server didn't send a client token."
  | .pinned => .hard ("The authentication server attempted to change the client token. " ++
      "This isn't supported.")
  | .accessToken => .hard "The authentication server didn't send an access token."
  | .selection => .hard "The authentication server sent a malformed selected profile."
  | .confirmation => .hard "The authentication server didn't save our selected profile."
  | .list => .hard "The authentication server didn't send a list of available profiles."
  | .entries => .hard "The authentication server sent a malformed profile list."
  | .someEntry => .hard "The account has no available Minecraft profile."
  | .pick => .soft "Authentication cancelled."
  | .identifier => .hard "The authentication server sent a profile without an id."

/-- Only an attempt without a pick may pass. -/
theorem status_outcome (c : Check) :
    c.outcome.status = if c = .pick then .failedSoft else .failedHard := by
  cases c <;> rfl

end Check

end Authentication

namespace Grant

variable {w : World} {x : Standing} {g : Grant} {c d : Check}

/-- A grant fails a check where an exchange stands. -/
inductive Fails (w : World) (x : Standing) (g : Grant) : Check → Prop
  /-- The token of the installation is missing. -/
  | clientToken (h : g.clientToken = "") : Fails w x g .clientToken
  /-- It is another one than the pinned one. -/
  | pinned {t : String} (ht : x.account.clientToken = some t) (h : g.clientToken ≠ t) :
    Fails w x g .pinned
  /-- The token that proves the log-in is missing. -/
  | accessToken (h : g.accessToken = "") : Fails w x g .accessToken
  /-- The selected profile is no object, or its identifier or its name is no text. -/
  | selection {v : Value} (hv : g.selectedProfile = some v) (hsel : ¬ g.SelectsNothing)
    (h : ¬ ProfileEntry.IsWellFormed v) : Fails w x g .selection
  /-- No profile is selected after one was picked. -/
  | confirmation (hsel : g.SelectsNothing) (h : x.hasPicked = true) : Fails w x g .confirmation
  /-- What should list the profiles is no list. -/
  | list (hsel : g.SelectsNothing) (h : ∀ vs, g.availableProfiles ≠ some (.array vs)) :
    Fails w x g .list
  /-- An entry of the list is no object, or its identifier or its name is no text. -/
  | entries {vs : List Value} {v : Value} (hsel : g.SelectsNothing)
    (hvs : g.availableProfiles = some (.array vs)) (hv : v ∈ vs)
    (h : ¬ ProfileEntry.IsWellFormed v) : Fails w x g .entries
  /-- The list is empty. -/
  | someEntry (hsel : g.SelectsNothing) (h : g.availableProfiles = some (.array [])) :
    Fails w x g .someEntry
  /-- There are several profiles, and the user gives no name, an empty one, or none of theirs. -/
  | pick {ps : List ProfileEntry} {name : Option String} (hsel : g.SelectsNothing)
    (hps : g.Lists ps) (several : 2 ≤ ps.length)
    (answer : w.picker x.log.menus (menu ps) = .chosen name)
    (h : ∀ n, name = some n → n = "" ∨ ∀ e ∈ ps, e.name ≠ n) : Fails w x g .pick
  /-- The profile that the grant settles on has no identifier. -/
  | identifier {e : ProfileEntry} {b : Bool} (he : g.Names w x e b) (h : e.id = "") :
    Fails w x g .identifier

/-- A grant fails a check, and passes all that are made before it. -/
structure FailsFirst (w : World) (x : Standing) (g : Grant) (c : Check) : Prop where
  /-- It fails the check. -/
  fails : g.Fails w x c
  /-- It passes those before. -/
  passes : ∀ d ∈ c.earlier, ¬ g.Fails w x d

/-- At most one check is the first to fail. -/
theorem FailsFirst.unique (hc : g.FailsFirst w x c) (hd : g.FailsFirst w x d) : c = d := by
  obtain h | h | h := c.mem_earlier_or d
  · exact h
  · exact (hd.passes c h hc.fails).elim
  · exact (hc.passes d h hd.fails).elim

/-! ### Passing checks -/

/-- What passes the checks of a list and one more passes them all. -/
theorem passes_append {cs : List Check} (hcs : ∀ d ∈ cs, ¬ g.Fails w x d) (hc : ¬ g.Fails w x c) :
    ∀ d ∈ cs ++ [c], ¬ g.Fails w x d := by
  rw [List.forall_mem_append]
  exact ⟨hcs, by simpa using hc⟩

/-- A grant with tokens in order passes the checks of them. -/
theorem passes_tokens (h : tokenFault? x.account g = none) :
    ∀ d ∈ Check.selection.earlier, ¬ g.Fails w x d := by
  obtain ⟨hc, hp, ha⟩ := tokenFault?_eq_none_iff.1 h
  intro d hd hf
  cases hf with
  | clientToken h => exact hc h
  | pinned ht h => exact h (hp _ ht)
  | accessToken h => exact ha h
  | _ => revert hd; decide

/-- A grant that selects nothing, before any pick, passes the checks of a selected profile. -/
theorem passes_selection (ht : tokenFault? x.account g = none) (hsel : g.SelectsNothing)
    (hx : x.hasPicked = false) : ∀ d ∈ Check.list.earlier, ¬ g.Fails w x d := by
  refine passes_append (passes_append (passes_tokens ht) ?_) ?_ <;> intro hf
  · cases hf with
    | selection _ h => exact h hsel
  · cases hf with
    | confirmation _ h => simp [hx] at h

/-- If it lists profiles besides, it passes the checks of the list. -/
theorem Lists.passes {ps : List ProfileEntry} (h : g.Lists ps)
    (ht : tokenFault? x.account g = none) (hsel : g.SelectsNothing) (hx : x.hasPicked = false) :
    ∀ d ∈ Check.someEntry.earlier, ¬ g.Fails w x d := by
  obtain ⟨vs, hvs, hm⟩ := h
  refine passes_append (passes_append (passes_selection ht hsel hx) ?_) ?_ <;> intro hf
  · cases hf with
    | list _ hno => exact hno vs hvs
  · cases hf with
    | entries _ hvs' hv hno =>
      rw [hvs, Option.some.injEq, Value.array.injEq] at hvs'
      subst hvs'
      exact hno (ProfileEntry.exists_mapM_ofValue?_iff.1 ⟨ps, hm⟩ _ hv)

/-- A list is empty if it lists no profile. -/
theorem lists_nil_iff : g.Lists [] ↔ g.availableProfiles = some (.array []) := by
  unfold Lists
  constructor
  · rintro ⟨vs, hvs, hm⟩
    cases vs with
    | nil => exact hvs
    | cons v vs =>
      rw [List.mapM_cons] at hm
      simp [Option.bind_eq_some_iff] at hm
  · intro h
    exact ⟨[], h, rfl⟩

/-- A grant that settles on a profile passes all checks before the last one. -/
theorem Names.passes {e : ProfileEntry} {b : Bool} (h : g.Names w x e b)
    (ht : tokenFault? x.account g = none) : ∀ d ∈ Check.identifier.earlier, ¬ g.Fails w x d := by
  rcases h with ⟨h, hv⟩ | ⟨h, hx, hp⟩
  · -- it selects a well-formed profile, and nothing else is looked at
    obtain ⟨hg, hsel⟩ := selected_eq_some_iff.1 h
    have htokens := passes_tokens (w := w) ht
    intro d hd hf
    cases hf with
    | selection hv' _ hno =>
      rw [hg, Option.some.injEq] at hv'
      exact hno (ProfileEntry.exists_ofValue?_iff.1 ⟨e, hv' ▸ hv⟩)
    | confirmation hnone | list hnone | entries hnone | someEntry hnone | pick hnone =>
      exact hsel hnone
    | clientToken h => exact htokens _ (by decide) (.clientToken h)
    | pinned ht h => exact htokens _ (by decide) (.pinned ht h)
    | accessToken h => exact htokens _ (by decide) (.accessToken h)
    | identifier => revert hd; decide
  · have hsel := selected_eq_none_iff.1 h
    rcases hp with hl | ⟨hl, several, ha, hne, hfind⟩
    · refine passes_append (passes_append (hl.passes ht hsel hx) ?_) ?_ <;> intro hf
      · cases hf with
        | someEntry _ h => cases hl.unique (lists_nil_iff.2 h)
      · cases hf with
        | pick _ hps several => simp [← hl.unique hps] at several
    · refine passes_append (passes_append (hl.passes ht hsel hx) ?_) ?_ <;> intro hf
      · cases hf with
        | someEntry _ h => simp [hl.unique (lists_nil_iff.2 h)] at several
      · cases hf with
        | pick _ hps _ answer hno =>
          obtain rfl := hl.unique hps
          rw [ha, Pick.chosen.injEq] at answer
          obtain h | h := hno _ answer.symm
          · exact hne h
          · have he := List.find?_some hfind
            exact h e (List.mem_of_find?_eq_some hfind) (by simpa using he)

end Grant

/-! ### The check that fails first -/

namespace Authentication

variable {w : World} {x : Standing} {g : Grant} {o : Outcome}

/-- A token would change the pinned one if it is another one. -/
theorem checkClientToken_eq_changed_iff {a : Account} {token : String} :
    a.checkClientToken token = .changed ↔ ∃ t, a.clientToken = some t ∧ token ≠ t := by
  unfold Account.checkClientToken
  cases a.clientToken with
  | none => simp
  | some t => by_cases h : token = t <;> simp [h, eq_comm]

/-- Tokens out of order fail with the first check of them that fails. -/
theorem failsFirst_of_tokenFault? (h : tokenFault? x.account g = some o) :
    ∃ c, g.FailsFirst w x c ∧ o = c.outcome := by
  unfold tokenFault? at h
  split at h
  · rename_i hc
    exact ⟨.clientToken, ⟨.clientToken hc, nofun⟩, (Option.some.inj h).symm⟩
  · rename_i hc
    have h₁ : ∀ d ∈ Check.pinned.earlier, ¬ g.Fails w x d := by
      intro d hd hf
      cases hf with
      | clientToken h => exact hc h
      | _ => revert hd; decide
    split at h
    · rename_i hp
      obtain ⟨t, ht, hne⟩ := checkClientToken_eq_changed_iff.1 hp
      exact ⟨.pinned, ⟨.pinned ht hne, h₁⟩, (Option.some.inj h).symm⟩
    · rename_i hp
      split at h
      · rename_i ha
        refine ⟨.accessToken, ⟨.accessToken ha, Grant.passes_append h₁ fun hf => ?_⟩,
          (Option.some.inj h).symm⟩
        cases hf with
        | pinned ht h => exact hp (checkClientToken_eq_changed_iff.2 ⟨_, ht, h⟩)
      · cases h

/-- A grant that lists no profiles to pick from fails as a list, or by an entry. -/
theorem failsFirst_of_candidates (ht : tokenFault? x.account g = none) (hsel : g.SelectsNothing)
    (hx : x.hasPicked = false) (h : candidates g = .error o) :
    ∃ c, g.FailsFirst w x c ∧ o = c.outcome := by
  have hpass := Grant.passes_selection (w := w) ht hsel hx
  unfold candidates at h
  split at h
  · rename_i vs hvs
    split at h
    · cases h
    · rename_i hm
      -- some entry is malformed, or else all could be read
      obtain ⟨v, hv, hno⟩ : ∃ v ∈ vs, ¬ ProfileEntry.IsWellFormed v := by
        by_contra hall
        push Not at hall
        obtain ⟨ps, hps⟩ := ProfileEntry.exists_mapM_ofValue?_iff.2 hall
        simp [hps] at hm
      refine ⟨.entries, ⟨.entries hsel hvs hv hno, Grant.passes_append hpass fun hf => ?_⟩,
        (Except.error.inj h).symm⟩
      cases hf with
      | list _ hno => exact hno vs hvs
  · rename_i hvs
    exact ⟨.list, ⟨.list hsel hvs, hpass⟩, (Except.error.inj h).symm⟩

/-- No profile has the name that was picked if there is no name, or an empty one, or one that no
profile has. -/
theorem named_eq_error {ps : List ProfileEntry} {name : Option String}
    (h : named ps name = .error o) : o = Check.pick.outcome ∧
      ∀ n, name = some n → n = "" ∨ ∀ e ∈ ps, e.name ≠ n := by
  refine ⟨?_, fun n hn => ?_⟩
  · unfold named at h
    split at h
    · cases h
    · exact (Except.error.inj h).symm
  · by_contra hno
    push Not at hno
    obtain ⟨hne, e, he, rfl⟩ := hno
    -- some profile of the name would have been picked
    obtain ⟨e', he'⟩ := Option.isSome_iff_exists.1
      (List.find?_isSome (p := (·.name == e.name)).2 ⟨e, he, beq_self_eq_true _⟩)
    rw [named_eq_ok_iff.2 ⟨e.name, hn, hne, he'⟩] at h
    cases h

/-- A pick that fails, while nothing tells the exchange to stop, fails for an empty list or by
the answer of the user. -/
theorem failsFirst_of_pick {ps : List ProfileEntry} {log : Log}
    (ht : tokenFault? x.account g = none) (hsel : g.SelectsNothing) (hx : x.hasPicked = false)
    (hps : g.Lists ps) (h : pick w x.account x.log ps = (log, .error o))
    (hlog : log.isStopped = false) : ∃ c, g.FailsFirst w x c ∧ o = c.outcome := by
  have hpass := hps.passes (w := w) ht hsel hx
  match ps, hps, h with
  | [], hps, h =>
    refine ⟨.someEntry, ⟨.someEntry hsel (Grant.lists_nil_iff.1 hps), hpass⟩, ?_⟩
    simpa [pick, Check.outcome, eq_comm] using congrArg Prod.snd h
  | e :: e' :: ps, hps, h =>
    have hsome : ¬ g.Fails w x .someEntry := fun hf => by
      cases hf with
      | someEntry _ h => simpa using hps.unique (Grant.lists_nil_iff.2 h)
    obtain ⟨hfst, hsnd⟩ : (w.offer x.account x.log (menu (e :: e' :: ps))).1 = log ∧
        named (e :: e' :: ps) (w.offer x.account x.log (menu (e :: e' :: ps))).2 = .error o :=
      Prod.mk.inj h
    cases ha : w.picker x.log.menus (menu (e :: e' :: ps)) with
    | stopped name =>
      -- the word to stop would be in the log
      simp [← hfst, World.offer, ha] at hlog
    | chosen name =>
      simp only [World.offer, ha] at hsnd
      obtain ⟨ho, hno⟩ := named_eq_error hsnd
      exact ⟨.pick, ⟨.pick hsel hps (by simp) ha hno, Grant.passes_append hpass hsome⟩, ho⟩

/-- A grant that settles on no profile fails with the first check of the profile that fails. -/
theorem failsFirst_of_resolve {log : Log} (ht : tokenFault? x.account g = none)
    (h : resolve w x g = (log, .error o)) (hlog : log.isStopped = false) :
    ∃ c, g.FailsFirst w x c ∧ o = c.outcome := by
  unfold resolve at h
  cases hsel : g.selected with
  | some v =>
    obtain ⟨hg, hsome⟩ := Grant.selected_eq_some_iff.1 hsel
    rw [hsel] at h
    dsimp only at h
    split at h
    · cases h
    · rename_i hv
      refine ⟨.selection, ⟨.selection hg hsome (ProfileEntry.ofValue?_eq_none_iff.1 hv),
        Grant.passes_tokens ht⟩, ?_⟩
      simpa [Check.outcome, eq_comm] using congrArg Prod.snd h
  | none =>
    have hnone := Grant.selected_eq_none_iff.1 hsel
    rw [hsel] at h
    dsimp only at h
    split at h
    · rename_i hx
      refine ⟨.confirmation, ⟨.confirmation hnone hx,
        Grant.passes_append (Grant.passes_tokens ht) fun hf => ?_⟩, ?_⟩
      · cases hf with
        | selection _ hsome => exact hsome hnone
      · simpa [Check.outcome, eq_comm] using congrArg Prod.snd h
    · rename_i hx
      rw [Bool.not_eq_true] at hx
      split at h
      · rename_i o' hc
        obtain rfl : o' = o := by simpa using congrArg Prod.snd h
        exact failsFirst_of_candidates ht hnone hx hc
      · rename_i ps hc
        cases hp : pick w x.account x.log ps with | mk log' res =>
        rw [hp, Prod.mk.injEq] at h
        obtain ⟨rfl, hres⟩ := h
        cases res with
        | ok e => cases hres
        | error o' =>
          obtain rfl : o' = o := Except.error.inj hres
          exact failsFirst_of_pick ht hnone hx (candidates_eq_ok_iff.1 hc) hp hlog

/-- **A grant that is not taken over fails with its first check that fails**, while nothing tells
the exchange to stop. -/
theorem failsFirst_of_process {p : Reply} {y : Standing} (hp : Grant.parse p.body = .ok g)
    (h : process w x g = (y, .done o)) (hy : y.log.isStopped = false)
    (ho : o.status.isFailure = true) : ∃ c, g.FailsFirst w x c ∧ o = c.outcome := by
  unfold process at h
  cases ht : tokenFault? x.account g with
  | some o' =>
    rw [ht] at h
    obtain rfl : o' = o := by simpa using congrArg Prod.snd h
    exact failsFirst_of_tokenFault? ht
  | none =>
    obtain ⟨more, hlog, hr⟩ := resolve_spec w x hp
    rw [ht] at h
    cases hres : resolve w x g with | mk log res =>
    rw [hres] at h hlog hr
    cases res with
    | error o' =>
      obtain ⟨rfl, h⟩ := Prod.mk.inj h
      obtain rfl : o' = o := by simpa using h
      exact failsFirst_of_resolve ht hres hy
    | ok res =>
      obtain ⟨e, isPicked⟩ := res
      dsimp only at h hlog hr
      split at h
      · rename_i hid
        obtain ⟨rfl, h⟩ := Prod.mk.inj h
        cases hr with
        | interrupted _ _ hs => simp [hlog, hs] at hy
        | named hn =>
          exact ⟨.identifier, ⟨.identifier hn hid, hn.passes ht⟩,
            by simpa [Check.outcome, eq_comm] using h⟩
      · split at h
        · rename_i hstop
          obtain ⟨rfl, -⟩ := Prod.mk.inj h
          simp [hstop] at hy
        · -- a grant that is taken over is no failure
          split at h
          · simp at h
          · obtain ⟨-, h⟩ := Prod.mk.inj h
            rw [← Verdict.done.inj h] at ho
            cases ho

end Authentication

end SignIn
