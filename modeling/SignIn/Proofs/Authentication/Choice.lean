import SignIn.CommandLine
import SignIn.Proofs.Authentication.Confirmation
import SignIn.Proofs.Menu

/-!
# Choosing by a number

On a terminal the user types the number of an option, and the menu gives back its text.  So what
an authentication step hears is the name of a profile: it takes the first profile of this name, and
an empty name is the same to it as no answer.  The number of an entry picks that entry if its name
is not empty and no entry before it has the same name.

## Main definitions

* `LeavesChoice` — a first reply that leaves the choice among several profiles to the user.
* `TakesOver` — an exchange that takes over a profile and asks to confirm it.

## Main results

* `LeavesChoice.handle_eq` — what comes of the pick in the round of the first reply.
* `LeavesChoice.takesOver` — the profile that the user names is taken over.
* `perform_numbered` — what comes of typing a number.
* `number_misses` — the number of an entry need not pick that entry.
-/

namespace SignIn

open SignIn.Authentication SignIn.Json SignIn.Text

namespace Authentication

/-! ### A reply that leaves a choice -/

/-- The first request of an exchange is answered by a reply whose tokens are in order, and which
lists several profiles, each with an identifier, and selects none. -/
structure LeavesChoice (auth : Authentication) (w : World) (a : Account) (log : Log) (q : Request)
    (p : Reply) (g : Grant) (ps : List ProfileEntry) : Prop where
  /-- The attempt was not told to stop. -/
  going : log.isStopped = false
  /-- The request is made. -/
  request : auth.request w.settings (accountFor w a auth.firstKind) auth.firstKind = .ok q
  /-- The server replies. -/
  replies : w.server log.requests q = .reply p
  /-- It answers that the request is fine. -/
  status : p.status = some 200
  /-- It does not say that the account is gone. -/
  not_gone : p.failureKind? ≠ some .gone
  /-- The body can be read. -/
  parse : Grant.parse p.body = .ok g
  /-- There is a token of the installation. -/
  clientToken_ne_empty : g.clientToken ≠ ""
  /-- It is the pinned one, if one is pinned. -/
  pinned : ∀ t, (accountFor w a auth.firstKind).clientToken = some t → g.clientToken = t
  /-- There is a token that proves the log-in. -/
  accessToken_ne_empty : g.accessToken ≠ ""
  /-- No profile is selected. -/
  unselected : g.selected = none
  /-- Profiles are listed. -/
  lists : g.Lists ps
  /-- There are several of them. -/
  several : 2 ≤ ps.length
  /-- Each has an identifier. -/
  id_ne_empty : ∀ e ∈ ps, e.id ≠ ""

/-- Where the reply leaves an exchange. -/
def answered (auth : Authentication) (w : World) (a : Account) (log : Log) (q : Request)
    (p : Reply) : Standing :=
  ⟨accountFor w a auth.firstKind,
    log ++ [.sent q, .answered q p (accountFor w a auth.firstKind)], false⟩

/-- What has happened when the user is asked. -/
def asked (auth : Authentication) (w : World) (a : Account) (log : Log) (q : Request) (p : Reply)
    (ps : List ProfileEntry) : Log :=
  log ++ [.sent q, .answered q p (accountFor w a auth.firstKind), .offered (menu ps)]

/-- The account once a profile is picked. -/
def withPick (auth : Authentication) (w : World) (a : Account) (log : Log) (q : Request) (g : Grant)
    (e : ProfileEntry) : Account :=
  (accountFor w a auth.firstKind).granted g e (w.clock (log.requests ++ [q]))

@[simp] theorem isStopped_asked (auth : Authentication) (w : World) (a : Account) (log : Log)
    (q : Request) (p : Reply) (ps : List ProfileEntry) :
    (asked auth w a log q p ps).isStopped = log.isStopped := by simp [asked]

@[simp] theorem requests_asked (auth : Authentication) (w : World) (a : Account) (log : Log)
    (q : Request) (p : Reply) (ps : List ProfileEntry) :
    (asked auth w a log q p ps).requests = log.requests ++ [q] := by simp [asked]

namespace LeavesChoice

variable {auth : Authentication} {w : World} {a : Account} {log : Log} {q : Request} {p : Reply}
  {g : Grant} {ps : List ProfileEntry}

/-- Where the reply arrives, the round deals with it. -/
theorem round_eq (h : LeavesChoice auth w a log q p g ps) :
    auth.round w auth.firstKind true ⟨a, log, false⟩ =
      auth.handle w true (answered auth w a log q p) p := by
  have hgets : Gets auth w auth.firstKind ⟨a, log, false⟩ q p := ⟨h.going, h.request, h.replies⟩
  have hx : Standing.upon ⟨a, log, false⟩ [.sent q] q p (accountFor w a auth.firstKind) =
      answered auth w a log q p := rfl
  rw [hgets.round_eq, hx]

/-- The user is asked about several profiles. -/
theorem pick_eq (h : LeavesChoice auth w a log q p g ps) {name : Option String}
    (hpick : w.picker log.menus (menu ps) = .chosen name) :
    pick w (accountFor w a auth.firstKind) (answered auth w a log q p).log ps =
      (asked auth w a log q p ps, named ps name) := by
  have hmenus : (answered auth w a log q p).log.menus = log.menus := by simp [answered]
  have hoffer : w.offer (accountFor w a auth.firstKind) (answered auth w a log q p).log (menu ps) =
      (asked auth w a log q p ps, name) := by
    rw [World.offer, hmenus, hpick]
    simp [answered, asked]
  have hseveral := h.several
  rcases ps with _ | ⟨e, _ | ⟨e', ps⟩⟩
  · cases hseveral
  · exact absurd hseveral (Nat.lt_irrefl 1)
  · simp only [pick, hoffer]

/-- What is picked is looked up by its name. -/
theorem resolve_eq (h : LeavesChoice auth w a log q p g ps) {name : Option String}
    (hpick : w.picker log.menus (menu ps) = .chosen name) :
    resolve w (answered auth w a log q p) g =
      (asked auth w a log q p ps, (named ps name).map fun e => (e, true)) := by
  unfold resolve
  rw [h.unselected]
  dsimp only
  rw [if_neg (by simp [answered]), candidates_eq_ok_iff.2 h.lists]
  dsimp only
  rw [show (answered auth w a log q p).account = accountFor w a auth.firstKind from rfl,
    h.pick_eq hpick]

/-- **What comes of the pick**: the profile of this name is taken over, or the exchange is
cancelled. -/
theorem handle_eq (h : LeavesChoice auth w a log q p g ps) {name : Option String}
    (hpick : w.picker log.menus (menu ps) = .chosen name) :
    auth.handle w true (answered auth w a log q p) p =
      match named ps name with
      | .ok e =>
        (⟨withPick auth w a log q g e, asked auth w a log q p ps, true⟩, .again)
      | .error o =>
        (⟨accountFor w a auth.firstKind, asked auth w a log q p ps, false⟩, .done o) := by
  have htokens : tokenFault? (accountFor w a auth.firstKind) g = none :=
    tokenFault?_eq_none_iff.2 ⟨h.clientToken_ne_empty, h.pinned, h.accessToken_ne_empty⟩
  rw [handle, granted_eq_ok_iff.2 ⟨h.status, h.not_gone, h.parse⟩]
  dsimp only
  rw [process, show (answered auth w a log q p).account = accountFor w a auth.firstKind from rfl,
    htokens, h.resolve_eq hpick]
  cases hnamed : named ps name with
  | error o => rfl
  | ok e =>
    obtain ⟨n, -, -, hfound⟩ := named_eq_ok_iff.1 hnamed
    have hid : e.id ≠ "" := h.id_ne_empty e (List.mem_of_find?_eq_some hfound)
    have hgoing : ¬ (asked auth w a log q p ps).isStopped = true := by simp [h.going]
    simp only [Except.map, if_neg hid, if_neg hgoing, if_true, commit_eq_granted, requests_asked,
      withPick]

/-- The reply is accepted for the profile that is picked. -/
theorem accepted (h : LeavesChoice auth w a log q p g ps) {name : String} {e : ProfileEntry}
    (hpick : w.picker log.menus (menu ps) = .chosen (some name)) (hne : name ≠ "")
    (hfound : ps.find? (·.name == name) = some e) :
    Accepted w (answered auth w a log q p) p g e true where
  status := h.status
  not_gone := h.not_gone
  parse := h.parse
  clientToken_ne_empty := h.clientToken_ne_empty
  pinned := h.pinned
  accessToken_ne_empty := h.accessToken_ne_empty
  names := by
    have hmenus : (answered auth w a log q p).log.menus = log.menus := by simp [answered]
    refine .picked h.unselected rfl (.chosen h.lists h.several ?_ hne hfound)
    rw [hmenus, hpick]
  id_ne_empty := h.id_ne_empty e (List.mem_of_find?_eq_some hfound)

end LeavesChoice

/-! ### After the pick -/

/-- An account that has a profile, and a request that asks to confirm exactly this one. -/
structure Confirms (w : World) (a a₂ : Account) (g : Grant) (e : ProfileEntry) (q : Request) :
    Prop where
  /-- The account has the identifier of the profile -/
  id : a₂.profile.id = e.id
  /-- and its name. -/
  name : a₂.profile.name = e.name
  /-- The request renews the token that was granted, for this profile. -/
  posts : Posts w.settings a "refresh" (confirmation g.clientToken g.accessToken e) q

/-- The profile is taken over: the account has it while one more request is sent, which asks to
confirm exactly this profile. -/
def TakesOver (w : World) (a : Account) (g : Grant) (e : ProfileEntry) (before after : Log) :
    Prop :=
  ∃ a₂ q p, Confirms w a a₂ g e q ∧
    (after = before ++ [.sent q, .answered q p a₂] ∨
      after = before ++ [.sent q, .stopped a₂, .answered q p a₂])

/-- Something happens. -/
theorem TakesOver.ne {w : World} {a : Account} {g : Grant} {e : ProfileEntry} {before after : Log}
    (h : TakesOver w a g e before after) : after ≠ before := by
  obtain ⟨a₂, q, p, -, rfl | rfl⟩ := h <;> simp

/-- What happens shows which profile is taken over. -/
theorem TakesOver.id_eq {w : World} {a : Account} {g : Grant} {e e' : ProfileEntry}
    {before after : Log} (h : TakesOver w a g e before after)
    (h' : TakesOver w a g e' before after) : e.id = e'.id := by
  obtain ⟨a₂, q, p, hconfirms, hafter⟩ := h
  obtain ⟨a₂', q', p', hconfirms', hafter'⟩ := h'
  -- the last event has the account
  have hlast : after.getLast? = some (.answered q p a₂) := by
    obtain rfl | rfl := hafter <;> simp
  have hlast' : after.getLast? = some (.answered q' p' a₂') := by
    obtain rfl | rfl := hafter' <;> simp
  obtain ⟨-, -, rfl⟩ := Log.Event.answered.inj (Option.some.inj (hlast.symm.trans hlast'))
  exact hconfirms.id.symm.trans hconfirms'.id

namespace LeavesChoice

variable {auth : Authentication} {w : World} {a : Account} {log : Log} {q : Request} {p : Reply}
  {g : Grant} {ps : List ProfileEntry}

/-- A pick that names no profile ends the exchange. -/
theorem act_of_error (h : LeavesChoice auth w a log q p g ps) {name : Option String}
    (hpick : w.picker log.menus (menu ps) = .chosen name) {o : Outcome}
    (ho : named ps name = .error o) :
    auth.act w a log = ⟨o, accountFor w a auth.firstKind, asked auth w a log q p ps⟩ := by
  have hround := h.round_eq
  rw [h.handle_eq hpick, ho] at hround
  exact exchange_of_done hround

/-- **A pick that names a profile** is taken over, and another request asks to confirm it. -/
theorem takesOver (h : LeavesChoice auth w a log q p g ps) {name : String} {e : ProfileEntry}
    (hpick : w.picker log.menus (menu ps) = .chosen (some name)) (hne : name ≠ "")
    (hfound : ps.find? (·.name == name) = some e) :
    TakesOver w a g e (asked auth w a log q p ps) (auth.act w a log).log := by
  have hacc := h.accepted hpick hne hfound
  have hround := h.round_eq
  rw [h.handle_eq hpick, named_eq_ok_iff.2 ⟨name, rfl, hne, hfound⟩] at hround
  have hact := exchange_of_again hround
  have hservice : (withPick auth w a log q g e).service = a.service :=
    service_accountFor w a auth.firstKind
  obtain ⟨q', hq'⟩ := exists_renewal (b := withPick auth w a log q g e) h.request rfl
  obtain ⟨z, v, hz, hend⟩ := exchange_spec auth w .renewal false
    ⟨withPick auth w a log q g e, asked auth w a log q p ps, true⟩
  obtain ⟨p', hlog⟩ := hz.log_of_hasPicked rfl (by simp [h.going]) hq'
  have hresult : (auth.act w a log).log = z.log := by
    obtain ⟨o, -, hr⟩ | ⟨rfl, -⟩ := hend
    · exact congrArg Result.log (hact.trans hr)
    · -- a third round would need a second pick
      cases hz.hasPicked_of_again.1
  have hposts : Posts w.settings a "refresh" (confirmation g.clientToken g.accessToken e) q' := by
    obtain ⟨url, hurl, hq'⟩ := request_eq_ok_iff.1 hq'
    refine ⟨url, ?_, ?_⟩
    · rw [← hurl, authServerUrl_eq hservice]
      rfl
    · rw [hq']
      exact congrArg (fun body => (Request.upload url body).withJsonHeaders)
        (body_granted auth hacc _)
  have hprofile := (accountFor w a auth.firstKind).profile_granted g e
    (w.clock (log.requests ++ [q]))
  refine ⟨withPick auth w a log q g e, q', p', ⟨hprofile.1, hprofile.2, hposts⟩, ?_⟩
  rw [hresult]
  exact hlog

end LeavesChoice

/-- The first profile of a name that some profile has. -/
theorem exists_find?_name {ps : List ProfileEntry} {k : Nat} {e : ProfileEntry}
    (he : ps[k]? = some e) :
    ∃ e', ps.find? (·.name == e.name) = some e' ∧
      ((∀ j e'', j < k → ps[j]? = some e'' → e''.name ≠ e.name) → e' = e) := by
  induction ps generalizing k with
  | nil => cases he
  | cons e₀ ps ih =>
    by_cases hname : e₀.name = e.name
    · refine ⟨e₀, List.find?_cons_of_pos (by simpa using hname), ?_⟩
      intro hfirst
      cases k with
      | zero => exact Option.some.inj he
      | succ k => exact absurd hname (hfirst 0 e₀ (Nat.succ_pos k) rfl)
    · cases k with
      | zero => exact absurd (congrArg ProfileEntry.name (Option.some.inj he)) hname
      | succ k =>
        obtain ⟨e', hfound, hfirst⟩ := ih he
        refine ⟨e', ?_, ?_⟩
        · rw [List.find?_cons_of_neg (by simpa using hname), hfound]
        · -- the entries before it are one place further on
          intro h
          apply hfirst
          intro j e'' hj hget
          exact h (j + 1) e'' (Nat.succ_lt_succ hj) hget

/-- **What comes of typing a number** at the menu of a terminal.  The first profile that has the
name of the entry is taken over, which is the entry itself unless one before it has the same name,
and the request that follows asks to confirm exactly this profile.  An entry without a name is no
answer. -/
theorem perform_numbered {auth : Authentication} {w : World} {a : Account} {log : Log}
    {q : Request} {p : Reply} {g : Grant} {ps : List ProfileEntry}
    (h : LeavesChoice auth w a log q p g ps) {lines : List String}
    (hw : w.picker = CommandLine.typist lines) {line : String}
    (hline : lines[log.menus.length]? = some line) {k : Nat}
    (hk : Menu.number? (trim line) = some (k + 1)) {e : ProfileEntry} (he : ps[k]? = some e) :
    let r := ((Step.authentication auth).perform w a log).2
    (e.name ≠ "" → ∃ e', ps.find? (·.name == e.name) = some e' ∧
      ((∀ j e'', j < k → ps[j]? = some e'' → e''.name ≠ e.name) → e' = e) ∧
      TakesOver w a g e' (asked auth w a log q p ps) r.log) ∧
    (e.name = "" → r = ⟨.soft "Authentication cancelled.", accountFor w a auth.firstKind,
      asked auth w a log q p ps⟩) := by
  have hpick : w.picker log.menus (menu ps) = .chosen (some e.name) := by
    have hoption : (menu ps).options[k]? = some e.name := by
      rw [menu, List.getElem?_map, he, Option.map_some]
    rw [hw, CommandLine.typist, hline, Option.bind_some, Menu.picked?_of_number? hk, hoption]
  intro r
  constructor
  · intro hname
    obtain ⟨e', hfound, hfirst⟩ := exists_find?_name he
    exact ⟨e', hfound, hfirst, h.takesOver hpick hname hfound⟩
  · intro hname
    rw [hname] at hpick
    exact h.act_of_error hpick rfl

/-! ### Namesakes -/

/-- A world whose server answers everything alike, and whose user types one line. -/
def typing (body : Bytes) (line : String) : World :=
  { World.silent with
    server := fun _ q => .reply (.ofResponse q.url 200 [] body)
    picker := CommandLine.typist [line] }

/-- What a server answers that lists two profiles. -/
def listingTwo (name name' : String) : Bytes := Utf8.encode
  ("\x7b\"clientToken\":\"t\",\"accessToken\":\"a\",\"availableProfiles\":[" ++
    "\x7b\"id\":\"1\",\"name\":\"" ++ name ++ "\"\x7d,\x7b\"id\":\"2\",\"name\":\"" ++
    name' ++ "\"\x7d]\x7d")

/-- Such an answer leaves the choice to the user. -/
theorem leavesChoice_of_parse (body : Bytes) (ps : List ProfileEntry)
    (hbody : ((Grant.parse body).toOption.any fun g => g.clientToken = "t" ∧
      g.accessToken ≠ "" ∧ g.selected.isNone ∧ (candidates g).toOption = some ps) = true)
    (several : 2 ≤ ps.length) (hid : ∀ e ∈ ps, e.id ≠ "") (line : String) :
    ∃ q p g, LeavesChoice renewal (typing body line) pinnedAccount [] q p g ps := by
  obtain ⟨q, hq⟩ : ∃ q, renewal.request World.silent.settings pinnedAccount .renewal = .ok q :=
    ⟨_, rfl⟩
  obtain ⟨g, hp, hg⟩ := any_toOption_iff.1 hbody
  obtain ⟨ht, ha, hs, hc⟩ := of_decide_eq_true hg
  refine ⟨q, .ofResponse q.url 200 [] body, g, ?_⟩
  constructor
  case going => rfl
  case request => exact hq
  case replies => rfl
  case status => rfl
  case not_gone =>
    intro h
    cases h
  case parse => exact hp
  case clientToken_ne_empty => simp [ht]
  case pinned =>
    intro t h
    rw [ht]
    exact Option.some.inj h
  case accessToken_ne_empty => exact ha
  case unselected => exact Option.isNone_iff_eq_none.1 hs
  case lists => exact candidates_eq_ok_iff.1 (toOption_eq_some_iff.1 hc)
  case several => exact several
  case id_ne_empty => exact hid

/-- What the user types. -/
theorem number?_two : Menu.number? (trim " 2") = some 2 := by
  have hline : " 2" = String.ofList ([' '] ++ Nat.toDigits 10 2 ++ []) := by decide
  rw [hline]
  exact Menu.number?_surrounded (by decide) (List.forall_mem_singleton.2 (by decide))
    (List.forall_mem_nil _)

/-- A server that lists two profiles of different names. -/
def different : World := typing (listingTwo "A" "B") " 2"

/-- A server that lists two profiles of one name. -/
def namesakes : World := typing (listingTwo "A" "A") " 2"

/-- A server that lists a profile without a name. -/
def nameless : World := typing (listingTwo "A" "") " 2"

/-- The number of an entry picks it where the names differ. -/
theorem perform_numbered_second :
    let ps : List ProfileEntry := [⟨"1", "A"⟩, ⟨"2", "B"⟩]
    ∃ q p g, LeavesChoice renewal different pinnedAccount [] q p g ps ∧
      different.picker = CommandLine.typist [" 2"] ∧ Menu.number? (trim " 2") = some 2 ∧
      TakesOver different pinnedAccount g ⟨"2", "B"⟩
        (asked renewal different pinnedAccount [] q p ps)
        ((Step.authentication renewal).perform different pinnedAccount []).2.log := by
  obtain ⟨q, p, g, h⟩ := leavesChoice_of_parse (listingTwo "A" "B")
    [⟨"1", "A"⟩, ⟨"2", "B"⟩] (by decide +kernel) (by decide) (by decide) " 2"
  obtain ⟨hnamed, -⟩ := perform_numbered h rfl rfl number?_two rfl
  obtain ⟨e, -, hfirst, htakes⟩ := hnamed (by decide)
  have hother : ∀ j e'', j < 1 → [ProfileEntry.mk "1" "A", ⟨"2", "B"⟩][j]? = some e'' →
      e''.name ≠ "B" := by
    intro j e'' hj he
    obtain rfl : j = 0 := by omega
    obtain rfl : ⟨"1", "A"⟩ = e'' := Option.some.inj he
    decide
  obtain rfl : e = ⟨"2", "B"⟩ := hfirst hother
  exact ⟨q, p, g, h, rfl, number?_two, htakes⟩

/-- **The number of an entry need not pick it.**  Of two profiles of one name the first is taken
over, although the user types the number of the second, and the request that follows asks to confirm
the first.  A profile without a name is not taken over at all. -/
theorem number_misses :
    (∃ q p g, LeavesChoice renewal namesakes pinnedAccount [] q p g [⟨"1", "A"⟩, ⟨"2", "A"⟩] ∧
      namesakes.picker = CommandLine.typist [" 2"] ∧ Menu.number? (trim " 2") = some 2 ∧
      let asked := asked renewal namesakes pinnedAccount [] q p [⟨"1", "A"⟩, ⟨"2", "A"⟩]
      let r := ((Step.authentication renewal).perform namesakes pinnedAccount []).2
      TakesOver namesakes pinnedAccount g ⟨"1", "A"⟩ asked r.log ∧
        ¬ TakesOver namesakes pinnedAccount g ⟨"2", "A"⟩ asked r.log) ∧
    ∃ q p g, LeavesChoice renewal nameless pinnedAccount [] q p g [⟨"1", "A"⟩, ⟨"2", ""⟩] ∧
      nameless.picker = CommandLine.typist [" 2"] ∧ Menu.number? (trim " 2") = some 2 ∧
      let asked := asked renewal nameless pinnedAccount [] q p [⟨"1", "A"⟩, ⟨"2", ""⟩]
      let r := ((Step.authentication renewal).perform nameless pinnedAccount []).2
      r.outcome = .soft "Authentication cancelled." ∧
        ¬ TakesOver nameless pinnedAccount g ⟨"2", ""⟩ asked r.log := by
  constructor
  · obtain ⟨q, p, g, h⟩ := leavesChoice_of_parse (listingTwo "A" "A")
      [⟨"1", "A"⟩, ⟨"2", "A"⟩] (by decide +kernel) (by decide) (by decide) " 2"
    obtain ⟨hnamed, -⟩ := perform_numbered h rfl rfl number?_two rfl
    obtain ⟨e, hfound, -, htakes⟩ := hnamed (by decide)
    obtain rfl : ⟨"1", "A"⟩ = e := Option.some.inj hfound
    refine ⟨q, p, g, h, rfl, number?_two, htakes, ?_⟩
    intro hsecond
    exact absurd (htakes.id_eq hsecond) (by decide)
  · obtain ⟨q, p, g, h⟩ := leavesChoice_of_parse (listingTwo "A" "")
      [⟨"1", "A"⟩, ⟨"2", ""⟩] (by decide +kernel) (by decide) (by decide) " 2"
    obtain ⟨-, hunnamed⟩ := perform_numbered h rfl rfl number?_two rfl
    have hresult := hunnamed rfl
    refine ⟨q, p, g, h, rfl, number?_two, congrArg Result.outcome hresult, ?_⟩
    intro htakes
    exact htakes.ne (congrArg Result.log hresult)

end Authentication

end SignIn
