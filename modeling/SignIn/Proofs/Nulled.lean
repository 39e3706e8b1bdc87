import SignIn.Proofs.Authentication.Confirmation
import SignIn.Proofs.Authentication.Twin
import SignIn.Proofs.Exchange.NullSession

/-!
# Where servers send null

An exchange that gets `null` in the place of an empty text comes to the same as one that gets the
empty text.  This holds from round to round: grants that say the same are taken over alike, so both
exchanges ask the servers for the same things, offer the user the same menus, and leave the same
account.

Not so a look-up.  The session server may leave a text empty, but where it sends `null` instead, its
answer is not read, and the account loses its profile.

## Main definitions

* `Reply.Nulled` — a reply whose grant has `null` in the place of an empty text.
* `Server.Nulls` — servers that send `null` in the place of empty texts.
* `Likeness.equal` — two attempts differ in nothing but what replies say.

## Main results

* `Authentication.handle_null` — one reply.
* `Authentication.act_null` — all rounds of an exchange.
* `null_read` — what becomes of `null` wherever a server sends it.
* `Lookup.described_ne_null` — an answer that `null` keeps from being read.
-/

namespace SignIn

open SignIn.Authentication SignIn.Json SignIn.Text

/-! ### Grants that say the same -/

namespace Grant.Alike

variable {g g' : Grant}

theorem selected (h : g.Alike g') : Option.Rel ProfileEntry.Alike g.selected g'.selected := by
  rw [Grant.selected, Grant.selected]
  have hprofile := h.selectedProfile
  generalize g.selectedProfile = o at hprofile
  generalize g'.selectedProfile = o' at hprofile
  cases hprofile with
  | none => exact .none
  | some hv =>
    cases hv with
    | same => exact rel_refl .same _
    | entry hms =>
      cases hms with
      | nil => exact .none
      | cons hm hms => exact .some (.entry (.cons hm hms))

theorem entry (h : g.Alike g') :
    g'.selected.map ProfileEntry.ofValue? = g.selected.map ProfileEntry.ofValue? := by
  have hselected := h.selected
  generalize g.selected = o at hselected
  generalize g'.selected = o' at hselected
  cases hselected with
  | none => rfl
  | some hv => exact congrArg some hv.ofValue?_eq

theorem mapM_ofValue? {vs vs' : List Value} (h : List.Forall₂ ProfileEntry.Alike vs vs') :
    vs'.mapM ProfileEntry.ofValue? = vs.mapM ProfileEntry.ofValue? := by
  induction h with
  | nil => rfl
  | cons hv _ ih => rw [List.mapM_cons, List.mapM_cons, hv.ofValue?_eq, ih]

theorem candidates (h : g.Alike g') :
    Authentication.candidates g' = Authentication.candidates g := by
  rw [Authentication.candidates, Authentication.candidates]
  have hprofiles := h.availableProfiles
  generalize g.availableProfiles = o at hprofiles
  generalize g'.availableProfiles = o' at hprofiles
  cases hprofiles with
  | none => rfl
  | some hv =>
    cases hv with
    | same => rfl
    | list hvs =>
      dsimp only
      rw [mapM_ofValue? hvs]

end Grant.Alike

namespace Authentication

theorem resolve_congr {g g' : Grant} (h : g.Alike g') (w : World) (x : Standing) :
    resolve w x g' = resolve w x g := by
  rw [resolve, resolve]
  have hselected := h.selected
  generalize g.selected = o at hselected
  generalize g'.selected = o' at hselected
  cases hselected with
  | none =>
    dsimp only
    rw [h.candidates]
  | some hv =>
    dsimp only
    rw [hv.ofValue?_eq]

/-- Grants that say the same are taken over alike. -/
theorem process_congr {g g' : Grant} (h : g.Alike g') (w : World) (x : Standing) :
    process w x g' = process w x g := by
  have hfault : tokenFault? x.account g' = tokenFault? x.account g := by
    rw [tokenFault?, tokenFault?, h.clientToken, h.accessToken]
  have hcommit (log : Log) (p : ProfileEntry) :
      commit w x.account log g' p = commit w x.account log g p := by
    rw [commit, commit, h.clientToken, h.accessToken]
  rw [process, process, hfault, resolve_congr h]
  simp only [hcommit]

end Authentication

/-! ### Replies -/

/-- The second reply has `null` in the place of an empty text in the grant that the first one makes,
or they are the same. -/
inductive Reply.Nulled : Reply → Reply → Prop
  /-- They are the same. -/
  | same (p : Reply) : Nulled p p
  /-- The body of the second one has `null` in such a place. -/
  | null {p : Reply} {before after : Bytes} {g : Grant} (status : p.status = some 200)
    (text : HasEmptyText Grant.TextAt before after) (body : p.body = before ++ (emptyText ++ after))
    (grant : Grant.parse p.body = .ok g) : Nulled p { p with body := before ++ (nullText ++ after) }

/-- The same comes of sending a request, up to `null` in the place of an empty text. -/
inductive Turn.Nulled : Turn → Turn → Prop
  /-- Replies arrive. -/
  | reply {p p' : Reply} (h : p.Nulled p') : Nulled (.reply p) (.reply p')
  /-- Replies arrive, after the word to stop. -/
  | stopped {p p' : Reply} (h : p.Nulled p') : Nulled (.stopped p) (.stopped p')
  /-- No reply arrives. -/
  | silence : Nulled .silence .silence

/-- The second servers do what the first ones do, and may send `null` in the place of empty
texts. -/
def Server.Nulls (s s' : Server) : Prop := ∀ sent q, (s sent q).Nulled (s' sent q)

/-- A world with other servers. -/
def World.facing (w : World) (s : Server) : World := { w with server := s }

/-- Two attempts differ in nothing but what replies say. -/
def Likeness.equal : Likeness := ⟨Eq, Eq⟩

namespace Authentication

/-- **A reply with `null` in the place of an empty text leads to the same.** -/
theorem handle_null {p p' : Reply} (h : p.Nulled p') (auth : Authentication) (w : World)
    (isFirst : Bool) (x : Standing) : auth.handle w isFirst x p' = auth.handle w isFirst x p := by
  cases h with
  | same => rfl
  | @null before after g status text body grant =>
    rw [body] at grant
    obtain ⟨g', hg, hparse⟩ := Grant.parse_null text grant
    rw [← body] at grant
    have hfailed (o : Bool) :
        failed? o { p with body := before ++ (nullText ++ after) } = failed? o p := rfl
    rw [handle, handle, granted, granted, hfailed]
    cases failed? (isFirst && auth.detectsOffline) p with
    | some o => rfl
    | none =>
      dsimp only
      rw [if_pos status, if_pos status, grant, hparse, mapError_ok, mapError_ok]
      exact process_congr hg w x

end Authentication

/-! ### Exchanges -/

section

variable {w : World} {s : Server}

/-- Two attempts at the same place send the same request and get replies that lead to the same. -/
theorem Log.Alike.send_null {log log' : Log} (h : log.Alike .equal log') (hs : w.server.Nulls s)
    (name : String) (a : Account) (q : Request) : ∃ more more' p p',
      w.send name a log q = (more, .ok p) ∧ (w.facing s).send name a log' q = (more', .ok p') ∧
        more.Alike .equal more' ∧ p.Nulled p' := by
  obtain ⟨hrequests, -, hmenus, hstopped⟩ := h
  obtain hrequests : log.requests = log'.requests := hrequests
  have hmore (more more' : Log) (hr : more'.requests = more.requests)
      (hm : more'.menus = more.menus) (hi : more'.isStopped = more.isStopped) :
      (log ++ more).Alike .equal (log' ++ more') :=
    ⟨by simp [Likeness.equal, hrequests, hr], by simp [hrequests, hr], by simp [hmenus, hm],
      by simp [hstopped, hi]⟩
  cases hlog : log.isStopped with
  | true =>
    rw [World.send_of_isStopped hlog, World.send_of_isStopped (hstopped.trans hlog)]
    exact ⟨_, _, _, _, rfl, rfl, hmore _ _ rfl rfl rfl, .same _⟩
  | false =>
    have hturn : (w.server log.requests q).Nulled ((w.facing s).server log'.requests q) :=
      hrequests ▸ hs log.requests q
    rw [World.send_of_not_isStopped hlog, World.send_of_not_isStopped (hstopped.trans hlog)]
    generalize w.server log.requests q = turn at hturn
    generalize (w.facing s).server log'.requests q = turn' at hturn
    cases hturn with
    | reply hp => exact ⟨_, _, _, _, rfl, rfl, hmore _ _ rfl rfl rfl, hp⟩
    | stopped hp => exact ⟨_, _, _, _, rfl, rfl, hmore _ _ rfl rfl rfl, hp⟩
    | silence => exact ⟨_, _, _, _, rfl, rfl, hmore _ _ rfl rfl rfl, .same _⟩

namespace Authentication

variable {x x' : Standing}

/-- What comes of a grant has nothing to do with what replies said before. -/
theorem process_equal (h : x.Alike .equal x') (g : Grant) :
    (process w x g).1.Alike .equal (process w x' g).1 ∧
      (process w x' g).2 = (process w x g).2 := by
  obtain ⟨haccount, hlog, hpicked⟩ := h
  obtain haccount : x.account = x'.account := haccount
  have hres := resolve_alike (w := w) w.clock w.random ⟨haccount, hlog, hpicked⟩ g
  change (resolve w x g).1.Alike .equal (resolve w x' g).1 ∧
    (resolve w x' g).2 = (resolve w x g).2 at hres
  rw [process, process, ← haccount]
  cases tokenFault? x.account g with
  | some o => exact ⟨⟨haccount, hlog, hpicked⟩, rfl⟩
  | none =>
    dsimp only
    generalize resolve w x g = r at hres
    generalize resolve w x' g = r' at hres
    obtain ⟨log, res⟩ := r
    obtain ⟨log', res'⟩ := r'
    obtain ⟨hlog', rfl : res' = res⟩ := hres
    dsimp only at hlog' ⊢
    rcases res' with o | ⟨e, isPicked⟩
    · exact ⟨⟨rfl, hlog', hpicked⟩, rfl⟩
    · have hrequests : log.requests = log'.requests := hlog'.requests
      dsimp only
      rw [hlog'.isStopped, commit, commit, ← hrequests]
      split
      · exact ⟨⟨rfl, hlog', hpicked⟩, rfl⟩
      · split
        · exact ⟨⟨rfl, hlog', hpicked⟩, rfl⟩
        · split
          · exact ⟨⟨rfl, hlog', rfl⟩, rfl⟩
          · exact ⟨⟨rfl, hlog', hpicked⟩, rfl⟩

theorem handle_equal (h : x.Alike .equal x') {p p' : Reply} (hp : p.Nulled p')
    (auth : Authentication) (isFirst : Bool) :
    (auth.handle w isFirst x p).1.Alike .equal (auth.handle (w.facing s) isFirst x' p').1 ∧
      (auth.handle (w.facing s) isFirst x' p').2 = (auth.handle w isFirst x p).2 := by
  have hfacing : auth.handle (w.facing s) isFirst x' p' = auth.handle w isFirst x' p' := rfl
  rw [hfacing, handle_null hp, handle, handle]
  cases granted (isFirst && auth.detectsOffline) p with
  | error o => exact ⟨h, rfl⟩
  | ok g => exact process_equal h g

/-- A round comes to the same. -/
theorem round_null (hs : w.server.Nulls s) (h : x.Alike .equal x') (auth : Authentication)
    (k : Kind) (isFirst : Bool) :
    (auth.round w k isFirst x).1.Alike .equal (auth.round (w.facing s) k isFirst x').1 ∧
      (auth.round (w.facing s) k isFirst x').2 = (auth.round w k isFirst x).2 := by
  obtain ⟨haccount, hlog, hpicked⟩ := h
  obtain haccount : x.account = x'.account := haccount
  cases hq : auth.request w.settings (accountFor w x.account k) k with
  | error e =>
    have hq' : auth.request (w.facing s).settings (accountFor (w.facing s) x'.account k) k =
        .error e := haccount ▸ hq
    rw [round_of_request_error hq, round_of_request_error hq', ← haccount]
    exact ⟨⟨rfl, hlog, hpicked⟩, rfl⟩
  | ok q =>
    have hq' : auth.request (w.facing s).settings (accountFor (w.facing s) x'.account k) k =
        .ok q := haccount ▸ hq
    obtain ⟨more, more', p, p', hsend, hsend', hmore, hp⟩ := hlog.send_null hs
      ("YggdrasilStep::" ++ k.endpoint) (accountFor w x.account k) q
    have haccount' : accountFor (w.facing s) x'.account k = accountFor w x.account k :=
      haccount ▸ rfl
    rw [round_of_request_ok hq, round_of_request_ok hq', haccount']
    dsimp only
    rw [hsend, hsend']
    dsimp only
    rw [hmore.isStopped]
    have hy : Standing.Alike .equal ⟨accountFor w x.account k, more, x.hasPicked⟩
        ⟨accountFor w x.account k, more', x'.hasPicked⟩ := ⟨rfl, hmore, hpicked⟩
    split
    · exact ⟨hy, rfl⟩
    · exact handle_equal hy hp auth isFirst

/-- All rounds from one on come to the same. -/
theorem exchange_null (hs : w.server.Nulls s) (auth : Authentication) (k : Kind) (isFirst : Bool)
    (x x' : Standing) (h : x.Alike .equal x') :
    (auth.exchange w k isFirst x).Alike .equal (auth.exchange (w.facing s) k isFirst x') := by
  induction k, isFirst, x using exchange.induct auth w generalizing x' with
  | case1 k isFirst x y o hr =>
    have hround := round_null hs h auth k isFirst
    cases hr' : auth.round (w.facing s) k isFirst x' with | mk y' v =>
    rw [hr, hr'] at hround
    obtain ⟨hy, rfl : v = .done o⟩ := hround
    rw [exchange_of_done hr, exchange_of_done hr']
    exact ⟨rfl, hy.account, hy.log⟩
  | case2 k isFirst x y hr ih =>
    have hround := round_null hs h auth k isFirst
    cases hr' : auth.round (w.facing s) k isFirst x' with | mk y' v =>
    rw [hr, hr'] at hround
    obtain ⟨hy, rfl : v = .again⟩ := hround
    rw [exchange_of_again hr, exchange_of_again hr']
    exact ih y' hy

/-- **Null reads as the empty text in an exchange**: where servers send it in the place of empty
texts, the outcome is the same, and so is the account, and the servers and the user are asked
for the same things. -/
theorem act_null (auth : Authentication) (hs : w.server.Nulls s) (a : Account) (log : Log) :
    (auth.act w a log).Alike .equal (auth.act (w.facing s) a log) :=
  exchange_null hs auth auth.firstKind true _ _ ⟨rfl, ⟨rfl, rfl, rfl, rfl⟩, rfl⟩

end Authentication

end

/-! ### What becomes of null -/

/-- **Null reads as the empty text in a grant, and as nothing in what the session server says.**
With `null` in the place of an empty text, a grant has the same tokens, it selects the same profile
and lists the same ones, and an exchange comes to the same.  A look-up fails, and the account loses
its profile; so it comes to the same only where the answer with the empty text gives no profile
either. -/
theorem null_read (auth : Authentication) (w : World) (s : Server) (a : Account) (log : Log) :
    (∀ before after g, HasEmptyText Grant.TextAt before after →
      Grant.parse (before ++ (emptyText ++ after)) = .ok g →
        ∃ g', Grant.parse (before ++ (nullText ++ after)) = .ok g' ∧
          g'.clientToken = g.clientToken ∧ g'.accessToken = g.accessToken ∧
          g'.selected.map ProfileEntry.ofValue? = g.selected.map ProfileEntry.ofValue? ∧
          Authentication.candidates g' = Authentication.candidates g) ∧
    (w.server.Nulls s → (auth.act w a log).Alike .equal (auth.act (w.facing s) a log)) ∧
    ∀ q p body', a.profile.isEmpty = false → Lookup.request w.settings a = .ok q →
      log.isStopped = false → w.server log.requests q = .reply p → p.failure = none →
        Lookup.NullsBody p.body body' → s log.requests q = .reply { p with body := body' } →
          (Lookup.act (w.facing s) a log).outcome =
              .soft "Minecraft Java profile response could not be parsed" ∧
            (Lookup.act (w.facing s) a log).account = { a with profile := .none } ∧
            ((Lookup.act w a log).Alike .equal (Lookup.act (w.facing s) a log) ↔
              Profile.ofSession? p.body = none) := by
  refine ⟨fun before after g htext hg => ?_, fun hs => auth.act_null hs a log,
    fun q p body' hprofile hrequest hlog hreply hfailure hbody hreply' => ?_⟩
  · obtain ⟨g', halike, hg'⟩ := Grant.parse_null htext hg
    exact ⟨g', hg', halike.clientToken, halike.accessToken, halike.entry, halike.candidates⟩
  have hact := Lookup.act_of_reply hprofile hrequest hlog hreply
  have hact' := Lookup.act_of_reply (w := w.facing s) hprofile hrequest hlog hreply'
  have hfailure' : { p with body := body' }.failure = none := hfailure
  rw [Lookup.judge_of_none hfailure' (Lookup.ofSession?_null hbody)] at hact'
  rw [hact']
  refine ⟨rfl, rfl, fun halike => ?_, fun hnone => ?_⟩
  · -- an answer that gives a profile succeeds
    cases hfound : Profile.ofSession? p.body with
    | none => rfl
    | some found =>
      have houtcome := halike.outcome
      rw [hact, Lookup.judge_of_some hfailure hfound] at houtcome
      cases houtcome
  · rw [hact, Lookup.judge_of_none hfailure hnone]
    exact ⟨rfl, rfl, by simp [Likeness.equal], by simp, by simp, by simp⟩

/-! ### Two answers with an empty text -/

/-- What stands before the name of the profile in a grant. -/
def granting : Bytes := Utf8.encode "\x7b\"selectedProfile\":\x7b\"name\":"

/-- What stands behind it. -/
def ending : Bytes := Utf8.encode ",\"id\":\"1\"\x7d,\"clientToken\":\"t\",\"accessToken\":\"a\"\x7d"

theorem hasEmptyText_granting : HasEmptyText Grant.TextAt granting ending := by
  have hselected : nextName true ((granting ++ (emptyText ++ ending)).drop 1) = _ :=
    nextName_first isGap_nil [] ("selectedProfile", []) ((granting ++ (emptyText ++ ending)).drop 19)
  have hname : nextName true ((granting ++ (emptyText ++ ending)).drop 20) = _ :=
    nextName_first isGap_nil [] ("name", []) (emptyText ++ ending)
  exact ⟨emptyText ++ ending, .selected (.member rfl (.here hselected rfl) rfl rfl) rfl
    ⟨"name", [], .inr rfl, _, rfl, .here hname rfl⟩, rfl⟩

theorem parse_granting : ∃ g, Grant.parse (granting ++ (emptyText ++ ending)) = .ok g ∧
    g.clientToken = "t" ∧ g.accessToken ≠ "" ∧
    ∃ v, g.selected = some v ∧ ProfileEntry.ofValue? v = some ⟨"1", ""⟩ := by
  have h : ((Grant.parse (granting ++ (emptyText ++ ending))).toOption.any fun g =>
      g.clientToken = "t" ∧ g.accessToken ≠ "" ∧
        g.selected.bind ProfileEntry.ofValue? = some ⟨"1", ""⟩) = true := by
    decide +kernel
  obtain ⟨g, hp, hg⟩ := any_toOption_iff.1 h
  obtain ⟨ht, ha, hv⟩ := of_decide_eq_true hg
  exact ⟨g, hp, ht, ha, Option.bind_eq_some_iff.1 hv⟩

/-- What stands before a text of a property, in an answer of the session server. -/
def describing : Bytes := Utf8.encode "\x7b\"properties\":[\x7b\"value\":"

/-- What stands behind it. -/
def closing : Bytes := Utf8.encode ",\"name\":\"x\"\x7d],\"id\":\"1\",\"name\":\"A\"\x7d"

theorem hasEmptyText_describing : HasEmptyText SessionProfile.TextAt describing closing := by
  have hproperties : nextName true ((describing ++ (emptyText ++ closing)).drop 1) = _ :=
    nextName_first isGap_nil [] ("properties", []) ((describing ++ (emptyText ++ closing)).drop 14)
  have hvalue : nextName true ((describing ++ (emptyText ++ closing)).drop 16) = _ :=
    nextName_first isGap_nil [] ("value", []) (emptyText ++ closing)
  exact ⟨emptyText ++ closing, .property (.member rfl (.here hproperties rfl) rfl rfl) rfl
    ⟨_, rfl, .here rfl⟩ (.member rfl (.here hvalue rfl) rfl rfl), rfl⟩

/-- Servers that send the first text in a grant, and the second one in the description of a
profile. -/
def answering (name value : Bytes) : Server := fun _ q =>
  .reply (.ofResponse q.url 200 [] (if q.kind = .upload then granting ++ (name ++ ending)
    else describing ++ (value ++ closing)))

theorem nulls_answering : (answering emptyText emptyText).Nulls (answering nullText emptyText) := by
  intro sent q
  obtain ⟨g, hg, -⟩ := parse_granting
  unfold answering
  split
  · exact .reply (.null rfl hasEmptyText_granting rfl hg)
  · exact .reply (.same _)

/-- Servers that send empty texts. -/
def answeringWorld : World := World.silent.facing (answering emptyText emptyText)

/-- An account with a profile. -/
def profiledAccount : Account := { Account.mojang "steve" with profile := .plain "1" "A" }

/-- A renewal does well where the name of the profile is empty. -/
theorem act_answering : (renewal.act answeringWorld profiledAccount []).outcome =
    .working "Logged in as ." := by
  obtain ⟨g, hg, ht, ha, v, hs, hv⟩ := parse_granting
  obtain ⟨q, hq⟩ : ∃ q, renewal.request answeringWorld.settings profiledAccount
      .renewal = .ok q := ⟨_, rfl⟩
  have hkind : q.kind = .upload := by
    obtain ⟨url, -, rfl⟩ := request_eq_ok_iff.1 hq
    rfl
  have hreply : answeringWorld.server [] q =
      .reply (.ofResponse q.url 200 [] (granting ++ (emptyText ++ ending))) := by
    change answering emptyText emptyText [] q = _
    rw [answering, if_pos hkind]
  have h : Receives renewal answeringWorld .renewal ⟨profiledAccount, [], false⟩
      [.sent q] q (.ofResponse q.url 200 [] (granting ++ (emptyText ++ ending))) profiledAccount :=
    .now ⟨rfl, hq, hreply⟩
  have hacc : Accepted answeringWorld (.upon ⟨profiledAccount, [], false⟩ [.sent q] q
      (.ofResponse q.url 200 [] (granting ++ (emptyText ++ ending))) profiledAccount)
      (.ofResponse q.url 200 [] (granting ++ (emptyText ++ ending))) g ⟨"1", ""⟩ false :=
    accepted_of_parse nofun hg ht ha (.selected hs hv) (by decide)
  exact congrArg Result.outcome (h.act_of_selected hacc)

/-- With `null` for the name of the profile, a grant selects the same one and the renewal comes to
the same.  With `null` for a text of a property, the account loses its profile. -/
theorem null_read_granting :
    let granted := renewal.act answeringWorld profiledAccount []
    let granted' := renewal.act (answeringWorld.facing (answering nullText emptyText))
      profiledAccount []
    let found := Lookup.act answeringWorld profiledAccount []
    let found' := Lookup.act (answeringWorld.facing (answering emptyText nullText))
      profiledAccount []
    (∃ g g', Grant.parse (granting ++ (emptyText ++ ending)) = .ok g ∧
      Grant.parse (granting ++ (nullText ++ ending)) = .ok g' ∧
      g'.selected.map ProfileEntry.ofValue? = g.selected.map ProfileEntry.ofValue?) ∧
    (granted.outcome = .working "Logged in as ." ∧ granted.Alike .equal granted') ∧
    found'.account = { profiledAccount with profile := .none } ∧ ¬ found.Alike .equal found' := by
  obtain ⟨hgrant, hexchange, -⟩ := null_read .renewal answeringWorld
    (answering nullText emptyText) profiledAccount []
  obtain ⟨-, -, hlookup⟩ := null_read .renewal answeringWorld (answering emptyText nullText)
    profiledAccount []
  obtain ⟨g, hg, -⟩ := parse_granting
  obtain ⟨g', hg', -, -, hselected, -⟩ := hgrant granting ending g hasEmptyText_granting hg
  obtain ⟨q, hq⟩ : ∃ q, Lookup.request answeringWorld.settings profiledAccount = .ok q := ⟨_, rfl⟩
  have hkind : q.kind ≠ .upload := by
    rw [Lookup.kind_of_request hq]
    exact nofun
  have hreply (name value : Bytes) : answering name value [] q =
      .reply (.ofResponse q.url 200 [] (describing ++ (value ++ closing))) := by
    rw [answering, if_neg hkind]
  obtain ⟨-, haccount, halike⟩ := hlookup q
    (.ofResponse q.url 200 [] (describing ++ (emptyText ++ closing))) _ rfl hq rfl (hreply _ _) rfl
    (.profile hasEmptyText_describing) (hreply _ _)
  refine ⟨⟨g, g', hg, hg', hselected⟩, ⟨act_answering, hexchange nulls_answering⟩, haccount, ?_⟩
  rw [halike]
  intro hnone
  have hfound : (Profile.ofSession? (describing ++ (emptyText ++ closing))).isSome = true := by
    decide +kernel
  have hno : Profile.ofSession? (describing ++ (emptyText ++ closing)) = none := hnone
  rw [hno] at hfound
  cases hfound

/-- **An answer that null keeps from being read**: with the empty text, it describes a profile. -/
theorem Lookup.described_ne_null :
    HasEmptyText SessionProfile.TextAt describing closing ∧
      described (describing ++ (emptyText ++ closing)) =
        (.working "Minecraft Java profile acquisition succeeded.", Profile.plain "1" "A") ∧
      described (describing ++ (nullText ++ closing)) =
        (.soft "Minecraft Java profile response could not be parsed", .none) := by
  exact ⟨hasEmptyText_describing, by decide +kernel, by decide +kernel⟩

end SignIn
