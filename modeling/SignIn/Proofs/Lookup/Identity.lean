import SignIn.Proofs.Exchange.SessionText
import SignIn.Proofs.Lookup.Classification
import SignIn.Proofs.Routine.Cancellation

/-!
# Who an account is after its profile was looked up

The profile is asked for by its identifier, and the account takes over the one that the reply
describes.  Nobody compares the two identifiers: the account is who it was before exactly if the
server describes the profile that it was asked for, and a server can make it anyone.

## Main definitions

* `Lookup.Finds` — looking a profile up gets a reply that describes one.
* `Lookup.answering` — a server with the same answer to everything.
* `Lookup.Identified` — who the account is then.

## Main results

* `Lookup.act_of_finds` — the profile that is described is the account's.
* `Lookup.Looks.exists_finds` — an account gets a profile in no other way.
* `Lookup.perform_identified` — who the account is after looking its profile up.
* `Lookup.perform_misidentified` — it may be another one than before.
-/

namespace SignIn

open SignIn.Text

/-- What a body describes has an identifier. -/
theorem Profile.IsDescribed.id_ne {body : Bytes} {d : Profile} (h : IsDescribed body d) :
    d.id ≠ "" := by
  cases h with
  | plain _ id => exact id
  | pictured _ id => exact id

namespace Lookup

/-- Looking a profile up gets a reply that describes one. -/
structure Finds (w : World) (a : Account) (log : Log) (d : Profile) : Prop where
  /-- Nothing tells the attempt to stop. -/
  going : log.isStopped = false
  /-- The server is asked for the profile, and its reply is a success that describes one. -/
  replied : ∃ url p, Url.parse (address w.settings a) = .ok url ∧
    w.server log.requests (Request.download url).withJsonHeaders = .reply p ∧
    p.failure = none ∧ Profile.IsDescribed p.body d

/-- A server that answers everything with the same body. -/
def answering (body : Bytes) : Server := fun _ q => .reply (.ofResponse q.url 200 [] body)

/-- Who the account is after its profile was looked up. -/
structure Identified (w : World) (a : Account) (log : Log) (r : Result) : Prop where
  /-- Nothing of the account but its profile changes. -/
  frame : r.account = { a with profile := r.account.profile }
  /-- The look-up did its part and left a profile exactly if the reply describes one. -/
  found : r.outcome.status = .working ∧ r.account.profile.id ≠ "" ↔ ∃ d, Finds w a log d
  /-- All of the profile is then as described, its identifier too. -/
  adopted : ∀ d, Finds w a log d → r.account.profile = d
  /-- So the account is who it was exactly if the profile that was asked for is described. -/
  same_iff : ∀ d, Finds w a log d → (r.account.profile.id = a.profile.id ↔ d.id = a.profile.id)
  /-- Where the look-up did not do its part, the account has the profile it had or none. -/
  failed : r.outcome.status ≠ .working →
    r.account.profile = a.profile ∨ r.account.profile = .none

/-! ### A reply that describes a profile -/

/-- **The profile that is described becomes the account's.** -/
theorem act_of_finds {w : World} {a : Account} {log : Log} {d : Profile} (h : Finds w a log d)
    (ha : a.profile.isEmpty = false) :
    (act w a log).outcome = .working "Minecraft Java profile acquisition succeeded." ∧
      (act w a log).account.profile = d := by
  obtain ⟨hx, url, p, hurl, hp, hsuccess, hd⟩ := h
  rw [act_of_reply ha (request_eq_ok hurl) hx hp]
  exact (judge_settles p a.profile).found hsuccess d hd

/-- A reply that leaves a profile to an account that goes on describes this profile. -/
theorem isDescribed_of_judge {p : Reply} {old : Profile}
    (hworking : (judge p old).1.status = .working) (hid : (judge p old).2.id ≠ "") :
    p.failure = none ∧ Profile.IsDescribed p.body (judge p old).2 := by
  cases hf : p.failure with
  | some f =>
    -- no failure lets the account go on with a profile
    rw [judge_of_failure hf, failed] at hworking hid
    split_ifs at hworking hid
    · exact absurd rfl hid
    all_goals cases hworking
  | none =>
    obtain ⟨d, hd⟩ | hno := Profile.described_or_undescribed p.body
    · rw [((judge_settles p old).found hf d hd).2]
      exact ⟨rfl, hd⟩
    · exact absurd (congrArg Profile.id ((judge_settles p old).undescribed hf hno).2) hid

/-- **An account that goes on with a profile** got a reply that describes it. -/
theorem Looks.exists_finds {w : World} {a : Account} {log : Log} {r : Result}
    (h : Looks w a log r) (hworking : r.outcome.status = .working)
    (hid : r.account.profile.id ≠ "") : Finds w a log r.account.profile := by
  cases h with
  | nameless => cases hworking
  | unsendable => cases hworking
  | stopped => cases hworking
  | @replied q p _ hq hx hp =>
    obtain ⟨hsuccess, hd⟩ := isDescribed_of_judge hworking hid
    cases hurl : Url.parse (address w.settings a) with
    | error fault =>
      rw [request_eq_error hurl] at hq
      cases hq
    | ok url =>
      rw [request_eq_ok hurl, Except.ok.injEq] at hq
      exact ⟨hx, url, p, hurl, hq ▸ hp, hsuccess, hd⟩

/-- A reply by which an account does not go on leaves it its profile or none. -/
theorem judge_of_not_working {p : Reply} {old : Profile} (h : (judge p old).1.status ≠ .working) :
    (judge p old).2 = old ∨ (judge p old).2 = .none := by
  cases hf : p.failure with
  | some f =>
    rw [judge_of_failure hf, failed] at h ⊢
    split_ifs at h ⊢
    · exact .inr rfl
    all_goals exact .inl rfl
  | none =>
    obtain ⟨d, hd⟩ | hno := Profile.described_or_undescribed p.body
    · rw [((judge_settles p old).found hf d hd).1] at h
      exact absurd rfl h
    · exact .inr ((judge_settles p old).undescribed hf hno).2

theorem Looks.profile_of_not_working {w : World} {a : Account} {log : Log} {r : Result}
    (h : Looks w a log r) (hr : r.outcome.status ≠ .working) :
    r.account.profile = a.profile ∨ r.account.profile = .none := by
  cases h with
  | replied => exact judge_of_not_working hr
  | nameless => exact .inl rfl
  | unsendable => exact .inl rfl
  | stopped => exact .inl rfl

/-- **A server can describe any profile** that has an identifier and a name. -/
theorem exists_finds_answering {w : World} {a : Account} {log : Log} {url : Url}
    (hurl : Url.parse (address w.settings a) = .ok url) (hx : log.isStopped = false) {d : Profile}
    (hid : d.id ≠ "") (hname : d.name ≠ "") :
    ∃ body, Finds { w with server := answering body } a log d := by
  obtain ⟨doc, body, hd, hbody⟩ := Profile.exists_session hid hname
  exact ⟨body, hx, url, _, hurl, rfl, rfl,
    Profile.ofSession?_eq_some_iff.1 (Profile.ofSession?_of_text hd hbody)⟩

/-- **Who an account is after its profile was looked up.**  It goes on with a profile exactly if the
reply describes one, and is then whoever is described: who it was before if the identifier is the
one that was asked for, and somebody else otherwise.  A server can describe any profile. -/
theorem perform_identified (w : World) (a : Account) (log : Log) (ha : a.profile.id ≠ "") :
    Identified w a log (Step.lookup.perform w a log).2 ∧
      ∀ url, Url.parse (address w.settings a) = .ok url → log.isStopped = false →
        ∀ d : Profile, d.id ≠ "" → d.name ≠ "" → ∃ body,
          let r := (Step.lookup.perform { w with server := answering body } a log).2
          r.outcome = .working "Minecraft Java profile acquisition succeeded." ∧
            r.account = { a with profile := d } := by
  have hact (w : World) : (Step.lookup.perform w a log).2 = act w a log := rfl
  have hselected : a.profile.isEmpty = false := by simpa [Profile.isEmpty] using ha
  have hlooks := act_spec w a log
  simp only [hact]
  have hadopted (d : Profile) (hd : Finds w a log d) : (act w a log).account.profile = d :=
    (act_of_finds hd hselected).2
  refine ⟨⟨hlooks.frame, ⟨?_, ?_⟩, hadopted, fun d hd => by rw [hadopted d hd],
    hlooks.profile_of_not_working⟩, ?_⟩
  · rintro ⟨hworking, hid⟩
    exact ⟨_, hlooks.exists_finds hworking hid⟩
  · rintro ⟨d, hd⟩
    obtain ⟨hworking, hprofile⟩ := act_of_finds hd hselected
    obtain ⟨-, -, p, -, -, -, hdescribed⟩ := hd
    exact ⟨congrArg Outcome.status hworking, hprofile ▸ hdescribed.id_ne⟩
  · intro url hurl hx d hid hname
    obtain ⟨body, hd⟩ := exists_finds_answering hurl hx hid hname
    obtain ⟨hworking, hprofile⟩ := act_of_finds hd hselected
    refine ⟨body, hworking, ?_⟩
    rw [(act_spec { w with server := answering body } a log).frame, hprofile]

/-! ### A server that describes the account, and one that describes another -/

/-- An account whose profile has been selected. -/
def selectedAccount : Account := { Account.mojang "steve" with profile := .plain "1" "A" }

/-- What a server answers that describes a profile without pictures. -/
def naming (id : String) : Bytes :=
  Utf8.encode ("\x7b\"id\":\"" ++ id ++ "\",\"name\":\"B\"\x7d")

theorem finds_naming (id : String)
    (h : Profile.ofSession? (naming id) = some (.plain id "B")) :
    Finds { World.silent with server := answering (naming id) } selectedAccount []
      (.plain id "B") := by
  obtain ⟨url, hurl⟩ : ∃ url, Url.parse (address World.silent.settings selectedAccount) = .ok url :=
    ⟨_, rfl⟩
  exact ⟨rfl, url, _, hurl, rfl, rfl, Profile.ofSession?_eq_some_iff.1 h⟩

/-- A server that describes the profile it was asked for changes its name, and leaves the account
who it was. -/
theorem perform_identified_renamed :
    let w := { World.silent with server := answering (naming "1") }
    let r := (Step.lookup.perform w selectedAccount []).2
    selectedAccount.profile.id ≠ "" ∧ Finds w selectedAccount [] (.plain "1" "B") ∧
      r.outcome.status = .working ∧
      r.account = { selectedAccount with profile := .plain "1" "B" } := by
  have hid : selectedAccount.profile.id ≠ "" := by decide
  have hfinds := finds_naming "1" (by decide +kernel)
  obtain ⟨h, -⟩ := perform_identified _ selectedAccount [] hid
  refine ⟨hid, hfinds, (h.found.2 ⟨_, hfinds⟩).1, ?_⟩
  rw [h.frame, h.adopted _ hfinds]

/-- **Looking a profile up may change who the account is.**  The server was asked for the profile
of one identifier, and describes one of another. -/
theorem perform_misidentified :
    let w := { World.silent with server := answering (naming "2") }
    let r := (Step.lookup.perform w selectedAccount []).2
    selectedAccount.profile.id = "1" ∧ r.outcome.status = .working ∧
      r.account.profile.id = "2" := by
  have hfinds := finds_naming "2" (by decide +kernel)
  obtain ⟨hworking, hprofile⟩ := act_of_finds hfinds rfl
  exact ⟨rfl, congrArg Outcome.status hworking, congrArg Profile.id hprofile⟩

end Lookup

end SignIn
