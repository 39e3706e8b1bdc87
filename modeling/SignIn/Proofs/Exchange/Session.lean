import SignIn.Exchange.Session
import SignIn.Proofs.Except

/-!
# What a body of the session server describes

A body describes a profile if it is readable at each of its three levels: the body itself, the
Base64 of the first property named for textures, and the text written so.  Without such a property
the profile has no pictures.

## Main definitions

* `SessionProfile.HasTextures`, `SessionProfile.LacksTextures` — the property for textures.
* `Profile.IsDescribed` — a body describes a profile.
* `Profile.IsUndescribed` — a body that is unreadable somewhere.

## Main results

* `Profile.ofSession?_eq_some_iff` — decoding gives exactly the profile that is described.
* `Profile.described_or_undescribed` — there is no third kind of body.
-/

namespace SignIn

open SignIn.Json SignIn.Text

/-- The first property that is named for textures. -/
structure SessionProfile.HasTextures (s : SessionProfile) (q : Property) : Prop where
  /-- It is named for textures. -/
  named : q.name = "textures"
  /-- It stands among the properties, and none before it is named so. -/
  stands : ∃ before after, s.properties = before ++ q :: after ∧
    ∀ p ∈ before, p.name ≠ "textures"

/-- No property is named for textures. -/
def SessionProfile.LacksTextures (s : SessionProfile) : Prop :=
  ∀ p ∈ s.properties, p.name ≠ "textures"

theorem SessionProfile.find?_eq_none_iff {s : SessionProfile} :
    s.properties.find? (·.name == "textures") = none ↔ s.LacksTextures := by
  simp [LacksTextures]

theorem SessionProfile.find?_eq_some_iff {s : SessionProfile} {q : Property} :
    s.properties.find? (·.name == "textures") = some q ↔ s.HasTextures q := by
  rw [List.find?_eq_some_iff_append]
  constructor
  · rintro ⟨named, before, after, hsplit, hbefore⟩
    exact ⟨by simpa using named, before, after, hsplit, by simpa using hbefore⟩
  · rintro ⟨named, before, after, hsplit, hbefore⟩
    exact ⟨by simpa using named, before, after, hsplit, by simpa using hbefore⟩

namespace Profile

/-- The body describes the profile. -/
inductive IsDescribed (body : Bytes) : Profile → Prop
  /-- There is no property for textures. -/
  | plain {s : SessionProfile} (readable : read SessionProfile.layout.record body = .ok s)
    (id : s.id ≠ "") (name : s.name ≠ "") (lacks : s.LacksTextures) :
    IsDescribed body (.plain s.id s.name)
  /-- The first property for textures holds some. -/
  | pictured {s : SessionProfile} (readable : read SessionProfile.layout.record body = .ok s)
    (id : s.id ≠ "") (name : s.name ≠ "") {q : Property} (has : s.HasTextures q) {bytes : Bytes}
    (decoded : Base64.decode? (trim q.value) = some bytes) {t : Textures}
    (payload : read Textures.payload.record bytes = .ok t) :
    IsDescribed body ((Profile.plain s.id s.name).withTextures t)

/-- The body describes no profile. -/
inductive IsUndescribed (body : Bytes) : Prop
  /-- It is not the JSON that it should be. -/
  | unreadable {m : Mistake} (h : read SessionProfile.layout.record body = .error m)
  /-- The identifier or the name is empty. -/
  | nameless {s : SessionProfile} (readable : read SessionProfile.layout.record body = .ok s)
    (h : s.id = "" ∨ s.name = "")
  /-- The first property for textures is no Base64. -/
  | undecoded {s : SessionProfile} (readable : read SessionProfile.layout.record body = .ok s)
    {q : Property} (has : s.HasTextures q) (h : Base64.decode? (trim q.value) = .none)
  /-- What it holds is not the JSON that it should be. -/
  | unpictured {s : SessionProfile} (readable : read SessionProfile.layout.record body = .ok s)
    {q : Property} (has : s.HasTextures q) {bytes : Bytes}
    (decoded : Base64.decode? (trim q.value) = some bytes) {m : Mistake}
    (h : read Textures.payload.record bytes = .error m)

/-! ### Decoding finds what is described -/

theorem ofSession?_of_read {body : Bytes} {s : SessionProfile}
    (h : read SessionProfile.layout.record body = .ok s) :
    ofSession? body = ofDescription? s := by
  rw [ofSession?, h]
  rfl

theorem ofDescription?_of_nameless {s : SessionProfile} (h : s.id = "" ∨ s.name = "") :
    ofDescription? s = .none := by
  rw [ofDescription?, if_pos h]

theorem ofDescription?_of_lacks {s : SessionProfile} (id : s.id ≠ "") (name : s.name ≠ "")
    (h : s.LacksTextures) : ofDescription? s = some (.plain s.id s.name) := by
  rw [ofDescription?, if_neg (not_or.2 ⟨id, name⟩), SessionProfile.find?_eq_none_iff.2 h]

theorem ofDescription?_of_has {s : SessionProfile} (id : s.id ≠ "") (name : s.name ≠ "")
    {q : Property} (h : s.HasTextures q) : ofDescription? s =
      (Textures.ofProperty? q.value).map (Profile.plain s.id s.name).withTextures := by
  rw [ofDescription?, if_neg (not_or.2 ⟨id, name⟩), SessionProfile.find?_eq_some_iff.2 h]

theorem ofSession?_of_described {body : Bytes} {p : Profile} (h : IsDescribed body p) :
    ofSession? body = some p := by
  cases h with
  | plain readable id name lacks =>
    rw [ofSession?_of_read readable, ofDescription?_of_lacks id name lacks]
  | pictured readable id name has decoded payload =>
    rw [ofSession?_of_read readable, ofDescription?_of_has id name has, Textures.ofProperty?,
      decoded]
    simp only [bind, Option.bind, payload]
    rfl

theorem ofSession?_of_undescribed {body : Bytes} (h : IsUndescribed body) :
    ofSession? body = .none := by
  cases h with
  | unreadable h =>
    rw [ofSession?, h]
    rfl
  | nameless readable h => rw [ofSession?_of_read readable, ofDescription?_of_nameless h]
  | @undecoded s readable q has h =>
    rw [ofSession?_of_read readable]
    by_cases hs : s.id = "" ∨ s.name = ""
    · exact ofDescription?_of_nameless hs
    · rw [not_or] at hs
      rw [ofDescription?_of_has hs.1 hs.2 has, Textures.ofProperty?, h]
      rfl
  | @unpictured s readable q has bytes decoded m h =>
    rw [ofSession?_of_read readable]
    by_cases hs : s.id = "" ∨ s.name = ""
    · exact ofDescription?_of_nameless hs
    · rw [not_or] at hs
      rw [ofDescription?_of_has hs.1 hs.2 has, Textures.ofProperty?, decoded]
      simp only [bind, Option.bind, h]
      rfl

/-- **A body describes a profile or none.** -/
theorem described_or_undescribed (body : Bytes) :
    (∃ p, IsDescribed body p) ∨ IsUndescribed body := by
  cases hread : read SessionProfile.layout.record body with
  | error m => exact .inr (.unreadable hread)
  | ok s =>
    by_cases hs : s.id = "" ∨ s.name = ""
    · exact .inr (.nameless hread hs)
    rw [not_or] at hs
    cases hq : s.properties.find? (·.name == "textures") with
    | none => exact .inl ⟨_, .plain hread hs.1 hs.2 (SessionProfile.find?_eq_none_iff.1 hq)⟩
    | some q =>
      have has : s.HasTextures q := SessionProfile.find?_eq_some_iff.1 hq
      cases hbytes : Base64.decode? (trim q.value) with
      | none => exact .inr (.undecoded hread has hbytes)
      | some bytes =>
        cases ht : read Textures.payload.record bytes with
        | error m => exact .inr (.unpictured hread has hbytes ht)
        | ok t => exact .inl ⟨_, .pictured hread hs.1 hs.2 has hbytes ht⟩

/-- **Decoding gives exactly the profile that is described.** -/
theorem ofSession?_eq_some_iff {body : Bytes} {p : Profile} :
    ofSession? body = some p ↔ IsDescribed body p := by
  refine ⟨fun h => ?_, ofSession?_of_described⟩
  obtain ⟨p', hp⟩ | hno := described_or_undescribed body
  · rw [ofSession?_of_described hp, Option.some.injEq] at h
    exact h ▸ hp
  · rw [ofSession?_of_undescribed hno] at h
    cases h

end Profile

end SignIn
