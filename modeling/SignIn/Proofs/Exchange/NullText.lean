import SignIn.Exchange.Grant
import SignIn.Proofs.Json.PlaceValue

/-!
# Null in the place of an empty text

A server that has nothing to say where a text should stand may send an empty text or `null`.  In
the answer to an accepted request the two mean the same, wherever a text may stand: for the
tokens, and for the identifier and the name of a profile.  This holds for any body that can be
read, however it is laid out and whatever else stands in it.

## Main definitions

* `emptyText`, `nullText` — how they are written.
* `Nulls` — `null` in the place of an empty text.
* `Grant.TextAt` — the places of a body where a text is read.
* `HasEmptyText` — a text with an empty text at such a place.
* `Grant.Alike` — grants that say the same.

## Main results

* `Grant.parse_null` — a body with `null` in the place of an empty text says the same.
-/

namespace SignIn

open SignIn.Json SignIn.Text

/-! ### Empty texts and null -/

/-- An empty text. -/
def emptyText : Bytes := [0x22, 0x22]

/-- The value `null`. -/
def nullText : Bytes := 0x6E :: nullTail

/-- The second text has `null` where the first one starts with an empty text. -/
def Nulls (place place' : Bytes) : Prop :=
  ∃ gap after, IsGap gap ∧ place = gap ++ (emptyText ++ after) ∧ place' = gap ++ (nullText ++ after)

theorem text_skipBlanks (room : Nat) (bs : Bytes) :
    Json.text room (skipBlanks bs) = Json.text room bs := by
  rw [Json.text, textAs, textAs, skipBlanks_skipBlanks]

theorem local_nullableText (room : Nat) : LocalRead (nullableText room) :=
  (local_optional (local_text "a string" room)).map (g := (·.getD "")) fun _ _ => rfl

theorem string_quote (after : Bytes) : string (0x22 :: after) = .ok ("", after) :=
  string_eq_ok_iff.2 ⟨[], stringBytes.eq_2 after, Utf8.decode?_encode ""⟩

theorem text_of_empty {bs after : Bytes} (h : skipBlanks bs = emptyText ++ after) (room : Nat) :
    Json.text room bs = .ok ("", after) := by
  rw [Json.text, textAs, h]
  exact string_quote after

/-- Between the two parts, there may be an empty text in one of some places. -/
def HasEmptyText (places : Bytes → Bytes → Prop) (before after : Bytes) : Prop :=
  ∃ place, places (before ++ (emptyText ++ after)) place ∧ skipBlanks place = emptyText ++ after

namespace Nulls

variable {place place' : Bytes}

theorem replaces (h : Nulls place place') : Replaces place place' := by
  obtain ⟨gap, after, hgap, rfl, rfl⟩ := h
  refine ⟨by simp [emptyText, nullText, nullTail], ?_⟩
  cases gap with
  | nil => exact ⟨0x22, rfl, 0x6E, rfl, .inr ⟨rfl, rfl, by decide⟩⟩
  | cons b gap => exact ⟨b, rfl, b, rfl, .inl rfl⟩

theorem skipBlanks_eq (h : Nulls place place') : ∃ after,
    skipBlanks place = emptyText ++ after ∧ skipBlanks place' = nullText ++ after := by
  obtain ⟨gap, after, hgap, rfl, rfl⟩ := h
  exact ⟨after, skipBlanks_gap hgap (by decide) _, skipBlanks_gap hgap (by decide) _⟩

/-- Where `null` counts as the empty text, both are read as it. -/
theorem follows_nullableText (h : Nulls place place') (room : Nat) :
    Follows Eq (nullableText room place) (nullableText room place') := by
  obtain ⟨after, hempty, hnull⟩ := h.skipBlanks_eq
  have hread : nullableText room place = .ok ("", after) := by
    rw [nullableText, optional_of_ne (text_skipBlanks room) (by simp [hempty, emptyText]),
      text_of_empty hempty]
    rfl
  have hread' : nullableText room place' = .ok ("", after) := by
    rw [nullableText, Json.optional, hnull]
    rfl
  rw [hread, hread']
  exact .refl _

/-- Where any value may stand, one is read as the empty text and the other one as `null`. -/
theorem follows_anyValue (h : Nulls place place') (room : Nat) :
    Follows (fun v v' => v = .string "" ∧ v' = .null) (anyValue room place)
      (anyValue room place') := by
  obtain ⟨after, hempty, hnull⟩ := h.skipBlanks_eq
  have hread : anyValue room place = .ok (.string "", after) := by
    rw [anyValue.eq_def, hempty, show emptyText ++ after = 0x22 :: 0x22 :: after from rfl]
    dsimp only
    iterate 5 rw [if_neg (by decide)]
    rw [if_pos rfl, string_quote]
    rfl
  have hread' : anyValue room place' = .ok (.null, after) := by
    rw [anyValue.eq_def, hnull]
    rfl
  rw [hread, hread']
  rintro _ _ ⟨rfl, rfl⟩
  exact ⟨.null, ⟨rfl, rfl⟩, rfl⟩

/-- Where nothing but a text may stand, `null` is not read at all. -/
theorem text_ne_ok (h : Nulls place place') (room : Nat) (r : String × Bytes) :
    Json.text room place' ≠ .ok r := by
  obtain ⟨after, -, hnull⟩ := h.skipBlanks_eq
  rw [Json.text, textAs, hnull]
  intro h
  cases h

end Nulls

/-- In a whole text, `null` stands in the place of an empty text. -/
theorem Json.Hosts.null {α β : Type} {r : Bytes → Except Fault (α × Bytes)} {R : α → α → Prop}
    {q : Bytes → Except Fault (β × Bytes)} {Q : β → β → Prop} {before after place : Bytes}
    (h : Hosts r R q Q (before ++ (emptyText ++ after)) place)
    (hplace : skipBlanks place = emptyText ++ after) :
    ∃ place', Nulls place place' ∧ Depends R Q (r (before ++ (emptyText ++ after)))
      (r (before ++ (nullText ++ after))) (q place) (q place') := by
  obtain ⟨front, hfront, -, hdepends⟩ := h
  obtain ⟨-, gap, hgap, rfl⟩ := skipBlanks_eq_cons_iff.1 hplace
  have hnulls : Nulls (gap ++ (emptyText ++ after)) (gap ++ (nullText ++ after)) :=
    ⟨gap, after, hgap, rfl, rfl⟩
  -- the text before the value is given by what stands behind it
  have hbefore : before ++ (emptyText ++ after) = front ++ gap ++ (emptyText ++ after) := by
    rw [hfront, List.append_assoc]
    rfl
  obtain rfl := List.append_cancel_right hbefore
  refine ⟨_, hnulls, ?_⟩
  rw [List.append_assoc front gap (nullText ++ after)]
  exact hdepends _ hnulls.replaces

/-! ### Values that may be missing -/

theorem rel_refl {α : Type} {R : α → α → Prop} (hR : ∀ a, R a a) (o : Option α) :
    Option.Rel R o o := by
  cases o with
  | none => exact .none
  | some a => exact .some (hR a)

theorem isSome_of_rel {α : Type} {R : α → α → Prop} {o o' : Option α} (h : Option.Rel R o o') :
    o'.isSome = o.isSome := by
  cases h <;> rfl

theorem getD_of_rel {α : Type} {R : α → α → Prop} {o o' : Option α} (h : Option.Rel R o o') {a : α}
    (ha : R a a) : R (o.getD a) (o'.getD a) := by
  cases h with
  | none => exact ha
  | some h => exact h

/-! ### Entries -/

namespace ProfileEntry

/-- The reader of any value comes to the identifier or the name of an entry. -/
def TextAt (room : Nat) (bs place : Bytes) : Prop :=
  ∃ name ms, (name = "id" ∨ name = "name") ∧ HasMember room name ms bs place

/-- Two members are the same, or there is `null` in the place of an empty text. -/
def AlikeMember (m m' : String × Value) : Prop :=
  m' = m ∨ m.2 = .string "" ∧ m' = (m.1, .null)

/-- Two values are the same, or one has `null` in the place of empty texts. -/
inductive Alike : Value → Value → Prop
  /-- They are the same. -/
  | same (v : Value) : Alike v v
  /-- They are objects, and some of their members differ in that way. -/
  | entry {ms ms' : List (String × Value)} (h : List.Forall₂ AlikeMember ms ms') :
    Alike (.object ms) (.object ms')

theorem forall₂_refl (ms : List (String × Value)) : List.Forall₂ AlikeMember ms ms :=
  List.forall₂_same.2 fun _ _ => .inl rfl

theorem AlikeMember.fst {m m' : String × Value} (h : AlikeMember m m') : m'.1 = m.1 := by
  obtain rfl | ⟨-, rfl⟩ := h <;> rfl

/-- The same name may be given alike values. -/
theorem forall₂_put {ms ms' : List (String × Value)} (h : List.Forall₂ AlikeMember ms ms')
    (name : String) {v v' : Value} (hv : ∀ n, AlikeMember (n, v) (n, v')) :
    List.Forall₂ AlikeMember (put name v ms) (put name v' ms') := by
  induction h with
  | nil => exact .cons (hv name) .nil
  | @cons m m' ms ms' hm hms ih =>
    obtain ⟨n, w⟩ := m
    obtain ⟨n', w'⟩ := m'
    obtain rfl : n' = n := hm.fst
    rw [put, put]
    split
    · exact .cons (hv n') hms
    · exact .cons hm ih

/-- A text that is absent, empty or `null` is the same to an entry. -/
theorem textMember?_eq {ms ms' : List (String × Value)} (h : List.Forall₂ AlikeMember ms ms')
    (name : String) : textMember? name ms' = textMember? name ms := by
  induction h with
  | nil => rfl
  | @cons m m' ms ms' hm hms ih =>
    obtain ⟨n, w⟩ := m
    obtain ⟨n', w'⟩ := m'
    obtain rfl : n' = n := hm.fst
    rw [textMember?, textMember?, List.lookup_cons, List.lookup_cons]
    cases name == n' with
    | true =>
      obtain hw | ⟨hw, hw'⟩ := hm
      · rw [(Prod.mk.inj hw).2]
      · obtain rfl : w = .string "" := hw
        rw [(Prod.mk.inj hw').2]
    | false => exact ih

theorem Alike.ofValue?_eq {v v' : Value} (h : Alike v v') : ofValue? v' = ofValue? v := by
  cases h with
  | same => rfl
  | entry h =>
    rw [ofValue?, ofValue?, textMember?_eq h, textMember?_eq h]

theorem TextAt.hosts {room : Nat} {bs place : Bytes} (h : TextAt room bs place) :
    Hosts (anyValue (room + 1)) Alike (anyValue room) (fun v v' => v = .string "" ∧ v' = .null)
      bs place := by
  obtain ⟨name, ms, -, hmember⟩ := h
  refine hmember.hosts (M := List.Forall₂ AlikeMember)
    (fun ms ms' name v hms => forall₂_put hms name fun _ => .inl rfl) ?_ fun _ _ => .entry
  rintro v v' ⟨rfl, rfl⟩
  exact forall₂_put (forall₂_refl ms) name fun _ => .inr ⟨rfl, rfl⟩

end ProfileEntry

/-! ### Grants -/

namespace Grant

/-- The reader of a grant comes to a text: a token, or the identifier or the name of the selected
profile or of a listed one.  Inside the grant, 126 more containers may be opened. -/
inductive TextAt (body place : Bytes) : Prop
  /-- A token. -/
  | token {draft : Draft} {field : Json.Field Draft}
    (comes : layout.ComesTo 126 draft field body place)
    (name : field.name = "clientToken" ∨ field.name = "accessToken")
  /-- A text of the selected profile. -/
  | selected {draft : Draft} {field : Json.Field Draft} {entry : Bytes}
    (comes : layout.ComesTo 126 draft field body entry) (name : field.name = "selectedProfile")
    (text : ProfileEntry.TextAt 125 entry place)
  /-- A text of a listed profile. -/
  | listed {draft : Draft} {field : Json.Field Draft} {vs : List Value} {list entry : Bytes}
    (comes : layout.ComesTo 126 draft field body list) (name : field.name = "availableProfiles")
    (element : HasElement 125 vs list entry) (text : ProfileEntry.TextAt 124 entry place)

/-- Two values are the same, or they are lists of entries that say the same. -/
inductive AlikeList : Value → Value → Prop
  /-- They are the same. -/
  | same (v : Value) : AlikeList v v
  /-- They are lists. -/
  | list {vs vs' : List Value} (h : List.Forall₂ ProfileEntry.Alike vs vs') :
    AlikeList (.array vs) (.array vs')

/-- Two grants say the same. -/
structure Alike (g g' : Grant) : Prop where
  /-- They have the same client token. -/
  clientToken : g'.clientToken = g.clientToken
  /-- They have the same access token. -/
  accessToken : g'.accessToken = g.accessToken
  /-- They select the same profile. -/
  selectedProfile : Option.Rel ProfileEntry.Alike g.selectedProfile g'.selectedProfile
  /-- They list the same profiles. -/
  availableProfiles : Option.Rel AlikeList g.availableProfiles g'.availableProfiles

/-- Two drafts say the same so far. -/
structure Draft.Alike (d d' : Draft) : Prop where
  /-- They have the same client token. -/
  clientToken : d'.clientToken = d.clientToken
  /-- They have the same access token. -/
  accessToken : d'.accessToken = d.accessToken
  /-- They select the same profile. -/
  selectedProfile :
    Option.Rel (Option.Rel ProfileEntry.Alike) d.selectedProfile d'.selectedProfile
  /-- They list the same profiles. -/
  availableProfiles : Option.Rel (Option.Rel AlikeList) d.availableProfiles d'.availableProfiles

theorem Draft.Alike.refl (d : Draft) : d.Alike d :=
  ⟨rfl, rfl, rel_refl (rel_refl .same) _, rel_refl (rel_refl .same) _⟩

theorem layout_isLocal : layout.IsLocal := by
  have hvalue (room : Nat) : LocalRead (Json.optional anyValue room) :=
    local_optional (local_anyValue room)
  simp only [Layout.IsLocal, layout, List.forall_mem_cons]
  exact ⟨Field.local_of local_nullableText, Field.local_of local_nullableText,
    Field.local_of hvalue, Field.local_of hvalue, List.forall_mem_nil _⟩

theorem layout_keeps : ∀ field ∈ layout.fields, Layout.Keeps Draft.Alike field := by
  have hsame (o : Option Value) : Option.Rel (Option.Rel ProfileEntry.Alike) (some o) (some o) :=
    .some (rel_refl .same o)
  have hlist (o : Option Value) : Option.Rel (Option.Rel AlikeList) (some o) (some o) :=
    .some (rel_refl .same o)
  simp only [layout, List.forall_mem_cons]
  refine ⟨.of (fun d d' h => ?_) fun d d' s h => ?_, .of (fun d d' h => ?_) fun d d' s h => ?_,
    .of (fun d d' h => isSome_of_rel h.selectedProfile) fun d d' o h => ?_,
    .of (fun d d' h => isSome_of_rel h.availableProfiles) fun d d' o h => ?_, List.forall_mem_nil _⟩
  · rw [h.clientToken]
  · exact { h with clientToken := rfl }
  · rw [h.accessToken]
  · exact { h with accessToken := rfl }
  · exact { h with selectedProfile := hsame o }
  · exact { h with availableProfiles := hlist o }

theorem alike_of_make {d d' : Draft} {g : Grant} (h : d.Alike d') (hg : layout.make d = .ok g) :
    ∃ g', Alike g g' ∧ layout.make d' = .ok g' := by
  obtain rfl := Except.ok.inj hg
  refine ⟨_, ⟨?_, ?_, ?_, ?_⟩, rfl⟩
  · exact congrArg (·.getD "") h.clientToken
  · exact congrArg (·.getD "") h.accessToken
  · exact getD_of_rel h.selectedProfile .none
  · exact getD_of_rel h.availableProfiles .none

section

variable {field : Json.Field Draft} {draft : Draft} {room : Nat}

/-- A token is read alike from an empty text and from `null`. -/
theorem token_follows (hfield : field ∈ layout.fields)
    (name : field.name = "clientToken" ∨ field.name = "accessToken") {place place' : Bytes}
    (h : Nulls place place') :
    Follows Draft.Alike (field.read draft room place) (field.read draft room place') := by
  obtain name | name := name
  · obtain rfl := Option.some.inj (Layout.find?_eq_some_of_mem (by decide) hfield name)
    exact (h.follows_nullableText room).map (f := fun s => { draft with clientToken := some s })
      (fun _ _ hs => hs ▸ .refl _) (fun _ _ => rfl) fun _ _ => rfl
  · obtain rfl := Option.some.inj (Layout.find?_eq_some_of_mem (by decide) hfield name)
    exact (h.follows_nullableText room).map (f := fun s => { draft with accessToken := some s })
      (fun _ _ hs => hs ▸ .refl _) (fun _ _ => rfl) fun _ _ => rfl

variable {β : Type} {q : Bytes → Except Fault (β × Bytes)} {Q : β → β → Prop} {bs place : Bytes}

theorem optional_anyValue_hosts {R : Value → Value → Prop} {b : UInt8} {rest : Bytes}
    (h : Hosts (anyValue room) R q Q bs place) (hopens : skipBlanks bs = b :: rest)
    (hb : b ≠ 0x6E) : Hosts (Json.optional anyValue room) (Option.Rel R) q Q bs place := by
  refine h.optional (fun bs => ?_) ?_ fun _ _ => .some
  · rw [anyValue.eq_def, anyValue.eq_def, skipBlanks_skipBlanks]
  · rw [hopens]
    exact fun h => hb (Option.some.inj h)

theorem selected_hosts (hfield : field ∈ layout.fields) (name : field.name = "selectedProfile")
    (h : Hosts (Json.optional anyValue room) (Option.Rel ProfileEntry.Alike) q Q bs place) :
    Hosts (field.read draft room) Draft.Alike q Q bs place := by
  obtain rfl := Option.some.inj (Layout.find?_eq_some_of_mem (by decide) hfield name)
  exact h.map (f := fun v => { draft with selectedProfile := some v })
    (fun _ _ hv => { Draft.Alike.refl draft with selectedProfile := .some hv }) fun _ _ => rfl

theorem listed_hosts (hfield : field ∈ layout.fields) (name : field.name = "availableProfiles")
    (h : Hosts (Json.optional anyValue room) (Option.Rel AlikeList) q Q bs place) :
    Hosts (field.read draft room) Draft.Alike q Q bs place := by
  obtain rfl := Option.some.inj (Layout.find?_eq_some_of_mem (by decide) hfield name)
  exact h.map (f := fun v => { draft with availableProfiles := some v })
    (fun _ _ hv => { Draft.Alike.refl draft with availableProfiles := .some hv }) fun _ _ => rfl

end

theorem record_follows {before after : Bytes} (h : HasEmptyText TextAt before after) :
    Follows Alike (layout.record depthLimit (before ++ (emptyText ++ after)))
      (layout.record depthLimit (before ++ (nullText ++ after))) := by
  obtain ⟨place, htext, hplace⟩ := h
  have hrecord {draft : Draft} {field : Json.Field Draft} {body value : Bytes}
      (comes : layout.ComesTo 126 draft field body value) :=
    comes.hosts layout_isLocal layout_keeps fun _ _ _ => alike_of_make
  cases htext with
  | token comes name =>
    obtain ⟨place', hnulls, hdepends⟩ := (hrecord comes).null hplace
    exact hdepends.follows (token_follows comes.mem name hnulls)
  | selected comes name text =>
    have hentry := text.hosts
    obtain ⟨_, _, _, inner, opens, _⟩ := text
    have hentry := optional_anyValue_hosts hentry opens (by decide)
    obtain ⟨place', hnulls, hdepends⟩ :=
      ((hrecord comes).trans (selected_hosts comes.mem name hentry)).null hplace
    exact hdepends.follows (hnulls.follows_anyValue 125)
  | listed comes name element text =>
    have hlist := (element.hosts (Q := AlikeList) .same fun _ _ => .list).trans text.hosts
    obtain ⟨inner, opens, _⟩ := element
    have hlist := optional_anyValue_hosts hlist opens (by decide)
    obtain ⟨place', hnulls, hdepends⟩ :=
      ((hrecord comes).trans (listed_hosts comes.mem name hlist)).null hplace
    exact hdepends.follows (hnulls.follows_anyValue 124)

/-- **Null reads as the empty text**: with `null` in the place of an empty text, a body gives a
grant that says the same. -/
theorem parse_null {before after : Bytes} (h : HasEmptyText TextAt before after) {g : Grant}
    (hg : parse (before ++ (emptyText ++ after)) = .ok g) :
    ∃ g', Alike g g' ∧ parse (before ++ (nullText ++ after)) = .ok g' := by
  have hblank (word : Bytes) (hword : ∃ b ∈ word, isAsciiBlank b = false) :
      (before ++ (word ++ after)).all isAsciiBlank = false := by
    obtain ⟨b, hb, hblank⟩ := hword
    exact List.all_eq_false.2 ⟨b, by simp [hb], by simp [hblank]⟩
  rw [parse, hblank emptyText ⟨0x22, by decide, by decide⟩, if_neg Bool.false_ne_true] at hg
  rw [parse, hblank nullText ⟨0x6E, by decide, by decide⟩, if_neg Bool.false_ne_true]
  exact (record_follows h).read_eq_ok hg

end Grant

end SignIn
