import SignIn.Proofs.Exchange.NullText
import SignIn.Proofs.Lookup

/-!
# Null in the answer of the session server

Where the session server says what a profile is, `null` is no text.  Any text of its answer may be
the empty one, and the answer is read; with `null` in its place, nothing is read.  The same goes
for the texts about pictures, which a property holds.  So a look-up that gets `null` fails, and
the account loses its profile.

## Main definitions

* `SessionProfile.TextAt`, `Textures.TextAt` — the places where a text is read.
* `Lookup.NullsBody` — bodies with an empty text and with `null` in such a place.

## Main results

* `SessionProfile.read_null`, `Textures.read_null` — with `null` there, nothing is read.
* `Lookup.ofSession?_null` — so a body with `null` gives no profile.
-/

namespace SignIn

open SignIn.Json SignIn.Text

/-- Where a text is read, `null` keeps the whole from being read. -/
theorem Json.Hosts.ne_ok {α : Type} {r : Bytes → Except Fault (α × Bytes)} {R : α → α → Prop}
    {before after place : Bytes} {room : Nat}
    (h : Hosts r R (Json.text room) Eq (before ++ (emptyText ++ after)) place)
    (hplace : skipBlanks place = emptyText ++ after) (p : α × Bytes) :
    r (before ++ (nullText ++ after)) ≠ .ok p := by
  obtain ⟨place', hnulls, hdepends⟩ := h.null hplace
  exact hdepends.fails (hnulls.text_ne_ok room) p

theorem local_jsonText (room : Nat) : LocalRead (Json.text room) := local_text "a string" room

/-! ### Profiles -/

theorem Property.layout_isLocal : Property.layout.IsLocal := by
  simp only [Layout.IsLocal, layout, List.forall_mem_cons]
  exact ⟨Field.local_of local_jsonText, Field.local_of local_jsonText, List.forall_mem_nil _⟩

/-- Whatever the reader of a property comes to is a text. -/
theorem Property.hosts {room : Nat} {draft : Draft} {field : Json.Field Draft} {bs place : Bytes}
    (comes : layout.ComesTo room draft field bs place) :
    Hosts (layout.record (room + 1)) Eq (Json.text room) Eq bs place := by
  have h := comes.hosts_eq layout_isLocal
  have hfield := comes.mem
  simp only [layout, List.mem_cons, List.not_mem_nil, or_false] at hfield
  obtain rfl | rfl := hfield
  · exact Field.hosts_of h
  · exact Field.hosts_of h

namespace SessionProfile

theorem layout_isLocal : layout.IsLocal := by
  simp only [Layout.IsLocal, layout, List.forall_mem_cons]
  have hproperties (room : Nat) : LocalRead (Json.list Property.layout.record room) :=
    local_list (Layout.local_record Property.layout_isLocal) room
  exact ⟨Field.local_of local_jsonText, Field.local_of local_jsonText, Field.local_of hproperties,
    List.forall_mem_nil _⟩

/-- The reader of a profile comes to a text: its identifier, its name, or a text of a property.
Inside the profile, 126 more containers may be opened. -/
inductive TextAt (body place : Bytes) : Prop
  /-- The identifier or the name. -/
  | own {draft : Draft} {field : Json.Field Draft}
    (comes : layout.ComesTo 126 draft field body place)
    (name : field.name = "id" ∨ field.name = "name")
  /-- The name or the value of a property. -/
  | property {draft : Draft} {field : Json.Field Draft} {ps : List Property} {list entry : Bytes}
    {draft' : Property.Draft} {field' : Json.Field Property.Draft}
    (comes : layout.ComesTo 126 draft field body list) (name : field.name = "properties")
    (item : HasItem Property.layout.record 125 ps list entry)
    (text : Property.layout.ComesTo 124 draft' field' entry place)

theorem TextAt.hosts {body place : Bytes} (h : TextAt body place) :
    ∃ room, Hosts (layout.record depthLimit) Eq (Json.text room) Eq body place := by
  cases h with
  | own comes name =>
    have h := comes.hosts_eq layout_isLocal
    obtain name | name := name
    · obtain rfl := Option.some.inj (Layout.find?_eq_some_of_mem (by decide) comes.mem name)
      exact ⟨126, Field.hosts_of h⟩
    · obtain rfl := Option.some.inj (Layout.find?_eq_some_of_mem (by decide) comes.mem name)
      exact ⟨126, Field.hosts_of h⟩
  | property comes name item text =>
    have h := comes.hosts_eq layout_isLocal
    have hitem := item.hosts (Layout.local_record Property.layout_isLocal)
    obtain rfl := Option.some.inj (Layout.find?_eq_some_of_mem (by decide) comes.mem name)
    exact ⟨124, ((Field.hosts_of h).trans hitem).trans (Property.hosts text)⟩

/-- With `null` in the place of an empty text, no profile is read. -/
theorem read_null {before after : Bytes} (h : HasEmptyText TextAt before after)
    (s : SessionProfile) :
    read layout.record (before ++ (nullText ++ after)) ≠ .ok s := by
  obtain ⟨place, htext, hplace⟩ := h
  obtain ⟨room, hhosts⟩ := htext.hosts
  exact read_ne_ok (hhosts.ne_ok hplace) s

end SessionProfile

/-! ### Pictures -/

theorem Texture.remarks_isLocal : Texture.remarks.IsLocal := by
  simp only [Layout.IsLocal, remarks, List.forall_mem_cons]
  exact ⟨Field.local_of local_jsonText, List.forall_mem_nil _⟩

/-- Whatever the reader of the remarks on a picture comes to is a text. -/
theorem Texture.remarks_hosts {room : Nat} {draft : Option String}
    {field : Json.Field (Option String)} {bs place : Bytes}
    (comes : remarks.ComesTo room draft field bs place) :
    Hosts (Json.optional remarks.record (room + 1)) Eq (Json.text room) Eq bs place := by
  have h := comes.hosts_optional remarks_isLocal
  have hfield := comes.mem
  simp only [remarks, List.mem_cons, List.not_mem_nil, or_false] at hfield
  obtain rfl := hfield
  exact Field.hosts_of h

theorem Texture.layout_isLocal : Texture.layout.IsLocal := by
  simp only [Layout.IsLocal, layout, List.forall_mem_cons]
  exact ⟨Field.local_of local_jsonText, Field.local_of fun room =>
    local_optional (Layout.local_record remarks_isLocal room), List.forall_mem_nil _⟩

/-- The reader of a picture comes to a text: where it is, or the model that it is made for.  Inside
the picture, so many more containers may be opened. -/
inductive Texture.TextAt (room : Nat) (bs place : Bytes) : Prop
  /-- Where the picture is. -/
  | url {draft : Draft} {field : Json.Field Draft}
    (comes : layout.ComesTo room draft field bs place)
    (name : field.name = "url")
  /-- The model that it is made for. -/
  | model {draft : Draft} {field : Json.Field Draft} {remarks : Bytes} {draft' : Option String}
    {field' : Json.Field (Option String)} {room' : Nat} (enough : room = room' + 1)
    (comes : layout.ComesTo room draft field bs remarks) (name : field.name = "metadata")
    (text : Texture.remarks.ComesTo room' draft' field' remarks place)

theorem Texture.TextAt.hosts {room : Nat} {bs place : Bytes} (h : TextAt room bs place) :
    ∃ room', Hosts (Json.optional layout.record (room + 1)) Eq (Json.text room') Eq bs place := by
  cases h with
  | url comes name =>
    have h := comes.hosts_optional layout_isLocal
    obtain rfl := Option.some.inj (Layout.find?_eq_some_of_mem (by decide) comes.mem name)
    exact ⟨room, Field.hosts_of h⟩
  | @model _ _ _ _ _ room' enough comes name text =>
    subst enough
    have h := comes.hosts_optional layout_isLocal
    obtain rfl := Option.some.inj (Layout.find?_eq_some_of_mem (by decide) comes.mem name)
    exact ⟨room', (Field.hosts_of h).trans (remarks_hosts text)⟩

namespace Textures

theorem layout_isLocal : layout.IsLocal := by
  have hpicture (room : Nat) : LocalRead (Json.optional Texture.layout.record room) :=
    local_optional (Layout.local_record Texture.layout_isLocal room)
  simp only [Layout.IsLocal, layout, List.forall_mem_cons]
  exact ⟨Field.local_of hpicture, Field.local_of hpicture, List.forall_mem_nil _⟩

theorem payload_isLocal : payload.IsLocal := by
  simp only [Layout.IsLocal, payload, List.forall_mem_cons]
  exact ⟨Field.local_of (Layout.local_record layout_isLocal), List.forall_mem_nil _⟩

/-- The reader of the text that a property holds comes to a text of a picture. -/
def TextAt (bytes place : Bytes) : Prop :=
  ∃ draft field textures, payload.ComesTo 126 draft field bytes textures ∧
    ∃ draft field picture, layout.ComesTo 125 draft field textures picture ∧
      Texture.TextAt 124 picture place

theorem TextAt.hosts {bytes place : Bytes} (h : TextAt bytes place) :
    ∃ room, Hosts (payload.record depthLimit) Eq (Json.text room) Eq bytes place := by
  obtain ⟨draft, field, textures, comes, draft', field', picture, comes', htext⟩ := h
  obtain ⟨room, hpicture⟩ := htext.hosts
  have hpayload := comes.hosts_eq payload_isLocal
  have hfield := comes.mem
  simp only [payload, List.mem_cons, List.not_mem_nil, or_false] at hfield
  obtain rfl := hfield
  have htextures := comes'.hosts_eq layout_isLocal
  have hfield' := comes'.mem
  simp only [layout, List.mem_cons, List.not_mem_nil, or_false] at hfield'
  refine ⟨room, (Field.hosts_of hpayload).trans (Hosts.trans ?_ hpicture)⟩
  obtain rfl | rfl := hfield'
  · exact Field.hosts_of htextures
  · exact Field.hosts_of htextures

/-- With `null` in the place of an empty text, no pictures are read. -/
theorem read_null {before after : Bytes} (h : HasEmptyText TextAt before after) (t : Textures) :
    read payload.record (before ++ (nullText ++ after)) ≠ .ok t := by
  obtain ⟨place, htext, hplace⟩ := h
  obtain ⟨room, hhosts⟩ := htext.hosts
  exact read_ne_ok (hhosts.ne_ok hplace) t

end Textures

/-! ### Looking a profile up -/

namespace Lookup

/-- The second body has `null` in the place of an empty text. -/
inductive NullsBody : Bytes → Bytes → Prop
  /-- It is a text of the profile. -/
  | profile {before after : Bytes} (h : HasEmptyText SessionProfile.TextAt before after) :
    NullsBody (before ++ (emptyText ++ after)) (before ++ (nullText ++ after))
  /-- It is a text of a picture, in the first property named for textures. -/
  | picture {body body' before after : Bytes} {s s' : SessionProfile} {p p' : Property}
    (profile : read SessionProfile.layout.record body = .ok s)
    (profile' : read SessionProfile.layout.record body' = .ok s')
    (same : s'.id = s.id ∧ s'.name = s.name)
    (property : s.properties.find? (·.name == "textures") = some p)
    (property' : s'.properties.find? (·.name == "textures") = some p')
    (bytes : Base64.decode? (trim p.value) = some (before ++ (emptyText ++ after)))
    (bytes' : Base64.decode? (trim p'.value) = some (before ++ (nullText ++ after)))
    (h : HasEmptyText Textures.TextAt before after) : NullsBody body body'

/-- **Where the session server sends null for a text**, there is no profile. -/
theorem ofSession?_null {body body' : Bytes} (h : NullsBody body body') :
    Profile.ofSession? body' = none := by
  cases h with
  | profile h =>
    rw [Profile.ofSession?, toOption_eq_none (SessionProfile.read_null h)]
    rfl
  | @picture _ _ before after s s' p p' profile profile' same property property' bytes bytes' h =>
    have hpictures : Textures.ofProperty? p'.value = none := by
      rw [Textures.ofProperty?, bytes']
      exact toOption_eq_none (Textures.read_null h)
    rw [Profile.ofSession?, profile']
    change Profile.ofDescription? s' = none
    rw [Profile.ofDescription?, property']
    split
    · rfl
    · dsimp only
      rw [hpictures]
      rfl

/-- An answer without a profile fails, and the account loses the one that it had. -/
theorem judge_of_none {p : Reply} (hfailure : p.failure = none)
    (h : Profile.ofSession? p.body = none) (profile : Profile) :
    judge p profile = (.soft "Minecraft Java profile response could not be parsed", .none) := by
  rw [judge, hfailure, described, h]

theorem judge_of_some {p : Reply} (hfailure : p.failure = none) {found : Profile}
    (h : Profile.ofSession? p.body = some found) (profile : Profile) :
    judge p profile = (.working "Minecraft Java profile acquisition succeeded.", found) := by
  rw [judge, hfailure, described, h]

end Lookup

end SignIn
