import SignIn.Proofs.Base64
import SignIn.Proofs.Exchange.Session
import SignIn.Proofs.Json.Recovered

/-!
# Texts of the session server

What the session server may write for a profile: an object with the identifier, the name and the
properties, one of which holds the Base64 of another JSON text with the pictures.  The members of
each object stand in any order, with members of other names among them, and each text may be spelled
in any way.  Whichever of these texts is sent, decoding it gives back the profile.

## Main definitions

* `Texture.IsDocument`, `Skin.IsDocument`, `Cape.IsDocument` — what describes a picture.
* `Textures.IsPayload` — what a property holds for a skin and a cape.
* `Property.IsDocument`, `SessionProfile.IsDocument` — what describes properties and all of it.
* `Profile.IsSession` — what describes a profile.

## Main results

* `Textures.IsPayload.recovers`, `SessionProfile.IsDocument.recovers` — the two texts are read back.
* `Profile.exists_session` — there is a text for every profile.
* `Profile.ofSession?_of_text` — decoding gives back the profile.
-/

namespace SignIn

open SignIn.Json SignIn.Text

/-! ### Pictures -/

namespace Texture

/-- The document remarks that a picture is made for a model, which is the empty text if it is left
out. -/
inductive IsRemarks (d : Document) : String → Prop
  /-- The model is left out. -/
  | silent (h : d.IsObject ["model"] []) : IsRemarks d ""
  /-- The model is named. -/
  | model {m : String} (h : d.IsObject ["model"] [("model", .string m)]) : IsRemarks d m

/-- The document describes the picture. -/
inductive IsDocument (d : Document) : Texture → Prop
  /-- Nothing is remarked on it. -/
  | bare {url : String} (h : d.IsObject ["url", "metadata"] [("url", .string url)]) :
    IsDocument d ⟨url, none⟩
  /-- The remarks are empty. -/
  | null {url : String}
    (h : d.IsObject ["url", "metadata"] [("url", .string url), ("metadata", .null)]) :
    IsDocument d ⟨url, none⟩
  /-- There are some. -/
  | remarked {url m : String} {r : Document} (hr : IsRemarks r m)
    (h : d.IsObject ["url", "metadata"] [("url", .string url), ("metadata", r)]) :
    IsDocument d ⟨url, some m⟩

theorem IsRemarks.ne_null {d : Document} {m : String} (h : IsRemarks d m) : d ≠ .null := by
  rintro rfl
  obtain ⟨_, _, h, -⟩ | ⟨_, _, h, -⟩ := h <;> cases h

theorem IsDocument.ne_null {d : Document} {t : Texture} (h : IsDocument d t) : d ≠ .null := by
  rintro rfl
  obtain ⟨_, _, h, -⟩ | ⟨_, _, h, -⟩ | ⟨-, _, _, h, -⟩ := h <;> cases h

theorem IsRemarks.recovers {d : Document} {m : String} (h : IsRemarks d m) (room : Nat) :
    Recovers remarks.record (room + 1) d m := by
  cases h with
  | silent h =>
    exact remarks.recovers_record [] (List.forall_mem_singleton.2 rfl) (List.forall_mem_nil _)
      .nil h rfl
  | model h =>
    exact remarks.recovers_record [.setting "model" (.string m) (fun _ s => some s) m]
      (List.forall_mem_singleton.2 rfl)
      (List.forall_mem_singleton.2 (Layout.fills_setting rfl (recovers_text room m)))
      (List.pairwise_singleton _ _) h rfl

theorem IsDocument.recovers {d : Document} {t : Texture} (h : IsDocument d t) (room : Nat) :
    Recovers layout.record (room + 2) d t := by
  have hempty : ∀ field ∈ layout.fields, field.isSet layout.empty = false :=
    List.forall_mem_cons.2 ⟨rfl, List.forall_mem_singleton.2 rfl⟩
  have hurl (url : String) : layout.Fills (room + 1)
      (.setting "url" (.string url) (fun d s => { d with url := some s }) url) :=
    Layout.fills_setting rfl (recovers_text _ url)
  have hremarks {r : Document} {m : Option String}
      (hr : Recovers (optional remarks.record) (room + 1) r m) : layout.Fills (room + 1)
      (.setting "metadata" r (fun d m => { d with model := some m }) m) :=
    Layout.fills_setting rfl hr
  cases h with
  | bare h =>
    exact layout.recovers_record _ hempty (List.forall_mem_singleton.2 (hurl _))
      (List.pairwise_singleton _ _) h rfl
  | null h =>
    exact layout.recovers_record _ hempty
      (List.forall_mem_cons.2 ⟨hurl _, List.forall_mem_singleton.2 (hremarks (recovers_null _ _))⟩)
      (List.pairwise_pair.2 ⟨fun _ => rfl, fun _ => rfl, fun _ => rfl⟩) h rfl
  | remarked hr h =>
    have hsome := (hr.recovers room).some hr.ne_null
    exact layout.recovers_record _ hempty
      (List.forall_mem_cons.2 ⟨hurl _, List.forall_mem_singleton.2 (hremarks hsome)⟩)
      (List.pairwise_pair.2 ⟨fun _ => rfl, fun _ => rfl, fun _ => rfl⟩) h rfl

end Texture

/-- The document describes the skin: the model is named slim exactly if the arms are. -/
def Skin.IsDocument (d : Document) (s : Skin) : Prop :=
  ∃ model, Texture.IsDocument d ⟨s.url, model⟩ ∧ (s.slim = true ↔ model = some "slim")

/-- The document describes the cape, whose model does not count. -/
def Cape.IsDocument (d : Document) (c : Cape) : Prop :=
  ∃ model, Texture.IsDocument d ⟨c.url, model⟩

theorem Skin.IsDocument.exists_texture {d : Document} {s : Skin} (h : IsDocument d s) :
    ∃ t, Texture.IsDocument d t ∧ Profile.skinOf t = s := by
  obtain ⟨model, ht, hslim⟩ := h
  have hmodel : (model == some "slim") = s.slim := by
    rw [Bool.eq_iff_iff, beq_iff_eq, hslim]
  exact ⟨_, ht, congrArg (Skin.mk s.url) hmodel⟩

theorem Cape.IsDocument.exists_texture {d : Document} {c : Cape} (h : IsDocument d c) :
    ∃ t, Texture.IsDocument d t ∧ (⟨t.url⟩ : Cape) = c := by
  obtain ⟨model, ht⟩ := h
  exact ⟨_, ht, rfl⟩

namespace Textures

/-- The members that describe what there may be, under a name. -/
inductive IsSlot {α : Type} (name : String) (describes : Document → α → Prop) :
    List (String × Document) → Option α → Prop
  /-- Without a member there is nothing. -/
  | absent : IsSlot name describes [] .none
  /-- Nor is there with the member `null`. -/
  | null : IsSlot name describes [(name, .null)] .none
  /-- Otherwise the member describes it. -/
  | given {d : Document} {a : α} (h : describes d a) : IsSlot name describes [(name, d)] (some a)

/-- The document describes the skin and the cape. -/
def IsDocument (d : Document) (skin : Option Skin) (cape : Option Cape) : Prop :=
  ∃ skins capes, IsSlot "SKIN" Skin.IsDocument skins skin ∧
    IsSlot "CAPE" Cape.IsDocument capes cape ∧ d.IsObject ["SKIN", "CAPE"] (skins ++ capes)

/-- The document is what a property holds for the skin and the cape. -/
def IsPayload (d : Document) (skin : Option Skin) (cape : Option Cape) : Prop :=
  ∃ pictures, IsDocument pictures skin cape ∧ d.IsObject ["textures"] [("textures", pictures)]

/-- The members of a slot are none, or one that comes to a picture or none. -/
theorem IsSlot.cases {α : Type} {name : String} {describes : Document → α → Prop}
    {ms : List (String × Document)} {a : Option α} (h : IsSlot name describes ms a) {f : Texture → α}
    (hf : ∀ d a, describes d a → ∃ t, Texture.IsDocument d t ∧ f t = a) (room : Nat) :
    ms = [] ∧ a = .none ∨ ∃ d t, ms = [(name, d)] ∧ t.map f = a ∧
      Recovers (optional Texture.layout.record) (room + 2) d t := by
  cases h with
  | absent => exact .inl ⟨rfl, rfl⟩
  | null => exact .inr ⟨_, .none, rfl, rfl, recovers_null _ _⟩
  | @given d a h =>
    obtain ⟨t, ht, rfl⟩ := hf d a h
    exact .inr ⟨d, some t, rfl, rfl, (ht.recovers room).some ht.ne_null⟩

/-- A skin and a cape are recovered as the pictures that make them. -/
theorem IsDocument.recovers {d : Document} {skin : Option Skin} {cape : Option Cape}
    (h : IsDocument d skin cape) (room : Nat) : ∃ t : Textures,
      Recovers layout.record (room + 3) d t ∧ t.skin.map Profile.skinOf = skin ∧
        t.cape.map (fun c => (⟨c.url⟩ : Cape)) = cape := by
  have hempty : ∀ field ∈ layout.fields, field.isSet layout.empty = false :=
    List.forall_mem_cons.2 ⟨rfl, List.forall_mem_singleton.2 rfl⟩
  have hskinFills {d : Document} {t : Option Texture}
      (ht : Recovers (optional Texture.layout.record) (room + 2) d t) :
      layout.Fills (room + 2) (.setting "SKIN" d (fun d t => { d with skin := some t }) t) :=
    Layout.fills_setting rfl ht
  have hcapeFills {d : Document} {t : Option Texture}
      (ht : Recovers (optional Texture.layout.record) (room + 2) d t) :
      layout.Fills (room + 2) (.setting "CAPE" d (fun d t => { d with cape := some t }) t) :=
    Layout.fills_setting rfl ht
  obtain ⟨skins, capes, hskin, hcape, hd⟩ := h
  have hskins := hskin.cases (fun _ _ hs => hs.exists_texture) room
  have hcapes := hcape.cases (fun _ _ hc => hc.exists_texture) room
  obtain ⟨rfl, rfl⟩ | ⟨ds, s, rfl, rfl, hs⟩ := hskins
  · obtain ⟨rfl, rfl⟩ | ⟨dc, c, rfl, rfl, hc⟩ := hcapes
    · exact ⟨⟨.none, .none⟩, layout.recovers_record [] hempty (List.forall_mem_nil _) .nil hd rfl,
        rfl, rfl⟩
    · exact ⟨⟨.none, c⟩, layout.recovers_record _ hempty
        (List.forall_mem_singleton.2 (hcapeFills hc)) (List.pairwise_singleton _ _) hd rfl, rfl, rfl⟩
  · obtain ⟨rfl, rfl⟩ | ⟨dc, c, rfl, rfl, hc⟩ := hcapes
    · exact ⟨⟨s, .none⟩, layout.recovers_record _ hempty
        (List.forall_mem_singleton.2 (hskinFills hs)) (List.pairwise_singleton _ _) hd rfl, rfl, rfl⟩
    · exact ⟨⟨s, c⟩, layout.recovers_record _ hempty
        (List.forall_mem_cons.2 ⟨hskinFills hs, List.forall_mem_singleton.2 (hcapeFills hc)⟩)
        (List.pairwise_pair.2 ⟨fun _ => rfl, fun _ => rfl, fun _ => rfl⟩) hd rfl, rfl, rfl⟩

/-- What a property holds is recovered as the pictures that make the skin and the cape. -/
theorem IsPayload.recovers {d : Document} {skin : Option Skin} {cape : Option Cape}
    (h : IsPayload d skin cape) (room : Nat) : ∃ t : Textures,
      Recovers payload.record (room + 4) d t ∧ t.skin.map Profile.skinOf = skin ∧
        t.cape.map (fun c => (⟨c.url⟩ : Cape)) = cape := by
  obtain ⟨pictures, hpictures, hd⟩ := h
  obtain ⟨t, ht, hskin, hcape⟩ := hpictures.recovers room
  refine ⟨t, ?_, hskin, hcape⟩
  exact payload.recovers_record [.setting "textures" pictures (fun _ t => some t) t]
    (List.forall_mem_singleton.2 rfl)
    (List.forall_mem_singleton.2 (Layout.fills_setting rfl ht))
    (List.pairwise_singleton _ _) hd rfl

end Textures

/-! ### Profiles -/

/-- The document describes the property. -/
def Property.IsDocument (d : Document) (p : Property) : Prop :=
  d.IsObject ["name", "value"] [("name", .string p.name), ("value", .string p.value)]

theorem Property.IsDocument.recovers {d : Document} {p : Property} (h : IsDocument d p)
    (room : Nat) : Recovers layout.record (room + 1) d p := by
  have hname : layout.Fills room
      (.setting "name" (.string p.name) (fun d s => { d with name := some s }) p.name) :=
    Layout.fills_setting rfl (recovers_text room p.name)
  have hvalue : layout.Fills room
      (.setting "value" (.string p.value) (fun d s => { d with value := some s }) p.value) :=
    Layout.fills_setting rfl (recovers_text room p.value)
  exact layout.recovers_record _ (List.forall_mem_cons.2 ⟨rfl, List.forall_mem_singleton.2 rfl⟩)
    (List.forall_mem_cons.2 ⟨hname, List.forall_mem_singleton.2 hvalue⟩)
    (List.pairwise_pair.2 ⟨fun _ => rfl, fun _ => rfl, fun _ => rfl⟩) h rfl

namespace SessionProfile

/-- The names that the members of a profile have. -/
def names : List String := ["id", "name", "properties"]

/-- The document describes the profile; the properties may be left out if there are none. -/
inductive IsDocument (d : Document) : SessionProfile → Prop
  /-- There are no properties. -/
  | bare {id name : String}
    (h : d.IsObject names [("id", .string id), ("name", .string name)]) :
    IsDocument d ⟨id, name, []⟩
  /-- The properties are listed. -/
  | listed {id name : String} {ds : List Document} {ps : List Property}
    (hps : List.Forall₂ Property.IsDocument ds ps)
    (h : d.IsObject names
      [("id", .string id), ("name", .string name), ("properties", .array ds)]) :
    IsDocument d ⟨id, name, ps⟩

theorem IsDocument.recovers {d : Document} {s : SessionProfile} (h : IsDocument d s) (room : Nat) :
    Recovers layout.record (room + 3) d s := by
  have hempty : ∀ field ∈ layout.fields, field.isSet layout.empty = false :=
    List.forall_mem_cons.2 ⟨rfl, List.forall_mem_cons.2 ⟨rfl, List.forall_mem_singleton.2 rfl⟩⟩
  have hid (id : String) : layout.Fills (room + 2)
      (.setting "id" (.string id) (fun d s => { d with id := some s }) id) :=
    Layout.fills_setting rfl (recovers_text _ id)
  have hname (name : String) : layout.Fills (room + 2)
      (.setting "name" (.string name) (fun d s => { d with name := some s }) name) :=
    Layout.fills_setting rfl (recovers_text _ name)
  cases h with
  | bare h =>
    exact layout.recovers_record _ hempty
      (List.forall_mem_cons.2 ⟨hid _, List.forall_mem_singleton.2 (hname _)⟩)
      (List.pairwise_pair.2 ⟨fun _ => rfl, fun _ => rfl, fun _ => rfl⟩) h rfl
  | @listed id name ds ps hps h =>
    have hlist : Recovers (list Property.layout.record) (room + 2) (.array ds) ps :=
      recovers_list (hps.imp fun _ _ hp => hp.recovers room)
    have hproperties : layout.Fills (room + 2)
        (.setting "properties" (.array ds) (fun d ps => { d with properties := some ps }) ps) :=
      Layout.fills_setting rfl hlist
    refine layout.recovers_record _ hempty
      (List.forall_mem_cons.2 ⟨hid _, List.forall_mem_cons.2 ⟨hname _,
        List.forall_mem_singleton.2 hproperties⟩⟩) ?_ h rfl
    refine List.pairwise_cons.2 ⟨List.forall_mem_cons.2 ⟨?_, List.forall_mem_singleton.2 ?_⟩,
      List.pairwise_pair.2 ?_⟩
    all_goals exact ⟨fun _ => rfl, fun _ => rfl, fun _ => rfl⟩

end SessionProfile

namespace Profile

/-- The document describes the profile: without a property for textures it has no pictures, and
else the first such property holds them, in Base64 that blanks may surround. -/
inductive IsSession (d : Document) : Profile → Prop
  /-- No property is for textures. -/
  | plain {s : SessionProfile} (hd : SessionProfile.IsDocument d s) (hid : s.id ≠ "")
    (hname : s.name ≠ "") (hlacks : ∀ q ∈ s.properties, q.name ≠ "textures") :
    IsSession d ⟨s.id, s.name, .none, .none⟩
  /-- The first property for textures holds some. -/
  | pictured {id name : String} {skin : Option Skin} {cape : Option Cape} (hid : id ≠ "")
    (hname : name ≠ "") {payload : Document} (hpayload : Textures.IsPayload payload skin cape)
    {bytes : Bytes} (hbytes : payload.IsText bytes) {left right : List Char}
    (hleft : ∀ c ∈ left, isBlank c = true) (hright : ∀ c ∈ right, isBlank c = true)
    {before after : List Property} (hbefore : ∀ q ∈ before, q.name ≠ "textures")
    (hd : SessionProfile.IsDocument d ⟨id, name, before ++
      ⟨"textures", String.ofList (left ++ (Base64.encode bytes).toList ++ right)⟩ :: after⟩) :
    IsSession d ⟨id, name, skin, cape⟩

end Profile

/-! ### Every profile can be written -/

theorem Skin.exists_document (s : Skin) : ∃ d, IsDocument d s ∧ d.HasText := by
  obtain ⟨url, slim⟩ := s
  have hurl := Document.hasText_string url
  cases slim with
  | true =>
    have hremarks : (Document.object [("model", .string "slim")]).HasText :=
      Document.hasText_object (List.forall_mem_singleton.2 (Document.hasText_string _))
    exact ⟨_, ⟨some "slim", .remarked (.model (Document.isObject_object _ _))
        (Document.isObject_object _ _), iff_of_true rfl rfl⟩,
      Document.hasText_object (List.forall_mem_cons.2 ⟨hurl, List.forall_mem_singleton.2 hremarks⟩)⟩
  | false =>
    exact ⟨_, ⟨none, .bare (Document.isObject_object _ _), iff_of_false nofun nofun⟩,
      Document.hasText_object (List.forall_mem_singleton.2 hurl)⟩

theorem Cape.exists_document (c : Cape) : ∃ d, IsDocument d c ∧ d.HasText :=
  ⟨_, ⟨none, .bare (Document.isObject_object _ _)⟩,
    Document.hasText_object (List.forall_mem_singleton.2 (Document.hasText_string c.url))⟩

namespace Textures

theorem exists_slot {α : Type} {describes : Document → α → Prop}
    (h : ∀ a, ∃ d, describes d a ∧ d.HasText) (name : String) (a : Option α) :
    ∃ ms, IsSlot name describes ms a ∧ ∀ m ∈ ms, m.2.HasText := by
  cases a with
  | none => exact ⟨[], .absent, List.forall_mem_nil _⟩
  | some a =>
    obtain ⟨d, hd, htext⟩ := h a
    exact ⟨_, .given hd, List.forall_mem_singleton.2 htext⟩

theorem exists_payload (skin : Option Skin) (cape : Option Cape) :
    ∃ d, IsPayload d skin cape ∧ d.HasText := by
  obtain ⟨skins, hskins, hskinText⟩ := exists_slot Skin.exists_document "SKIN" skin
  obtain ⟨capes, hcapes, hcapeText⟩ := exists_slot Cape.exists_document "CAPE" cape
  have hpictures : (Document.object (skins ++ capes)).HasText :=
    Document.hasText_object (List.forall_mem_append.2 ⟨hskinText, hcapeText⟩)
  exact ⟨_, ⟨_, ⟨skins, capes, hskins, hcapes, Document.isObject_object _ _⟩,
    Document.isObject_object _ _⟩, Document.hasText_object (List.forall_mem_singleton.2 hpictures)⟩

end Textures

theorem Property.exists_document (p : Property) : ∃ d, IsDocument d p ∧ d.HasText :=
  ⟨_, Document.isObject_object _ _, Document.hasText_object (List.forall_mem_cons.2
    ⟨Document.hasText_string _, List.forall_mem_singleton.2 (Document.hasText_string _)⟩)⟩

/-- **Every profile with an identifier and a name has a text**, with its pictures in a property. -/
theorem Profile.exists_session {p : Profile} (hid : p.id ≠ "") (hname : p.name ≠ "") :
    ∃ d body, IsSession d p ∧ d.IsText body := by
  obtain ⟨payload, hpayload, hpayloadText⟩ := Textures.exists_payload p.skin p.cape
  obtain ⟨bytes, hbytes⟩ := hpayloadText.exists_isText
  obtain ⟨q, hq, hqText⟩ := Property.exists_document
    ⟨"textures", String.ofList ([] ++ (Base64.encode bytes).toList ++ [])⟩
  have hlist : (Document.array [q]).HasText :=
    Document.hasText_array (List.forall_mem_singleton.2 hqText)
  have htext : (Document.object [("id", .string p.id), ("name", .string p.name),
      ("properties", .array [q])]).HasText :=
    Document.hasText_object (List.forall_mem_cons.2 ⟨Document.hasText_string p.id,
      List.forall_mem_cons.2 ⟨Document.hasText_string p.name, List.forall_mem_singleton.2 hlist⟩⟩)
  obtain ⟨body, hbody⟩ := htext.exists_isText
  exact ⟨_, body, .pictured hid hname hpayload hbytes (List.forall_mem_nil _) (List.forall_mem_nil _)
    (List.forall_mem_nil _) (.listed (.cons hq .nil) (Document.isObject_object _ _)), hbody⟩

namespace Profile

/-- **Decoding gives back the profile**, whatever text describes it. -/
theorem ofSession?_of_text {d : Document} {p : Profile} (hd : IsSession d p) {body : Bytes}
    (hbody : d.IsText body) : ofSession? body = some p := by
  refine ofSession?_of_described ?_
  cases hd with
  | plain hd hid hname hlacks =>
    have hread := read_of_recovers (hd.recovers 124) hbody
    exact .plain hread hid hname hlacks
  | @pictured id name skin cape hid hname payload hpayload bytes hbytes left right hleft hright
      before after hbefore hd =>
    have hread := read_of_recovers (hd.recovers 124) hbody
    obtain ⟨t, ht, rfl, rfl⟩ := hpayload.recovers 123
    have hdecoded := Base64.decode?_surrounded hbytes.ne_nil hleft hright
    exact .pictured hread hid hname ⟨rfl, before, after, rfl, hbefore⟩ hdecoded
      (read_of_recovers ht hbytes)

/-- A profile with a slim skin and a cape is given back by one of its texts. -/
theorem ofSession?_of_text_slim : ∃ d body,
    IsSession d ⟨"1", "A", some ⟨"s", true⟩, some ⟨"c"⟩⟩ ∧ d.IsText body ∧
      ofSession? body = some ⟨"1", "A", some ⟨"s", true⟩, some ⟨"c"⟩⟩ := by
  obtain ⟨d, body, hd, hbody⟩ :=
    exists_session (p := ⟨"1", "A", some ⟨"s", true⟩, some ⟨"c"⟩⟩) (by decide) (by decide)
  exact ⟨d, body, hd, hbody, ofSession?_of_text hd hbody⟩

end Profile

end SignIn
