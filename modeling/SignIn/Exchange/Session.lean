import SignIn.Account
import SignIn.Base64
import SignIn.Json.Record

/-!
# The answer of the session server

The session server describes a profile by its identifier, its name and a list of
properties.  One property, if present, holds the textures: a JSON text of its own,
written in Base64.

## Main definitions

* `SessionProfile`, `Textures` — the two texts.
* `Textures.ofProperty?` — the textures that a property holds.
* `Profile.ofSession?` — the profile that an answer describes.
-/

namespace SignIn

open SignIn.Json SignIn.Text

/-- A property of a profile. -/
structure Property where
  /-- What the property is. -/
  name : String
  /-- What it holds. -/
  value : String
  deriving DecidableEq, Repr

/-- A profile as the session server describes it. -/
structure SessionProfile where
  /-- The identifier. -/
  id : String
  /-- The name. -/
  name : String
  /-- The properties, in order. -/
  properties : List Property
  deriving DecidableEq, Repr

/-- A picture. -/
structure Texture where
  /-- Where it is. -/
  url : String
  /-- The model that it is made for, if the server says so. -/
  model : Option String
  deriving DecidableEq, Repr

/-- The pictures of a player. -/
structure Textures where
  /-- The skin, if there is one. -/
  skin : Option Texture
  /-- The cape, if there is one. -/
  cape : Option Texture
  deriving DecidableEq, Repr

namespace Property

/-- A partly read property. -/
structure Draft where
  /-- The name, once read. -/
  name : Option String
  /-- The value, once read. -/
  value : Option String

/-- How properties are read. -/
def layout : Layout Draft Property where
  title := "struct ProfileProperty"
  empty := ⟨none, none⟩
  fields := [
    .of "name" (·.name) (fun d s => { d with name := some s }) Json.text false,
    .of "value" (·.value) (fun d s => { d with value := some s }) Json.text false]
  make d := do return ⟨← required "name" d.name, ← required "value" d.value⟩

end Property

namespace SessionProfile

/-- A partly read profile. -/
structure Draft where
  /-- The identifier, once read. -/
  id : Option String
  /-- The name, once read. -/
  name : Option String
  /-- The properties, once read. -/
  properties : Option (List Property)

/-- How profiles are read. -/
def layout : Layout Draft SessionProfile where
  title := "struct SessionProfile"
  empty := ⟨none, none, none⟩
  fields := [
    .of "id" (·.id) (fun d s => { d with id := some s }) Json.text false,
    .of "name" (·.name) (fun d s => { d with name := some s }) Json.text false,
    .of "properties" (·.properties) (fun d ps => { d with properties := some ps })
      (list Property.layout.record) true]
  make d := do
    return ⟨← required "id" d.id, ← required "name" d.name, d.properties.getD []⟩

end SessionProfile

namespace Texture

/-- How the remarks on a picture are read: the model is all that counts, and it is the
empty text when it is left out. -/
def remarks : Layout (Option String) String where
  title := "struct TextureMetadata"
  empty := none
  fields := [.of "model" (fun d => d) (fun _ s => some s) Json.text true]
  make d := .ok (d.getD "")

/-- A partly read picture. -/
structure Draft where
  /-- Where it is, once read. -/
  url : Option String
  /-- The model, once the remarks are read. -/
  model : Option (Option String)

/-- How pictures are read. -/
def layout : Layout Draft Texture where
  title := "struct TextureEntry"
  empty := ⟨none, none⟩
  fields := [
    .of "url" (·.url) (fun d s => { d with url := some s }) Json.text false,
    .of "metadata" (·.model) (fun d m => { d with model := some m })
      (optional remarks.record) true]
  make d := do return ⟨← required "url" d.url, d.model.getD none⟩

end Texture

namespace Textures

/-- No pictures. -/
def none : Textures := ⟨.none, .none⟩

/-- Partly read pictures. -/
structure Draft where
  /-- The skin, once read. -/
  skin : Option (Option Texture)
  /-- The cape, once read. -/
  cape : Option (Option Texture)

/-- How pictures are read. -/
def layout : Layout Draft Textures where
  title := "struct Textures"
  empty := ⟨.none, .none⟩
  fields := [
    .of "SKIN" (·.skin) (fun d t => { d with skin := some t })
      (optional Texture.layout.record) false,
    .of "CAPE" (·.cape) (fun d t => { d with cape := some t })
      (optional Texture.layout.record) false]
  make d := .ok ⟨d.skin.getD .none, d.cape.getD .none⟩

/-- How the text around the pictures is read. -/
def payload : Layout (Option Textures) Textures where
  title := "struct TexturesPayload"
  empty := .none
  fields := [.of "textures" (fun d => d) (fun _ t => some t) layout.record true]
  make d := .ok (d.getD none)

/-- The pictures that the value of a property holds; blanks around it do not count. -/
def ofProperty? (value : String) : Option Textures := do
  let bytes ← Base64.decode? (trim value)
  (read payload.record bytes).toOption

end Textures

namespace Profile

/-- The skin that a picture is; the arms are slim if the model says so. -/
def skinOf (t : Texture) : Skin := ⟨t.url, t.model == some "slim"⟩

/-- Gives a profile its pictures. -/
def withTextures (p : Profile) (t : Textures) : Profile :=
  { p with skin := t.skin.map skinOf, cape := t.cape.map fun c => ⟨c.url⟩ }

/-- The profile that a description gives: it needs an identifier and a name, and the
first property named for textures has to hold some. -/
def ofDescription? (s : SessionProfile) : Option Profile :=
  if s.id = "" ∨ s.name = "" then .none
  else
    match s.properties.find? (·.name == "textures") with
    | .none => some (plain s.id s.name)
    | some p => (Textures.ofProperty? p.value).map (plain s.id s.name).withTextures

/-- The profile that an answer describes. -/
def ofSession? (body : Bytes) : Option Profile := do
  ofDescription? (← (read SessionProfile.layout.record body).toOption)

end Profile

end SignIn
