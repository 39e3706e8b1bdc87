import SignIn.Json.Read

/-!
# Reading records

A record is read from an object, member by member in any order, or from a list of
its fields in their fixed order.  Unknown members are passed over; a known member
must not occur twice.  While a record is read it is a *draft* in which some fields
are still unset; at the end the draft either makes a record or lacks a field.

## Main definitions

* `Field` — one field of a draft and how it is read.
* `Layout` — the fields of a record and what a finished draft makes.
* `Layout.record` — the reader of the record.
-/

namespace SignIn.Json

open SignIn.Text

/-- One field of a draft of type `σ`. -/
structure Field (σ : Type) where
  /-- The name of its member. -/
  name : String
  /-- Whether it has been read already. -/
  isSet : σ → Bool
  /-- Reads its value into the draft. -/
  read : σ → Reader σ
  /-- Whether a list may end before it. -/
  omissible : Bool

/-- The fields of a record of type `α`, drafted in `σ`. -/
structure Layout (σ α : Type) where
  /-- What messages call the record. -/
  title : String
  /-- The draft with no field set. -/
  empty : σ
  /-- The fields, in the order of the list form. -/
  fields : List (Field σ)
  /-- The record that a draft makes, or what it lacks. -/
  make : σ → Except Cause α

/-- A field whose value is kept as an option in the draft. -/
def Field.of {σ β : Type} (name : String) (get : σ → Option β) (set : σ → β → σ)
    (value : Reader β) (omissible : Bool) : Field σ where
  name := name
  isSet draft := (get draft).isSome
  read draft room bs := (value room bs).map fun (b, rest) => (set draft b, rest)
  omissible := omissible

/-- A field that has to be set. -/
def required {α : Type} (name : String) : Option α → Except Cause α
  | some a => .ok a
  | none => .error (.missingField name)

namespace Layout

variable {σ α : Type}

/-- The words for a record as a list. -/
def listTitle (layout : Layout σ α) : String :=
  let n := layout.fields.length
  layout.title ++ " with " ++ toString n ++ (if n = 1 then " element" else " elements")

/-- Reads a member into a draft, from after its name. -/
def member (layout : Layout σ α) (room : Nat) (draft : σ) (name : String) (bs : Bytes) :
    Except Fault (σ × Bytes) :=
  match layout.fields.find? (·.name == name) with
  | none => do
    let bs ← skipValue (← colon bs)
    return (draft, bs)
  | some field =>
    if field.isSet draft then .error (.unlocated (.duplicateField name) bs)
    else do field.read draft room (← colon bs)

/-- Reads the elements of the list form, from the field number `index` on. -/
def elements (layout : Layout σ α) (room : Nat) :
    List (Field σ) → Nat → Bool → σ → Bytes → Except Fault (σ × Bytes)
  | [], _, _, draft, bs => .ok (draft, bs)
  | field :: fields, index, first, draft, bs => do
    let (more, bs) ← nextElement first bs
    if more then
      let (draft, bs) ← field.read draft room bs
      elements layout room fields (index + 1) false draft bs
    else if field.omissible then elements layout room fields (index + 1) first draft bs
    else throw (.unlocated (.wrongLength index layout.listTitle) bs)

/-- The record that a draft makes; what it lacks is a fault where `bs` is left. -/
def made (layout : Layout σ α) (r : Except Fault (σ × Bytes)) : Except Fault (α × Bytes) := do
  let (draft, bs) ← r
  match layout.make draft with
  | .ok a => return (a, bs)
  | .error c => throw (.unlocated c bs)

/-- The reader of the record. -/
def record (layout : Layout σ α) : Reader α := fun room bs =>
  match skipBlanks bs with
  | [] => .error (.ahead .endInValue [])
  | b :: rest =>
    if b = 0x5B then
      enter room b rest fun room =>
        settleList (layout.made (layout.elements room layout.fields 0 true layout.empty rest))
    else if b = 0x7B then
      enter room b rest fun room =>
        settleObject (layout.made
          (foldMembers (layout.member room) (rest.length + 1) true layout.empty rest))
    else .error (wrongKind layout.title (b :: rest))

end Layout

end SignIn.Json
