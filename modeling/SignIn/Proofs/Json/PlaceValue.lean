import Mathlib.Data.List.Forall2
import SignIn.Proofs.Json.Place

/-!
# Places in records and values

The readers of records, of any values and of lists come to places by their walks, and what they make
of a text depends on each such place.  A record comes in two forms, and both are covered: as an
object, whose members stand in any order with unknown ones between them, and as a list of its
fields.

What is read of the place goes into a draft, so two readings of the text go on from two drafts; they
come to the same if what the drafts have in common stays so.

## Main definitions

* `Layout.ComesTo` — the places that the reader of a record comes to.
* `Layout.Keeps` — what two drafts have in common stays so.
* `HasMember`, `HasElement`, `HasItem` — the places in objects and lists.

## Main results

* `Layout.ComesTo.hosts` — records.
* `HasMember.hosts`, `HasElement.hosts` — any objects and lists.
* `HasItem.hosts` — lists of values of one kind.
* `Hosts.optional` — values that may be missing.
-/

namespace SignIn.Json

open SignIn.Text

variable {α β σ : Type}

/-! ### Records -/

/-- A field is read locally if its value is. -/
theorem Field.local_of {name : String} {get : σ → Option β} {set : σ → β → σ} {value : Reader β}
    {omissible : Bool} (hvalue : ∀ room, LocalRead (value room)) (draft : σ) (room : Nat) :
    LocalRead ((Field.of name get set value omissible).read draft room) :=
  (hvalue room).map (g := set draft) fun _ _ => rfl

/-- Where a field is read, its value is. -/
theorem Field.hosts_of {name : String} {get : σ → Option β} {set : σ → β → σ} {value : Reader β}
    {omissible : Bool} {draft : σ} {room : Nat} {r : Bytes → Except Fault (α × Bytes)}
    {R : α → α → Prop} {bs place : Bytes}
    (h : Hosts r R ((Field.of name get set value omissible).read draft room) Eq bs place) :
    Hosts r R (value room) Eq bs place :=
  h.value (f := set draft) (fun _ _ => congrArg (set draft)) fun _ _ => rfl

namespace Layout

variable {layout : Layout σ α} {R : σ → σ → Prop}

/-- The walk over the list form of a record comes to the value of a field, with a draft so far. -/
inductive FieldAt (room : Nat) (draft' : σ) (field' : Field σ) :
    List (Field σ) → Bool → σ → Bytes → Bytes → Prop
  /-- It stands next. -/
  | here {first : Bool} {fields : List (Field σ)} {bs value : Bytes}
    (next : nextElement first bs = .ok (true, value)) :
    FieldAt room draft' field' (field' :: fields) first draft' bs value
  /-- It comes after the next field. -/
  | later {first : Bool} {field : Field σ} {fields : List (Field σ)} {draft draft₁ : σ}
    {bs mid bs₁ value : Bytes} (next : nextElement first bs = .ok (true, mid))
    (read : field.read draft room mid = .ok (draft₁, bs₁))
    (walk : FieldAt room draft' field' fields false draft₁ bs₁ value) :
    FieldAt room draft' field' (field :: fields) first draft bs value

/-- The reader of a record comes to the value of a field, with a draft so far and with room for so
many containers inside. -/
inductive ComesTo (layout : Layout σ α) (room : Nat) (draft : σ) (field : Field σ) :
    Bytes → Bytes → Prop
  /-- In the form of an object. -/
  | member {bs inner value : Bytes} {name : String} (opens : skipBlanks bs = 0x7B :: inner)
    (walk : MemberAt (layout.member room) name true layout.empty inner draft value)
    (found : layout.fields.find? (·.name == name) = some field)
    (unset : field.isSet draft = false) : ComesTo layout room draft field bs value
  /-- In the form of a list. -/
  | element {bs inner value : Bytes} (opens : skipBlanks bs = 0x5B :: inner)
    (walk : FieldAt room draft field layout.fields true layout.empty inner value) :
    ComesTo layout room draft field bs value

theorem FieldAt.mem {room : Nat} {draft draft' : σ} {field' : Field σ} {fields : List (Field σ)}
    {first : Bool} {bs value : Bytes}
    (h : FieldAt room draft' field' fields first draft bs value) : field' ∈ fields := by
  induction h with
  | here => exact List.mem_cons_self
  | later _ _ _ ih => exact List.mem_cons_of_mem _ ih

theorem ComesTo.mem {room : Nat} {draft : σ} {field : Field σ} {bs value : Bytes}
    (h : layout.ComesTo room draft field bs value) : field ∈ layout.fields := by
  cases h with
  | member _ _ found => exact List.mem_of_find?_eq_some found
  | element _ walk => exact walk.mem

/-- A field is the one that its name finds, if no other field has its name. -/
theorem find?_eq_some_of_mem {fields : List (Field σ)} (hnames : (fields.map (·.name)).Nodup)
    {field : Field σ} (hmem : field ∈ fields) {name : String} (hname : field.name = name) :
    fields.find? (·.name == name) = some field := by
  induction fields with
  | nil => cases hmem
  | cons f fields ih =>
    rw [List.map_cons, List.nodup_cons] at hnames
    rw [List.find?_cons]
    obtain rfl | hmem := List.mem_cons.1 hmem
    · simp [hname]
    · have hne : (f.name == name) = false := beq_false_of_ne fun h =>
        hnames.1 (List.mem_map.2 ⟨field, hmem, hname.trans h.symm⟩)
      rw [hne, ih hnames.2 hmem]

/-- What two drafts have in common stays so when a field is read into both. -/
structure Keeps (R : σ → σ → Prop) (field : Field σ) : Prop where
  /-- The field is set in both, or in neither. -/
  isSet {draft draft' : σ} : R draft draft' → field.isSet draft' = field.isSet draft
  /-- It may be read into both. -/
  read {draft draft' : σ} (room : Nat) (bs : Bytes) : R draft draft' →
    Follows R (field.read draft room bs) (field.read draft' room bs)

theorem Keeps.eq (field : Field σ) : Keeps Eq field :=
  ⟨fun h => by rw [h], fun _ _ h => h ▸ .refl _⟩

theorem Keeps.of {β : Type} {name : String} {get : σ → Option β} {set : σ → β → σ}
    {value : Reader β} {omissible : Bool}
    (hget : ∀ draft draft', R draft draft' → (get draft').isSome = (get draft).isSome)
    (hset : ∀ draft draft' b, R draft draft' → R (set draft b) (set draft' b)) :
    Keeps R (.of name get set value omissible) := by
  refine ⟨fun h => hget _ _ h, fun {draft draft'} room bs h => ?_⟩
  have hsame (b b' : β) (hb : b = b') : R (set draft b) (set draft' b') :=
    hb ▸ hset draft draft' b h
  exact (Follows.refl _).map hsame (fun _ _ => rfl) fun _ _ => rfl

theorem member_follows (hkeeps : ∀ field ∈ layout.fields, Keeps R field) (room : Nat)
    {draft draft' : σ} (name : String) (bs : Bytes) (h : R draft draft') :
    Follows R (layout.member room draft name bs) (layout.member room draft' name bs) := by
  rw [member, member]
  cases hfield : layout.fields.find? (·.name == name) with
  | none =>
    -- an unknown member is passed over
    intro a rest hread
    obtain ⟨value, hcolon, hread⟩ := bind_eq_ok_iff.1 hread
    obtain ⟨mid, hskip, hread⟩ := bind_eq_ok_iff.1 hread
    obtain ⟨rfl, rfl⟩ := Prod.mk.inj (Except.ok.inj hread)
    exact ⟨draft', h, bind_eq_ok_iff.2 ⟨value, hcolon, bind_eq_ok_iff.2 ⟨mid, hskip, rfl⟩⟩⟩
  | some field =>
    have hkeep := hkeeps field (List.mem_of_find?_eq_some hfield)
    dsimp only
    rw [hkeep.isSet h]
    split
    · intro _ _ h
      cases h
    · intro a rest hread
      obtain ⟨value, hcolon, hread⟩ := bind_eq_ok_iff.1 hread
      obtain ⟨a', hR, hread'⟩ := hkeep.read room value h a rest hread
      exact ⟨a', hR, bind_eq_ok_iff.2 ⟨value, hcolon, hread'⟩⟩

theorem elements_follows (room : Nat) {fields : List (Field σ)}
    (hkeeps : ∀ field ∈ fields, Keeps R field) (index : Nat) (first : Bool) {draft draft' : σ}
    (h : R draft draft') (bs : Bytes) :
    Follows R (layout.elements room fields index first draft bs)
      (layout.elements room fields index first draft' bs) := by
  induction fields generalizing index first draft draft' bs with
  | nil =>
    intro a rest ha
    obtain ⟨rfl, rfl⟩ := Prod.mk.inj (Except.ok.inj ha)
    exact ⟨draft', h, rfl⟩
  | cons field fields ih =>
    obtain ⟨hfield, hfields⟩ := List.forall_mem_cons.1 hkeeps
    refine (Follows.refl (nextElement first bs)).bind fun more _ rest hmore => ?_
    subst hmore
    cases more with
    | true =>
      exact (hfield.read room rest h).bind fun t t' rest ht => ih hfields (index + 1) false ht rest
    | false =>
      simp only [Bool.false_eq_true, if_false]
      split
      · exact ih hfields (index + 1) first h rest
      · exact nofun

variable (layout) in
theorem FieldAt.depends {room : Nat} {draft draft' : σ} {field' : Field σ} {fields : List (Field σ)}
    {first : Bool} {bs value : Bytes}
    (hlocal : ∀ field ∈ fields, ∀ draft, LocalRead (field.read draft room))
    (hkeeps : ∀ field ∈ fields, Keeps R field)
    (h : FieldAt room draft' field' fields first draft bs value) (index : Nat) :
    ∃ front, bs = front ++ value ∧ (first = false → front ≠ []) ∧
      ∀ value', Replaces value value' →
        Depends R R (layout.elements room fields index first draft bs)
          (layout.elements room fields index first draft (front ++ value'))
          (field'.read draft' room value) (field'.read draft' room value') := by
  induction h generalizing index with
  | @here first fields bs value next =>
    obtain ⟨front, hbs, hne, hnext⟩ := replace_nextElement next
    refine ⟨front, hbs, hne, fun value' hr => ?_⟩
    rw [elements, elements, next, hnext value' hr]
    exact .bind fun t t' rest ht => elements_follows room
      (List.forall_mem_cons.1 hkeeps).2 (index + 1) false ht rest
  | @later first field fields draft draft₁ bs mid bs₁ value next read walk ih =>
    obtain ⟨front, rfl, hnext⟩ := local_nextElement first true bs mid next
    obtain ⟨front₁, rfl, hread⟩ := hlocal field List.mem_cons_self draft draft₁ mid bs₁ read
    obtain ⟨front₂, rfl, hne, hdepends⟩ := ih (List.forall_mem_cons.1 hlocal).2
      (List.forall_mem_cons.1 hkeeps).2 (index + 1)
    refine ⟨front ++ (front₁ ++ front₂), by simp, fun _ => by simp [hne rfl], fun value' hr => ?_⟩
    -- up to there, everything is read as it was
    have hresumes := hr.resumes (hne rfl)
    have hread' := hread _ hresumes
    have hnext' := hnext _ (hresumes.append front₁)
    rw [List.append_assoc, List.append_assoc, elements, elements, next, hnext']
    change Depends R R (field.read draft room _ >>= _) (field.read draft room _ >>= _) _ _
    rw [read, hread']
    exact hdepends value' hr

theorem made_depends {Q : α → α → Prop}
    (hmake : ∀ draft draft' a, R draft draft' → layout.make draft = .ok a →
      ∃ a', Q a a' ∧ layout.make draft' = .ok a') {x x' : Except Fault (σ × Bytes)} :
    Depends Q R (layout.made x) (layout.made x') x x' := by
  refine .bind fun draft draft' rest hR a rest' h => ?_
  dsimp only at h
  split at h
  · rename_i hmade
    obtain ⟨rfl, rfl⟩ := Prod.mk.inj (Except.ok.inj h)
    obtain ⟨a', hQ, hmade'⟩ := hmake draft draft' _ hR hmade
    exact ⟨a', hQ, by simp only [hmade']; rfl⟩
  · cases h

/-- **What is made of a record** depends on the value of a field that its reader comes to. -/
theorem ComesTo.hosts {room : Nat} {draft : σ} {field : Field σ} {bs value : Bytes}
    (h : layout.ComesTo room draft field bs value) (hlocal : layout.IsLocal)
    (hkeeps : ∀ field ∈ layout.fields, Keeps R field) {Q : α → α → Prop}
    (hmake : ∀ draft draft' a, R draft draft' → layout.make draft = .ok a →
      ∃ a', Q a a' ∧ layout.make draft' = .ok a') :
    Hosts (layout.record (room + 1)) Q (field.read draft room) R bs value := by
  cases h with
  | @member _ _ name opens walk found unset =>
    -- the walk leads to the field that the name finds
    have hread (after value : Bytes) (hcolon : colon after = .ok value) :
        layout.member room draft name after = field.read draft room value := by
      rw [Layout.member, found]
      dsimp only
      rw [unset, if_neg Bool.false_ne_true, hcolon]
      rfl
    obtain ⟨front, hinner, hdepends⟩ := walk.depends_length (local_member hlocal room)
      (fun _ _ name bs hR => member_follows hkeeps room name bs hR) (field.read draft room) hread
    refine Hosts.of_opens opens (fun inner => settleObject (layout.made
      (foldMembers (layout.member room) (inner.length + 1) true layout.empty inner))) ?_
      ⟨front, hinner, ?_⟩
    · intro bs inner hopens
      rw [record, hopens]
      rfl
    · intro value' hr
      exact (Depends.settleObject.trans (made_depends hmake)).trans (hdepends value' hr)
  | element opens walk =>
    obtain ⟨front, hinner, -, hdepends⟩ := walk.depends layout
      (fun field hf draft => hlocal field hf draft room) hkeeps 0
    refine Hosts.of_opens opens (fun inner => settleList (layout.made
      (layout.elements room layout.fields 0 true layout.empty inner))) ?_ ⟨front, hinner, ?_⟩
    · intro bs inner hopens
      rw [record, hopens]
      rfl
    · intro value' hr
      exact (Depends.settleList.trans (made_depends hmake)).trans (hdepends value' hr)

end Layout

/-! ### Any values -/

/-- The reader of any value comes to a member of an object, with some members so far and with room
for so many containers inside. -/
def HasMember (room : Nat) (name : String) (ms : List (String × Value)) (bs value : Bytes) : Prop :=
  ∃ inner, skipBlanks bs = 0x7B :: inner ∧
    MemberAt (anyMember (anyValue room)) name true [] inner ms value

/-- The reader of any value comes to an element of a list, with some elements so far. -/
def HasElement (room : Nat) (vs : List Value) (bs value : Bytes) : Prop :=
  ∃ inner, skipBlanks bs = 0x5B :: inner ∧
    ElementAt (anyElement (anyValue room)) true [] inner vs value

/-- The reader of a list comes to an element. -/
def HasItem (item : Reader α) (room : Nat) (xs : List α) (bs value : Bytes) : Prop :=
  ∃ inner, skipBlanks bs = 0x5B :: inner ∧
    ElementAt (fun xs bs => (item room bs).map fun (x, r) => (x :: xs, r)) true [] inner xs value

section

variable {room : Nat} {bs value : Bytes} {R Q : Value → Value → Prop}

/-- **What is made of an object** depends on a member of it. -/
theorem HasMember.hosts {name : String} {ms : List (String × Value)}
    (h : HasMember room name ms bs value)
    {M : List (String × Value) → List (String × Value) → Prop}
    (hput : ∀ ms ms' name v, M ms ms' → M (put name v ms) (put name v ms'))
    (hname : ∀ v v', R v v' → M (put name v ms) (put name v' ms))
    (hobject : ∀ ms ms', M ms ms' → Q (.object ms) (.object ms')) :
    Hosts (anyValue (room + 1)) Q (anyValue room) R bs value := by
  obtain ⟨inner, opens, walk⟩ := h
  have hstep (ms ms' : List (String × Value)) (name : String) (bs : Bytes) (hM : M ms ms') :
      Follows M (anyMember (anyValue room) ms name bs) (anyMember (anyValue room) ms' name bs) := by
    intro a rest hread
    obtain ⟨after, hcolon, hread⟩ := bind_eq_ok_iff.1 hread
    obtain ⟨⟨v, mid⟩, hv, hread⟩ := bind_eq_ok_iff.1 hread
    obtain ⟨rfl, rfl⟩ := Prod.mk.inj (Except.ok.inj hread)
    have hread' : anyMember (anyValue room) ms' name bs = .ok (put name v ms', mid) :=
      bind_eq_ok_iff.2 ⟨after, hcolon, bind_eq_ok_iff.2 ⟨_, hv, rfl⟩⟩
    exact ⟨_, hput ms ms' name v hM, hread'⟩
  have hread (after value : Bytes) (hcolon : colon after = .ok value) :
      anyMember (anyValue room) ms name after =
        anyValue room value >>= fun r => .ok (put name r.1 ms, r.2) := by
    rw [anyMember, hcolon]
    rfl
  obtain ⟨front, hinner, hdepends⟩ := walk.depends_length
    (local_anyMember (local_anyValue room)) hstep
    (fun bs => anyValue room bs >>= fun r => .ok (put name r.1 ms, r.2)) hread
  refine Hosts.of_opens opens (fun inner => (settleObject (foldMembers (anyMember (anyValue room))
    (inner.length + 1) true [] inner)).map fun p => (.object p.1, p.2)) ?_ ⟨front, hinner, ?_⟩
  · intro bs inner hopens
    rw [anyValue, hopens]
    rfl
  · intro value' hr
    have hput' (v v' : Value) (rest : Bytes) (hv : R v v') :
        Follows M (.ok (put name v ms, rest)) (.ok (put name v' ms, rest)) := by
      rintro _ _ ⟨rfl, rfl⟩
      exact ⟨_, hname v v' hv, rfl⟩
    have hwalk := (hdepends value' hr).trans (.bind hput')
    exact (Depends.map hobject fun _ _ => rfl).trans (Depends.settleObject.trans hwalk)

/-- **What is made of a list of any values** depends on an element of it. -/
theorem HasElement.hosts {vs : List Value} (h : HasElement room vs bs value)
    (hR : ∀ v, R v v)
    (harray : ∀ vs vs', List.Forall₂ R vs vs' → Q (.array vs) (.array vs')) :
    Hosts (anyValue (room + 1)) Q (anyValue room) R bs value := by
  obtain ⟨inner, opens, walk⟩ := h
  have hcons (v v' : Value) (vs vs' : List Value) (rest : Bytes) (hv : R v v')
      (hvs : List.Forall₂ R vs vs') :
      Follows (List.Forall₂ R) (.ok (v :: vs, rest)) (.ok (v' :: vs', rest)) := by
    rintro _ _ ⟨rfl, rfl⟩
    exact ⟨_, .cons hv hvs, rfl⟩
  have hstep (vs vs' : List Value) (bs : Bytes) (hvs : List.Forall₂ R vs vs') :
      Follows (List.Forall₂ R) (anyElement (anyValue room) vs bs)
        (anyElement (anyValue room) vs' bs) :=
    (Follows.refl (anyValue room bs)).bind fun v v' rest hv =>
      hcons v v' vs vs' rest (hv ▸ hR v) hvs
  obtain ⟨front, hinner, hdepends⟩ := walk.depends_length
    (local_anyElement (local_anyValue room)) hstep
  refine Hosts.of_opens opens (fun inner => (settleList (foldElements (anyElement (anyValue room))
    (inner.length + 1) true [] inner)).map fun p => (.array p.1.reverse, p.2)) ?_
    ⟨front, hinner, ?_⟩
  · intro bs inner hopens
    rw [anyValue, hopens]
    rfl
  · intro value' hr
    have hvs : List.Forall₂ R vs vs := List.forall₂_same.2 fun v _ => hR v
    have hwalk := (hdepends value' hr).trans
      (.bind fun v v' rest hv => hcons v v' vs vs rest hv hvs)
    have harray' (vs vs' : List Value) (hvs : List.Forall₂ R vs vs') :
        Q (.array vs.reverse) (.array vs'.reverse) := harray _ _ (List.rel_reverse hvs)
    exact (Depends.map harray' fun _ _ => rfl).trans (Depends.settleList.trans hwalk)

end

/-- **What is made of a list** depends on an element of it. -/
theorem HasItem.hosts {item : Reader α} (hlocal : ∀ room, LocalRead (item room)) {room : Nat}
    {xs : List α} {bs value : Bytes} (h : HasItem item room xs bs value) :
    Hosts (list item (room + 1)) Eq (item room) Eq bs value := by
  obtain ⟨inner, opens, walk⟩ := h
  have hstep (xs : List α) : LocalRead fun bs => (item room bs).map fun p => (p.1 :: xs, p.2) :=
    (hlocal room).map (g := (· :: xs)) fun _ _ => rfl
  obtain ⟨front, hinner, hdepends⟩ := walk.depends_length (R := Eq) hstep
    fun _ _ _ h => h ▸ .refl _
  refine Hosts.of_opens opens (fun inner => (settleList (foldElements
    (fun xs bs => (item room bs).map fun p => (p.1 :: xs, p.2)) (inner.length + 1) true []
      inner)).map fun p => (p.1.reverse, p.2)) ?_ ⟨front, hinner, ?_⟩
  · intro bs inner hopens
    rw [list, hopens]
    rfl
  · intro value' hr
    have hwalk := (hdepends value' hr).trans
      (.map (f := (· :: xs)) (fun _ _ hx => congrArg (· :: xs) hx) fun _ _ => rfl)
    exact (Depends.map (fun _ _ hxs => congrArg List.reverse hxs) fun _ _ => rfl).trans
      (Depends.settleList.trans hwalk)

/-- Behind something else than blanks, it makes no difference to them what stands there. -/
theorem head?_skipBlanks {front : Bytes} (h : ¬ IsGap front) (bs bs' : Bytes) :
    (skipBlanks (front ++ bs)).head? = (skipBlanks (front ++ bs')).head? := by
  have hne : front.dropWhile isBlankByte ≠ [] := by
    intro hnil
    exact h (List.dropWhile_eq_nil_iff.1 hnil)
  obtain ⟨b, tail, htail⟩ := List.exists_cons_of_ne_nil hne
  rw [skipBlanks, skipBlanks, List.dropWhile_append, List.dropWhile_append, htail]
  rfl

theorem optional_of_ne {value : Reader α} {room : Nat}
    (hblanks : ∀ bs, value room (skipBlanks bs) = value room bs) {bs : Bytes}
    (hhead : (skipBlanks bs).head? ≠ some 0x6E) :
    optional value room bs = (value room bs).map fun (a, r) => (some a, r) := by
  rw [optional]
  split
  · rename_i h
    rw [h] at hhead
    exact (hhead rfl).elim
  · rw [hblanks]

/-- A value that may be missing, where it is not. -/
theorem Hosts.optional {value : Reader α} {room : Nat} {R : α → α → Prop}
    {q : Bytes → Except Fault (β × Bytes)} {Q : β → β → Prop} {bs place : Bytes}
    (h : Hosts (value room) R q Q bs place)
    (hblanks : ∀ bs, value room (skipBlanks bs) = value room bs)
    (hhead : (skipBlanks bs).head? ≠ some 0x6E) {S : Option α → Option α → Prop}
    (hS : ∀ a a', R a a' → S (some a) (some a')) : Hosts (optional value room) S q Q bs place := by
  obtain ⟨front, rfl, hgap, hdepends⟩ := h
  refine ⟨front, rfl, hgap, fun place' hr => ?_⟩
  have hhead' : (skipBlanks (front ++ place')).head? ≠ some 0x6E := by
    rwa [head?_skipBlanks hgap place' place]
  rw [optional_of_ne hblanks hhead, optional_of_ne hblanks hhead']
  exact (Depends.map hS fun _ _ => rfl).trans (hdepends place' hr)

/-! ### Records of which nothing changes -/

namespace Layout

variable {layout : Layout σ α} {room : Nat} {draft : σ} {field : Field σ} {bs value : Bytes}

/-- What is made of a record is the same if the value of a field is. -/
theorem ComesTo.hosts_eq (h : layout.ComesTo room draft field bs value) (hlocal : layout.IsLocal) :
    Hosts (layout.record (room + 1)) Eq (field.read draft room) Eq bs value :=
  h.hosts hlocal (fun field _ => .eq field) fun _ _ a hd hmake => ⟨a, rfl, hd ▸ hmake⟩

theorem ComesTo.opens (h : layout.ComesTo room draft field bs value) :
    (skipBlanks bs).head? ≠ some 0x6E := by
  cases h with
  | member opens => simp [opens]
  | element opens => simp [opens]

theorem record_skipBlanks (bs : Bytes) :
    layout.record room (skipBlanks bs) = layout.record room bs := by
  rw [record, record, skipBlanks_skipBlanks]

/-- The same for a record that may be missing. -/
theorem ComesTo.hosts_optional (h : layout.ComesTo room draft field bs value)
    (hlocal : layout.IsLocal) :
    Hosts (Json.optional layout.record (room + 1)) Eq (field.read draft room) Eq bs value :=
  (h.hosts_eq hlocal).optional record_skipBlanks h.opens fun _ _ => congrArg some

end Layout

end SignIn.Json
