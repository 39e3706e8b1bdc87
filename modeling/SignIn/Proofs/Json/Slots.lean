import Mathlib.Data.List.Nodup
import SignIn.Proofs.Json.Meaning
import SignIn.Proofs.Json.Place

/-!
# Records, field by field

What a record takes from an object can be said field by field.  A field looks only at the members of
its own name: it is left unset if there is none, it holds what the value of the only one comes to,
and the object is refused if there are two, or if the value comes to nothing.  Members of other
names are of no consequence, but for one thing: their names have to spell texts.

In which order the members stand is not part of this, and nor is what stands between them.

## Main definitions

* `named` — the values of the members of a name.
* `only?` — what they come to, if one is allowed at most.
* `Slot` — a field, with what its value comes to.
* `Slot.outcome?` — what a field comes to hold.
* `Independent` — fields that are kept apart from one another.
* `Layout.Slotted` — a layout with these fields.

## Main results

* `Layout.Slotted.readsAs` — a record is read by a fold over the members.
* `takeAll?_eq_some_iff` — **the fold comes to a draft exactly if every field does.**
* `toOption_read` — whole texts.
-/

namespace SignIn.Json

open SignIn.Text

variable {α σ : Type}

/-! ### Members by their names -/

/-- The values of the members of a name, in the order in which they stand. -/
def named (name : String) (ms : List (Bytes × Tree)) : List Tree :=
  (ms.filter fun m => spelled? m.1 = some name).map Prod.snd

theorem mem_named_iff {name : String} {ms : List (Bytes × Tree)} {t : Tree} :
    t ∈ named name ms ↔ ∃ m ∈ ms, SpellsAll name.toList m.1 ∧ m.2 = t := by
  simp [named, spelled?_eq_some_iff]

@[simp] theorem named_nil (name : String) : named name [] = [] := rfl

theorem named_cons_self {name : String} {m : Bytes × Tree} (h : spelled? m.1 = some name)
    (ms : List (Bytes × Tree)) : named name (m :: ms) = m.2 :: named name ms := by
  simp [named, h]

theorem named_cons_of_ne {name other : String} {m : Bytes × Tree} (h : spelled? m.1 = some other)
    (hne : other ≠ name) (ms : List (Bytes × Tree)) : named name (m :: ms) = named name ms := by
  simp [named, h, hne]

theorem named_eq_nil_iff {ms : List (Bytes × Tree)} {name : String} :
    named name ms = [] ↔ ∀ m ∈ ms, ¬ SpellsAll name.toList m.1 := by
  rw [List.eq_nil_iff_forall_not_mem]
  simp only [mem_named_iff]
  constructor
  · intro h m hm hname
    exact h m.2 ⟨m, hm, hname, rfl⟩
  · rintro h t ⟨m, hm, hname, -⟩
    exact h m hm hname

theorem named_append (name : String) (ms ms' : List (Bytes × Tree)) :
    named name (ms ++ ms') = named name ms ++ named name ms' := by
  simp [named]

theorem named_perm {ms ms' : List (Bytes × Tree)} (h : ms.Perm ms') (name : String) :
    (named name ms).Perm (named name ms') :=
  (h.filter _).map _

theorem named_sublist {ms ms' : List (Bytes × Tree)} (h : ms.Sublist ms') (name : String) :
    (named name ms).Sublist (named name ms') :=
  (h.filter _).map _

/-- Lists of the same values are the same, unless there are two values or more. -/
theorem eq_or_two_le_of_perm {ts ts' : List Tree} (h : ts.Perm ts') :
    ts = ts' ∨ 2 ≤ ts.length ∧ 2 ≤ ts'.length := by
  rcases ts with _ | ⟨t, _ | ⟨t', ts⟩⟩
  · exact .inl (List.nil_perm.1 h).symm
  · exact .inl (List.singleton_perm.1 h)
  · have htwo : 2 ≤ (t :: t' :: ts).length := Nat.le_add_left 2 ts.length
    exact .inr ⟨htwo, h.length_eq ▸ htwo⟩

/-- What the members of a name come to: so much if there is none, and what the only one comes to. -/
def only? (b : α) (value? : Tree → Option α) : List Tree → Option α
  | [] => some b
  | [t] => value? t
  | _ => none

theorem only?_of_two {ts : List Tree} (h : 2 ≤ ts.length) (b : α) (value? : Tree → Option α) :
    only? b value? ts = none := by
  rcases ts with _ | ⟨t, _ | ⟨t', ts⟩⟩
  · cases h
  · exact absurd h (Nat.not_succ_le_self 1)
  · rfl

theorem only?_perm {ts ts' : List Tree} (h : ts.Perm ts') (b : α) (value? : Tree → Option α) :
    only? b value? ts = only? b value? ts' := by
  obtain rfl | ⟨htwo, htwo'⟩ := eq_or_two_le_of_perm h
  · rfl
  · rw [only?_of_two htwo, only?_of_two htwo']

/-! ### Fields -/

/-- A field of a draft, with what its value comes to. -/
structure Slot (σ : Type) where
  /-- What the field holds. -/
  Content : Type
  /-- The name of its member. -/
  name : String
  /-- What a draft holds in it. -/
  get : σ → Option Content
  /-- A draft that holds this in it. -/
  set : σ → Content → σ
  /-- The reader of its value. -/
  reader : Reader Content
  /-- What its value comes to. -/
  value? : Tree → Option Content

namespace Slot

/-- The field of a layout. -/
def field (slot : Slot σ) : Field σ := .of slot.name slot.get slot.set slot.reader true

/-- What a field that holds so much holds after these values: it is set once at most. -/
def outcome? (slot : Slot σ) (o : Option slot.Content) (ts : List Tree) :
    Option (Option slot.Content) :=
  ts.foldlM (fun o t => if o.isSome then none else (slot.value? t).map some) o

variable {slot : Slot σ}

@[simp] theorem outcome?_nil (o : Option slot.Content) : slot.outcome? o [] = some o := rfl

@[simp] theorem outcome?_some_cons (b : slot.Content) (t : Tree) (ts : List Tree) :
    slot.outcome? (some b) (t :: ts) = none := rfl

theorem outcome?_none_cons (t : Tree) (ts : List Tree) :
    slot.outcome? none (t :: ts) = (slot.value? t).bind fun b => slot.outcome? (some b) ts := by
  rw [outcome?, List.foldlM_cons]
  cases slot.value? t <;> rfl

@[simp] theorem outcome?_none_singleton (t : Tree) :
    slot.outcome? none [t] = (slot.value? t).map some := by
  rw [outcome?_none_cons]
  cases slot.value? t <;> rfl

/-- A second value is never taken. -/
theorem outcome?_of_two {ts : List Tree} (h : 2 ≤ ts.length) (o : Option slot.Content) :
    slot.outcome? o ts = none := by
  rcases ts with _ | ⟨t, _ | ⟨t', ts⟩⟩
  · cases h
  · exact absurd h (Nat.not_succ_le_self 1)
  · cases o with
    | some b => rfl
    | none =>
      rw [outcome?_none_cons]
      cases slot.value? t <;> rfl

/-- A field that is read with a default holds what its members come to. -/
theorem only?_eq_some_iff (slot : Slot σ) {b a : slot.Content} {ts : List Tree} :
    only? b slot.value? ts = some a ↔ ∃ o, slot.outcome? none ts = some o ∧ o.getD b = a := by
  have honly : only? b slot.value? ts = (slot.outcome? none ts).map (·.getD b) := by
    rcases ts with _ | ⟨t, _ | ⟨t', ts⟩⟩
    · rfl
    · rw [outcome?_none_singleton, Option.map_map]
      exact Option.map_id'.symm
    · have htwo : 2 ≤ (t :: t' :: ts).length := Nat.le_add_left 2 ts.length
      rw [outcome?_of_two htwo, only?_of_two htwo]
      rfl
  rw [honly, Option.map_eq_some_iff]

end Slot

/-- What a member of a name does to a draft: it goes into the field of its name, unless this is set
already, or it is passed over. -/
def take? (slots : List (Slot σ)) (draft : σ) (name : String) (t : Tree) : Option σ :=
  match slots.find? (·.name == name) with
  | none => some draft
  | some slot => if (slot.get draft).isSome then none else (slot.value? t).map (slot.set draft)

/-- The members, one after the other. -/
def takeAll? (slots : List (Slot σ)) (draft : σ) (ms : List (Bytes × Tree)) : Option σ :=
  ms.foldlM (fun draft m => (spelled? m.1).bind fun name => take? slots draft name m.2) draft

/-- Fields that are kept apart from one another. -/
structure Independent (slots : List (Slot σ)) : Prop where
  /-- No two have the same name. -/
  nodup : (slots.map Slot.name).Nodup
  /-- What is put into a field is in it. -/
  get_set : ∀ slot ∈ slots, ∀ draft b, slot.get (slot.set draft b) = some b
  /-- And it changes no other one. -/
  get_of_ne : ∀ slot ∈ slots, ∀ other ∈ slots, slot.name ≠ other.name → ∀ draft b,
    other.get (slot.set draft b) = other.get draft
  /-- There is no more to a draft than its fields. -/
  ext : ∀ draft draft', (∀ slot ∈ slots, slot.get draft = slot.get draft') → draft = draft'

section

variable {slots : List (Slot σ)}

/-- After a member was taken, every field still has to take the others. -/
theorem outcome?_of_take? (h : Independent slots) {draft draft' : σ} {m : Bytes × Tree}
    {name : String} (hname : spelled? m.1 = some name)
    (htake : take? slots draft name m.2 = some draft') {slot : Slot σ} (hslot : slot ∈ slots)
    (ms : List (Bytes × Tree)) :
    slot.outcome? (slot.get draft) (named slot.name (m :: ms)) =
      slot.outcome? (slot.get draft') (named slot.name ms) := by
  unfold take? at htake
  split at htake
  · rename_i hfind
    obtain rfl := Option.some.inj htake
    have hne : slot.name ≠ name := by simpa using List.find?_eq_none.1 hfind slot hslot
    rw [named_cons_of_ne hname hne.symm]
  · rename_i own hfind
    have hown : own ∈ slots := List.mem_of_find?_eq_some hfind
    obtain rfl : own.name = name := by simpa using List.find?_some hfind
    split at htake
    · cases htake
    rename_i hunset
    obtain ⟨b, hb, rfl⟩ := Option.map_eq_some_iff.1 htake
    by_cases heq : own.name = slot.name
    · -- the member is the one of the field
      obtain rfl := List.inj_on_of_nodup_map h.nodup hown hslot heq
      have hget : own.get draft = none := by simpa using hunset
      rw [named_cons_self hname, hget, Slot.outcome?_none_cons, hb, h.get_set own hown]
      rfl
    · rw [named_cons_of_ne hname heq, h.get_of_ne own hown slot hslot heq]

/-- If a member is not taken, some field fails. -/
theorem outcome?_of_take?_none {draft : σ} {m : Bytes × Tree} {name : String}
    (hname : spelled? m.1 = some name) (htake : take? slots draft name m.2 = none) :
    ∃ slot ∈ slots, ∀ ms : List (Bytes × Tree),
      slot.outcome? (slot.get draft) (named slot.name (m :: ms)) = none := by
  unfold take? at htake
  split at htake
  · cases htake
  rename_i slot hfind
  obtain rfl : slot.name = name := by simpa using List.find?_some hfind
  refine ⟨slot, List.mem_of_find?_eq_some hfind, fun ms => ?_⟩
  rw [named_cons_self hname]
  split at htake
  · rename_i hset
    obtain ⟨b, hb⟩ := Option.isSome_iff_exists.1 hset
    rw [hb, Slot.outcome?_some_cons]
  · rename_i hunset
    have hget : slot.get draft = none := by simpa using hunset
    rw [hget, Slot.outcome?_none_cons, Option.map_eq_none_iff.1 htake]
    rfl

theorem takeAll?_cons (draft : σ) (m : Bytes × Tree) (ms : List (Bytes × Tree)) :
    takeAll? slots draft (m :: ms) = (spelled? m.1).bind fun name =>
      (take? slots draft name m.2).bind fun draft => takeAll? slots draft ms := by
  rw [takeAll?, List.foldlM_cons]
  cases spelled? m.1 <;> rfl

/-- **The members come to a draft exactly if every name spells a text, and every field comes to hold
what the draft has in it.** -/
theorem takeAll?_eq_some_iff (h : Independent slots) {draft draft' : σ}
    {ms : List (Bytes × Tree)} :
    takeAll? slots draft ms = some draft' ↔
      (∀ m ∈ ms, ∃ s : String, SpellsAll s.toList m.1) ∧
        ∀ slot ∈ slots, slot.outcome? (slot.get draft) (named slot.name ms) =
          some (slot.get draft') := by
  induction ms generalizing draft with
  | nil =>
    simp only [List.not_mem_nil, false_implies, implies_true, true_and, named_nil,
      Slot.outcome?_nil, Option.some.injEq, takeAll?, List.foldlM_nil]
    constructor
    · intro heq slot _
      rw [Option.some.inj heq]
    · intro heq
      exact congrArg some (h.ext draft draft' heq)
  | cons m ms ih =>
    rw [takeAll?_cons, List.forall_mem_cons]
    cases hname : spelled? m.1 with
    | none =>
      -- the name spells no text
      refine iff_of_false nofun ?_
      rintro ⟨⟨⟨s, hs⟩, -⟩, -⟩
      rw [spelled?_eq_some_iff.2 hs] at hname
      cases hname
    | some name =>
      have hspelled : ∃ s : String, SpellsAll s.toList m.1 :=
        ⟨name, spelled?_eq_some_iff.1 hname⟩
      rw [and_iff_right hspelled, Option.bind_some]
      cases htake : take? slots draft name m.2 with
      | none =>
        -- the member is refused, and so is what its field comes to
        obtain ⟨slot, hslot, hfails⟩ := outcome?_of_take?_none hname htake
        refine iff_of_false nofun ?_
        rintro ⟨-, hall⟩
        have hsome := hall slot hslot
        rw [hfails] at hsome
        cases hsome
      | some next =>
        rw [Option.bind_some, ih]
        refine and_congr_right fun _ => forall₂_congr fun slot hslot => ?_
        rw [outcome?_of_take? h hname htake hslot]

end

/-! ### Layouts -/

/-- A layout with these fields. -/
structure Layout.Slotted (layout : Layout σ α) (room : Nat) (slots : List (Slot σ)) : Prop where
  /-- They are its fields. -/
  fields : layout.fields = slots.map Slot.field
  /-- The reader of each makes of a tree what the field says. -/
  reads : ∀ slot ∈ slots, ∀ t, ReadsAs slot.reader room t (slot.value? t)

namespace Layout

variable {layout : Layout σ α} {room : Nat} {slots : List (Slot σ)}

theorem Slotted.find? (h : layout.Slotted room slots) (name : String) :
    layout.fields.find? (·.name == name) = (slots.find? (·.name == name)).map Slot.field := by
  rw [h.fields, List.find?_map]
  rfl

/-- A member does to a draft what its value comes to. -/
theorem Slotted.member (h : layout.Slotted room slots) (draft : σ) (name : String) {t : Tree}
    {text gap gap' : Bytes} (htext : (Part.value t).IsText text) (hgap : IsGap gap)
    (hgap' : IsGap gap') :
    Gives (fun rest => layout.member room draft name (gap ++ 0x3A :: (gap' ++ (text ++ rest))))
      (take? slots draft name t) := by
  intro rest hrest
  have hcolon : colon (gap ++ 0x3A :: (gap' ++ (text ++ rest))) = .ok (gap' ++ (text ++ rest)) :=
    colon_eq_ok_iff.2 ⟨gap, hgap, rfl⟩
  dsimp only
  rw [Layout.member, take?, h.find?]
  cases hfind : slots.find? (·.name == name) with
  | none =>
    -- a member of another name is passed over
    dsimp only [Option.map_none]
    rw [hcolon]
    change (skipValue (gap' ++ (text ++ rest)) >>= fun bs => pure (draft, bs)).toOption = _
    rw [skipValue_part htext hgap' hrest]
    rfl
  | some slot =>
    have hread := h.reads slot (List.mem_of_find?_eq_some hfind) t text htext gap' hgap' rest hrest
    have hset : slot.field.isSet draft = (slot.get draft).isSome := rfl
    dsimp only [Option.map_some] at hread ⊢
    rw [hset]
    split
    · rfl
    rw [hcolon]
    change ((slot.reader room (gap' ++ (text ++ rest))).map
      fun p => (slot.set draft p.1, p.2)).toOption = _
    rw [toOption_map, hread]
    cases slot.value? t <;> rfl

/-- **A record is read by a fold over the members.** -/
theorem Slotted.readsAs (h : layout.Slotted room slots) (ms : List (Bytes × Tree)) :
    ReadsAs layout.record (room + 1) (.object ms)
      ((takeAll? slots layout.empty ms).bind fun draft => (layout.make draft).toOption) := by
  intro text htext gap hgap rest hrest
  cases htext with
  | @object _ inner hinner =>
    have hwalk := foldMembers_part (f := take? slots)
      (fun _ _ draft name _ _ _ htext hgap hgap' => h.member draft name htext hgap hgap') hinner
      (n := (inner ++ rest).length + 1) (by rw [List.length_append]; omega) layout.empty rest
    dsimp only [List.cons_append]
    rw [record, skipBlanks_gap hgap (by decide)]
    dsimp only
    rw [if_neg (by decide), if_pos rfl, enter]
    refine toOption_settleObject ?_
    rw [made, toOption_bind, hwalk]
    change ((takeAll? slots layout.empty ms).map _).bind _ = _
    cases takeAll? slots layout.empty ms with
    | none => rfl
    | some draft =>
      dsimp only [Option.map_some, Option.bind_some]
      cases layout.make draft <;> rfl

end Layout

/-- A whole text is read as its tree is. -/
theorem toOption_read {reader : Reader α} {t : Tree} {o : Option α}
    (h : ReadsAs reader depthLimit t o) {bytes : Bytes} (htext : t.IsText bytes) :
    (read reader bytes).toOption = o := by
  obtain ⟨gap, text, gap', hgap, hgap', htext, rfl⟩ := htext
  have hrest : Ends gap' := by
    have hends := ends_nil.append_gap hgap'
    rwa [List.append_nil] at hends
  have hread : (reader depthLimit (gap ++ (text ++ gap'))).toOption = o.map (·, gap') :=
    h text htext gap hgap gap' hrest
  refine Option.ext fun a => ?_
  rw [toOption_eq_some_iff, read_eq_ok_iff]
  simp only [← toOption_eq_some_iff, hread, Option.map_eq_some_iff, Prod.mk.injEq]
  constructor
  · rintro ⟨_, ⟨a', ha, rfl, rfl⟩, -⟩
    exact ha
  · intro ha
    exact ⟨gap', ⟨a, ha, rfl, rfl⟩, List.dropWhile_eq_nil_iff.2 hgap'⟩

end SignIn.Json
