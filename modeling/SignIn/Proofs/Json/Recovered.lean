import Mathlib.Data.List.Forall2
import Mathlib.Data.List.Pairwise
import Mathlib.Data.List.Perm.Basic
import SignIn.Proofs.Json.Passed
import SignIn.Proofs.Json.Place

/-!
# Documents are read back

A reader recovers a value from a document if it reads the value from every text of the document.
A list is recovered from its elements.  A record is recovered from the members that it knows, in
whatever order they stand and whatever other members stand among them.

What a member does to a draft is kept along with it.  Members of different fields do not get in
each other's way, so the draft at the end does not depend on their order.

## Main definitions

* `Recovers` — a reader recovers a value from a document.
* `Walks` — a walk takes members, whatever text stands for them.
* `Entry` — a member and what it does to a draft.
* `Document.IsObject` — an object with these members and others of other names.

## Main results

* `recovers_text`, `recovers_null`, `Recovers.some`, `recovers_list` — values of one kind.
* `Layout.recovers_record` — records.
* `read_of_recovers` — whole texts.
-/

namespace SignIn.Json

open SignIn.Text

variable {α β σ : Type}

/-- The reader reads the value from every text of the document. -/
def Recovers (reader : Reader α) (room : Nat) (d : Document) (a : α) : Prop :=
  ∀ text, (Piece.value d).IsText text → Reads reader room text a

/-! ### Values of one kind -/

theorem recovers_text (room : Nat) (s : String) : Recovers text room (.string s) s := by
  intro bytes h gap rest hgap _
  cases h with
  | string h =>
    rw [text, textAs, List.cons_append, skipBlanks_gap hgap (by decide), List.append_assoc]
    exact string_spelled h rest

theorem recovers_null (reader : Reader α) (room : Nat) :
    Recovers (optional reader) room .null none := by
  intro bytes h
  cases h
  exact reads_none reader room

/-- Only `null` is read as no value. -/
theorem Recovers.some {reader : Reader α} {room : Nat} {d : Document} {a : α}
    (h : Recovers reader room d a) (hd : d ≠ .null) :
    Recovers (optional reader) room d (some a) := by
  intro bytes htext
  have hread := h bytes htext
  obtain ⟨b, tail, rfl, hb⟩ := htext.head
  exact hread.some hb.noBlank fun hn => hd (hb.null hn)

/-! ### Lists -/

/-- The walk over the elements of a list. -/
theorem foldElements_text {item : Reader α} {room : Nat}
    {step : List α → Bytes → Except Fault (List α × Bytes)}
    (hstep : ∀ xs bs x rest, item room bs = .ok (x, rest) → step xs bs = .ok (x :: xs, rest))
    {ds : List Document} {as : List α} (h : List.Forall₂ (Recovers item room) ds as) {first : Bool}
    {text : Bytes} (htext : (Piece.items first ds).IsText text) {n : Nat} (hn : text.length ≤ n)
    (xs : List α) (rest : Bytes) :
    foldElements step n first xs (text ++ rest) = .ok (as.reverse ++ xs, 0x5D :: rest) := by
  induction h generalizing first text n xs with
  | nil =>
    cases htext with
    | @closeList _ gap hgap =>
      rw [List.length_append, List.length_singleton] at hn
      exact foldElements_close hgap (by omega) first xs rest
  | @cons d a ds as hd _ ih =>
    cases htext with
    | @item _ front part more _ _ hfront hpart hmore =>
      have hends := hmore.ends_items rest
      have hread := hd part hpart [] (more ++ rest) isGap_nil hends
      rw [List.nil_append] at hread
      obtain ⟨b, tail, rfl, hb⟩ := hpart.head
      simp only [List.length_append, List.length_cons] at hn
      obtain ⟨n, rfl⟩ : ∃ k, n = k + 1 := ⟨n - 1, by omega⟩
      have hnext : nextElement first (front ++ (b :: tail ++ more) ++ rest) =
          .ok (true, b :: tail ++ (more ++ rest)) :=
        nextElement_eq_true_iff.2 ⟨front, b, tail ++ (more ++ rest), hfront, hb.noBlank,
          hb.noBracket, rfl, by simp⟩
      rw [foldElements_of_next hnext, hstep xs _ _ _ hread]
      refine (ih hmore (by omega) (a :: xs)).trans ?_
      rw [List.reverse_cons, List.append_assoc, List.singleton_append]

/-- The closing bracket of a list. -/
theorem settleList_ok (a : α) (rest : Bytes) :
    settleList (.ok (a, 0x5D :: rest)) = .ok (a, rest) := rfl

/-- A list is recovered from its elements. -/
theorem recovers_list {item : Reader α} {room : Nat} {ds : List Document} {as : List α}
    (h : List.Forall₂ (Recovers item room) ds as) :
    Recovers (list item) (room + 1) (.array ds) as := by
  intro bytes htext gap rest hgap _
  cases htext with
  | @array _ inner hinner =>
    have hstep (xs : List α) (bs : Bytes) (x : α) (rest : Bytes)
        (hx : item room bs = .ok (x, rest)) :
        ((item room bs).map fun p => (p.1 :: xs, p.2)) = .ok (x :: xs, rest) := by
      rw [hx]
      rfl
    have hfold := foldElements_text hstep h hinner (n := (inner ++ rest).length + 1)
      (by rw [List.length_append]; omega) [] rest
    rw [list, List.cons_append, skipBlanks_gap hgap (by decide)]
    dsimp only
    rw [if_pos rfl, enter]
    refine (congrArg (fun r => (settleList r).map _) hfold).trans ?_
    have hturned : (Except.ok (as.reverse.reverse, rest) : Except Fault _) = .ok (as, rest) := by
      rw [List.reverse_reverse]
    rw [settleList_ok, List.append_nil]
    exact hturned

/-! ### Objects -/

/-- A walk takes the members, whatever text stands for them, from one state to another. -/
inductive Walks (step : σ → String → Bytes → Except Fault (σ × Bytes)) :
    σ → List (String × Document) → σ → Prop
  /-- There is none left. -/
  | nil (s : σ) : Walks step s [] s
  /-- It takes the first, from the colon on, and then the others. -/
  | cons {s s' s'' : σ} {name : String} {d : Document} {ms : List (String × Document)}
    (first : ∀ text gap gap' rest, (Piece.value d).IsText text → IsGap gap → IsGap gap' →
      Ends rest → step s name (gap ++ 0x3A :: (gap' ++ (text ++ rest))) = .ok (s', rest))
    (others : Walks step s' ms s'') : Walks step s ((name, d) :: ms) s''

/-- The walk over the members of an object. -/
theorem foldMembers_text {step : σ → String → Bytes → Except Fault (σ × Bytes)} {s s' : σ}
    {ms : List (String × Document)} (h : Walks step s ms s') {first : Bool} {text : Bytes}
    (htext : (Piece.members first ms).IsText text) {n : Nat} (hn : text.length ≤ n)
    (rest : Bytes) : foldMembers step n first s (text ++ rest) = .ok (s', 0x7D :: rest) := by
  induction h generalizing first text n with
  | nil s =>
    cases htext with
    | @closeObject _ gap hgap =>
      rw [List.length_append, List.length_singleton] at hn
      exact foldMembers_close hgap (by omega) first s rest
  | @cons s s' s'' name d ms hfirst _ ih =>
    cases htext with
    | @member _ front spelled gap gap' part more _ _ _ hfront hname hgap hgap' hpart hmore =>
      have hends := hmore.ends_members rest
      simp only [List.length_append, List.length_cons] at hn
      obtain ⟨n, rfl⟩ : ∃ k, n = k + 1 := ⟨n - 1, by omega⟩
      have hnext := nextName_eq_some_iff.2 ⟨front, _, hfront,
        string_spelled hname (gap ++ 0x3A :: (gap' ++ (part ++ (more ++ rest)))), rfl⟩
      have hstep := hfirst part gap gap' (more ++ rest) hpart hgap hgap' hends
      have hmove : front ++ 0x22 :: (spelled ++ 0x22 :: (gap ++ 0x3A :: (gap' ++ (part ++ more)))) ++
          rest = front ++ 0x22 :: (spelled ++ 0x22 :: (gap ++ 0x3A :: (gap' ++
            (part ++ (more ++ rest))))) := by simp
      rw [hmove, foldMembers_of_next hnext, hstep]
      exact ih hmore (by omega)

/-! ### Records -/

/-- A member, and what it does to a draft. -/
structure Entry (σ : Type) where
  /-- The name of the member. -/
  name : String
  /-- Its value. -/
  value : Document
  /-- What it does to a draft that does not have its field yet. -/
  effect : σ → σ

namespace Entry

/-- A member that sets a field to a value. -/
def setting {β : Type} (name : String) (d : Document) (set : σ → β → σ) (b : β) : Entry σ :=
  ⟨name, d, fun draft => set draft b⟩

/-- The member itself. -/
def member (e : Entry σ) : String × Document := (e.name, e.value)

/-- A member that nobody asked for does nothing. -/
def unknown (m : String × Document) : Entry σ := ⟨m.1, m.2, id⟩

/-- What several members do, one after the other. -/
def effects (es : List (Entry σ)) (draft : σ) : σ := es.foldl (fun draft e => e.effect draft) draft

theorem effects_append_unknown (known : List (Entry σ)) (others : List (String × Document))
    (draft : σ) : effects (known ++ others.map unknown) draft = effects known draft := by
  rw [effects, List.foldl_append, List.foldl_map]
  exact List.foldl_fixed others

end Entry

/-- An object with these members, in whatever order, and others of other names among them. -/
def Document.IsObject (d : Document) (names : List String) (known : List (String × Document)) :
    Prop :=
  ∃ all others, d = .object all ∧ all.Perm (known ++ others) ∧ ∀ m ∈ others, m.1 ∉ names

/-- An object of nothing but these members. -/
theorem Document.isObject_object (names : List String) (ms : List (String × Document)) :
    (Document.object ms).IsObject names ms :=
  ⟨ms, [], rfl, by rw [List.append_nil], List.forall_mem_nil _⟩

namespace Layout

variable {layout : Layout σ α} {room : Nat}

/-- Whether a draft has the field of a name, if there is such a field. -/
def has (layout : Layout σ α) (name : String) (draft : σ) : Bool :=
  ((layout.fields.find? (·.name == name)).map (·.isSet draft)).getD false

/-- A member goes into the field of its name, and there it does what it is said to do. -/
def Fills (layout : Layout σ α) (room : Nat) (e : Entry σ) : Prop :=
  ∃ field, layout.fields.find? (·.name == e.name) = some field ∧
    ∀ draft, Recovers (field.read draft) room e.value (e.effect draft)

/-- A member whose value is recovered goes into its field. -/
theorem fills_setting {β : Type} {name : String} {get : σ → Option β} {set : σ → β → σ}
    {value : Reader β} {omissible : Bool}
    (hfield : layout.fields.find? (·.name == name) = some (.of name get set value omissible))
    {d : Document} {b : β} (h : Recovers value room d b) :
    layout.Fills room (.setting name d set b) := by
  refine ⟨_, hfield, fun draft text htext gap rest hgap hrest => ?_⟩
  have hread := h text htext gap rest hgap hrest
  exact congrArg (Except.map fun p => (set draft p.1, p.2)) hread

/-- Two members do not get in each other's way. -/
structure Apart (layout : Layout σ α) (e f : Entry σ) : Prop where
  /-- Their order does not matter. -/
  commute : ∀ draft, e.effect (f.effect draft) = f.effect (e.effect draft)
  /-- The second does not set the field of the first. -/
  first : ∀ draft, layout.has e.name (f.effect draft) = layout.has e.name draft
  /-- Nor the first that of the second. -/
  second : ∀ draft, layout.has f.name (e.effect draft) = layout.has f.name draft

theorem Apart.symm {e f : Entry σ} (h : layout.Apart e f) : layout.Apart f e :=
  ⟨fun draft => (h.commute draft).symm, h.second, h.first⟩

/-- What a layout does with a member: it goes into its field, or it is passed over. -/
def Handles (layout : Layout σ α) (room : Nat) (e : Entry σ) : Prop :=
  layout.Fills room e ∨ layout.fields.find? (·.name == e.name) = none ∧ e.effect = id

/-- A member is taken by a draft that does not have its field. -/
theorem member_text {e : Entry σ} (h : layout.Handles room e) {draft : σ}
    (hunset : layout.has e.name draft = false) {text gap gap' rest : Bytes}
    (htext : (Piece.value e.value).IsText text) (hgap : IsGap gap) (hgap' : IsGap gap')
    (hrest : Ends rest) :
    layout.member room draft e.name (gap ++ 0x3A :: (gap' ++ (text ++ rest))) =
      .ok (e.effect draft, rest) := by
  have hcolon (bs : Bytes) : colon (gap ++ 0x3A :: bs) = .ok bs :=
    colon_eq_ok_iff.2 ⟨gap, hgap, rfl⟩
  obtain ⟨field, hfield, hreads⟩ | ⟨hnone, hid⟩ := h
  · rw [has, hfield] at hunset
    have hread := hreads draft text htext gap' rest hgap' hrest
    rw [member, hfield]
    dsimp only
    rw [show field.isSet draft = false from hunset, if_neg Bool.false_ne_true, hcolon]
    exact hread
  · rw [member, hnone, hid]
    dsimp only
    rw [hcolon]
    simp only [bind, Except.bind, skipValue_text htext hgap' hrest]
    rfl

/-- The walk over members that do not get in each other's way. -/
theorem walks_members {es : List (Entry σ)} (h : ∀ e ∈ es, layout.Handles room e)
    (hapart : es.Pairwise layout.Apart) {draft : σ}
    (hunset : ∀ e ∈ es, layout.has e.name draft = false) :
    Walks (layout.member room) draft (es.map Entry.member) (Entry.effects es draft) := by
  induction es generalizing draft with
  | nil => exact .nil draft
  | cons e es ih =>
    obtain ⟨hfirst, hothers⟩ := List.pairwise_cons.1 hapart
    refine .cons (fun text gap gap' rest htext hgap hgap' hrest =>
      member_text (h e List.mem_cons_self) (hunset e List.mem_cons_self) htext hgap hgap' hrest) ?_
    refine ih (fun f hf => h f (List.mem_cons_of_mem _ hf)) hothers fun f hf => ?_
    rw [(hfirst f hf).second]
    exact hunset f (List.mem_cons_of_mem _ hf)

/-- What has the members of some entries in another order are the members of these entries in
another order. -/
theorem exists_entries {ms : List (String × Document)} {es : List (Entry σ)}
    (h : ms.Perm (es.map Entry.member)) :
    ∃ es' : List (Entry σ), es'.map Entry.member = ms ∧ es'.Perm es := by
  have hes : List.Forall₂ (fun m (e : Entry σ) => m = e.member) (es.map Entry.member) es := by
    rw [List.forall₂_map_left_iff]
    exact List.forall₂_same.2 fun _ _ => rfl
  obtain ⟨es', hes', hperm⟩ := List.perm_comp_forall₂ h hes
  refine ⟨es', ?_, hperm⟩
  rw [← List.forall₂_eq_eq_eq, List.forall₂_map_left_iff]
  exact hes'.flip.imp fun _ _ h => h.symm

instance : Std.Symm layout.Apart := ⟨fun _ _ h => h.symm⟩

/-- Members that do not get in each other's way come to the same in any order. -/
theorem effects_of_perm {es es' : List (Entry σ)} (h : es'.Perm es)
    (hapart : es'.Pairwise layout.Apart) (draft : σ) :
    Entry.effects es' draft = Entry.effects es draft := by
  refine h.foldl_eq' (fun e he f hf draft => ?_) draft
  by_cases hef : e = f
  · rw [hef]
  · exact ((hapart.forall he hf hef).commute draft).symm

/-- A member that nobody asked for gets in no other's way. -/
theorem apart_unknown {m : String × Document}
    (h : layout.fields.find? (·.name == m.1) = none) (e : Entry σ) :
    layout.Apart e (Entry.unknown m) := by
  have hno (draft : σ) : layout.has m.1 draft = false := by
    rw [has, h]
    rfl
  exact ⟨fun _ => rfl, fun _ => rfl, fun draft => (hno _).trans (hno draft).symm⟩

/-- The members that are known and those that nobody asked for, together. -/
theorem pairwise_apart {known : List (Entry σ)} (hapart : known.Pairwise layout.Apart)
    {others : List (String × Document)}
    (hothers : ∀ m ∈ others, layout.fields.find? (·.name == m.1) = none) :
    (known ++ others.map Entry.unknown).Pairwise layout.Apart := by
  refine List.pairwise_append.2 ⟨hapart, List.pairwise_map.2 ?_, fun e _ f hf => ?_⟩
  · exact List.pairwise_of_forall_mem_list fun m _ m' hm' => apart_unknown (hothers m' hm') _
  · obtain ⟨m, hm, rfl⟩ := List.mem_map.1 hf
    exact apart_unknown (hothers m hm) e

/-- A draft in which no field is set has none. -/
theorem has_empty (h : ∀ field ∈ layout.fields, field.isSet layout.empty = false)
    (name : String) : layout.has name layout.empty = false := by
  rw [has]
  cases hfield : layout.fields.find? (·.name == name) with
  | none => rfl
  | some field => exact h field (List.mem_of_find?_eq_some hfield)

/-- **A record is recovered** from the members that it knows, whatever others there are. -/
theorem recovers_record (known : List (Entry σ)) {d : Document}
    (hempty : ∀ field ∈ layout.fields, field.isSet layout.empty = false)
    (hfills : ∀ e ∈ known, layout.Fills room e) (hapart : known.Pairwise layout.Apart)
    (hobject : d.IsObject (layout.fields.map (·.name)) (known.map Entry.member)) {a : α}
    (hmake : layout.make (Entry.effects known layout.empty) = .ok a) :
    Recovers layout.record (room + 1) d a := by
  obtain ⟨all, others, rfl, hperm, hnames⟩ := hobject
  have hothers : ∀ m ∈ others, layout.fields.find? (·.name == m.1) = none := by
    intro m hm
    refine List.find?_eq_none.2 fun field hfield => ?_
    have hne : field.name ≠ m.1 := fun h => hnames m hm (List.mem_map.2 ⟨field, hfield, h⟩)
    simpa using hne
  -- the members are those of entries that are apart
  have hmembers : known.map Entry.member ++ others =
      (known ++ others.map Entry.unknown).map Entry.member := by
    rw [List.map_append, List.map_map]
    exact congrArg _ (List.map_id' others).symm
  rw [hmembers] at hperm
  obtain ⟨es, rfl, hes⟩ := exists_entries hperm
  have hpairwise : es.Pairwise layout.Apart :=
    (hes.pairwise_iff fun h => h.symm).2 (pairwise_apart hapart hothers)
  have hhandles : ∀ e ∈ es, layout.Handles room e := by
    intro e he
    obtain hknown | hunknown := List.mem_append.1 (hes.mem_iff.1 he)
    · exact .inl (hfills e hknown)
    · obtain ⟨m, hm, rfl⟩ := List.mem_map.1 hunknown
      exact .inr ⟨hothers m hm, rfl⟩
  have hwalks := walks_members hhandles hpairwise fun e _ => has_empty hempty e.name
  have heffects : Entry.effects es layout.empty = Entry.effects known layout.empty := by
    rw [effects_of_perm hes hpairwise, Entry.effects_append_unknown]
  -- and so the walk over them ends with the draft that the known ones make
  intro bytes htext gap rest hgap _
  cases htext with
  | @object _ inner hinner =>
    have hfold := foldMembers_text hwalks hinner (n := (inner ++ rest).length + 1)
      (by rw [List.length_append]; omega) rest
    rw [record, List.cons_append, skipBlanks_gap hgap (by decide)]
    dsimp only
    rw [if_neg (by decide), if_pos rfl, enter, hfold, heffects, made]
    simp only [bind, Except.bind, hmake]
    exact settleObject_ok a rest

end Layout

/-! ### Whole texts -/

/-- **A whole text is read back**, whatever blanks stand around it. -/
theorem read_of_recovers {reader : Reader α} {d : Document} {a : α}
    (h : Recovers reader depthLimit d a) {bytes : Bytes} (htext : d.IsText bytes) :
    read reader bytes = .ok a := by
  obtain ⟨gap, text, gap', hgap, hgap', htext, rfl⟩ := htext
  have hrest : Ends gap' := by
    have hends := ends_nil.append_gap hgap'
    rwa [List.append_nil] at hends
  refine read_eq_ok_iff.2 ⟨gap', h text htext gap gap' hgap hrest, ?_⟩
  exact List.dropWhile_eq_nil_iff.2 hgap'

end SignIn.Json
