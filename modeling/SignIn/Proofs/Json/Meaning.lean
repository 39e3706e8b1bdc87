import SignIn.Proofs.Json.Numeral
import SignIn.Proofs.Json.Spelled

/-!
# What readers make of a text

A reader makes the same of a JSON text whatever blanks stand between its parts and whatever stands
behind it: what it makes depends on the tree alone.  What any value comes to is given by recursion
over the tree, and a reader that accepts values of one kind only makes less of it.

A walk over the parts of a container goes from one state to the next by what its step makes of each
part, so it comes to a fold over the parts.

## Main definitions

* `spelled?` — the text that stands between quotes, if it spells one.
* `Tree.value?` — the value that a tree comes to.
* `ReadsAs` — what a reader makes of a tree, whatever text stands for it.

## Main results

* `spelled?_eq_some_iff` — exactly what spells a text is read as the text.
* `spelled?_half` — half of a surrogate pair spells none.
* `foldElements_part`, `foldMembers_part` — walks are folds over the parts.
* `readsAs_anyValue` — **any value is read as what the tree comes to.**
* `readsAs_text`, `ReadsAs.optional` — values of one kind.
-/

namespace SignIn.Json

open SignIn.Text SignIn.Number

variable {α β σ : Type}

/-! ### Strings -/

/-- The text that stands between quotes, if it spells one. -/
def spelled? (body : Bytes) : Option String :=
  match string (body ++ [0x22]) with
  | .ok (s, []) => some s
  | _ => none

/-- Where a string ends, no other one does. -/
theorem eq_of_append_quote {body body' rest rest' : Bytes} (h : IsBody body) (h' : IsBody body')
    (heq : body ++ 0x22 :: rest = body' ++ 0x22 :: rest') : body = body' ∧ rest = rest' := by
  have hskip := skipString_body h rest
  rw [heq, skipString_body h' rest'] at hskip
  obtain rfl := Except.ok.inj hskip
  exact ⟨List.append_cancel_right heq, rfl⟩

/-- **Exactly what spells a text is read as the text.** -/
theorem spelled?_eq_some_iff {body : Bytes} {s : String} :
    spelled? body = some s ↔ SpellsAll s.toList body := by
  constructor
  · intro h
    unfold spelled? at h
    split at h
    · rename_i s' hs
      obtain rfl := Option.some.inj h
      obtain ⟨body', hbody', heq⟩ := string_eq_ok_iff_spelled.1 hs
      rwa [List.append_cancel_right heq]
    · cases h
  · intro h
    rw [spelled?, string_spelled h []]

@[simp] theorem spelled?_bodyOf (s : String) : spelled? (bodyOf s) = some s :=
  spelled?_eq_some_iff.2 (spellsAll_bodyOf s)

/-- **Half of a surrogate pair** spells no text, although its escape may stand in a string. -/
theorem spelled?_half {a b c d : UInt8} {n : Nat} (hn : hexUnit? a b c d = some n)
    (hhalf : 0xD800 ≤ n ∧ n ≤ 0xDFFF) : spelled? [0x5C, 0x75, a, b, c, d] = none := by
  have herror : ∃ e, stringBytes [0x5C, 0x75, a, b, c, d, 0x22] = .error e := by
    rw [stringBytes.eq_3, hn]
    dsimp only
    by_cases hlow : 0xDC00 ≤ n ∧ n ≤ 0xDFFF
    · exact ⟨_, if_pos hlow⟩
    · -- behind the first half, the string ends before the second one
      rw [if_neg hlow, if_pos (by omega)]
      exact ⟨_, rfl⟩
  obtain ⟨e, he⟩ := herror
  rw [spelled?, string, List.cons_append, List.cons_append, List.cons_append, List.cons_append,
    List.cons_append, List.cons_append, List.nil_append, he]
  rfl

/-- What is written for a text spells no other one. -/
theorem eq_of_spellsAll_bodyOf {s s' : String} (h : SpellsAll s'.toList (bodyOf s)) : s = s' := by
  have hread := spelled?_eq_some_iff.2 h
  rw [spelled?_bodyOf] at hread
  exact Option.some.inj hread

theorem not_spellsAll_bodyOf {s s' : String} (h : s' ≠ s) : ¬ SpellsAll s'.toList (bodyOf s) :=
  fun hs => h (eq_of_spellsAll_bodyOf hs).symm

/-- A string is read as what it spells, whatever stands behind it. -/
theorem toOption_string {body : Bytes} (h : IsBody body) (rest : Bytes) :
    (string (body ++ 0x22 :: rest)).toOption = (spelled? body).map (·, rest) := by
  refine Option.ext fun ⟨s, rest'⟩ => ?_
  simp only [toOption_eq_some_iff, Option.map_eq_some_iff, spelled?_eq_some_iff, Prod.mk.injEq,
    string_eq_ok_iff_spelled]
  constructor
  · rintro ⟨body', hbody', heq⟩
    obtain ⟨rfl, rfl⟩ := eq_of_append_quote h hbody'.isBody heq
    exact ⟨s, hbody', rfl, rfl⟩
  · rintro ⟨s', hs, rfl, rfl⟩
    exact ⟨body, hs, rfl⟩

/-! ### Values -/

mutual

/-- The value that a tree comes to, if so many containers may be opened.  There is none if a string
spells no text, if a number is out of range, or if the tree is too deep. -/
def Tree.value? : Nat → Tree → Option Value
  | _, .null => some .null
  | _, .bool b => some (.bool b)
  | _, .number digits => (numeral? digits).map .number
  | _, .string body => (spelled? body).map .string
  | 0, .array _ => none
  | room + 1, .array ts => (valuesAfter? room [] ts).map fun vs => .array vs.reverse
  | 0, .object _ => none
  | room + 1, .object ms => (membersAfter? room [] ms).map .object

/-- The values of the elements of a list after those given; the last comes first. -/
def valuesAfter? : Nat → List Value → List Tree → Option (List Value)
  | _, vs, [] => some vs
  | room, vs, t :: ts => (t.value? room).bind fun v => valuesAfter? room (v :: vs) ts

/-- The members of an object together with those given. -/
def membersAfter? : Nat → List (String × Value) → List (Bytes × Tree) →
    Option (List (String × Value))
  | _, vs, [] => some vs
  | room, vs, (name, t) :: ms =>
    (spelled? name).bind fun s => (t.value? room).bind fun v => membersAfter? room (put s v vs) ms

end

theorem valuesAfter?_eq (room : Nat) (vs : List Value) (ts : List Tree) :
    valuesAfter? room vs ts = ts.foldlM (fun vs t => (t.value? room).map (· :: vs)) vs := by
  induction ts generalizing vs with
  | nil => rfl
  | cons t ts ih =>
    rw [valuesAfter?, List.foldlM_cons]
    cases t.value? room with
    | none => rfl
    | some v => exact ih (v :: vs)

theorem membersAfter?_eq (room : Nat) (vs : List (String × Value)) (ms : List (Bytes × Tree)) :
    membersAfter? room vs ms = ms.foldlM
      (fun vs m => (spelled? m.1).bind fun s => (m.2.value? room).map (put s · vs)) vs := by
  induction ms generalizing vs with
  | nil => rfl
  | cons m ms ih =>
    obtain ⟨name, t⟩ := m
    rw [membersAfter?, List.foldlM_cons]
    cases spelled? name with
    | none => rfl
    | some s =>
      cases t.value? room with
      | none => rfl
      | some v => exact ih (put s v vs)

/-! ### Readers -/

/-- What a reader makes of a tree, whatever text stands for the tree, whatever blanks stand before
it, and whatever stands behind it. -/
def ReadsAs (reader : Reader α) (room : Nat) (t : Tree) (o : Option α) : Prop :=
  ∀ text, (Part.value t).IsText text → ∀ gap, IsGap gap →
    Gives (fun rest => reader room (gap ++ (text ++ rest))) o

/-- A text is read as what it spells, and nothing else is. -/
def Tree.text? : Tree → Option String
  | .string body => spelled? body
  | _ => none

theorem readsAs_text (room : Nat) (t : Tree) : ReadsAs text room t t.text? := by
  intro bytes htext gap hgap rest hrest
  obtain ⟨b, tail, rfl, hb⟩ := htext.head
  simp only [List.cons_append]
  rw [text, textAs, skipBlanks_gap hgap hb.noBlank]
  dsimp only
  cases htext with
  | string h =>
    rw [if_pos rfl, List.append_assoc]
    exact toOption_string h rest
  | number h =>
    -- neither a digit nor a minus is a quote
    have hne : b ≠ 0x22 := by
      cases h with
      | positive h =>
        obtain ⟨d, ds, hd, hdigit⟩ := h.head
        obtain ⟨rfl, -⟩ := List.cons.inj hd
        exact ne_of_isDigit hdigit (by decide)
      | negative => decide
    rw [if_neg hne]
    rfl
  | _ => rfl

/-- What a reader makes of a tree that may also be `null`. -/
def Tree.orNull (t : Tree) (o : Option α) : Option (Option α) :=
  match t with
  | .null => some none
  | _ => o.map some

theorem Tree.orNull_of_ne {t : Tree} (h : t ≠ .null) (o : Option α) : t.orNull o = o.map some := by
  cases t <;> first | rfl | exact (h rfl).elim

theorem ReadsAs.optional {reader : Reader α} {room : Nat} {t : Tree} {o : Option α}
    (h : ReadsAs reader room t o) : ReadsAs (optional reader) room t (t.orNull o) := by
  intro bytes htext gap hgap rest hrest
  have hread := h bytes htext [] isGap_nil rest hrest
  obtain ⟨b, tail, rfl, hb⟩ := htext.head
  simp only [List.cons_append, List.nil_append] at hread ⊢
  rw [Json.optional, skipBlanks_gap hgap hb.noBlank]
  by_cases hnull : t = .null
  · subst hnull
    cases htext with
    | null => rfl
  · rw [Tree.orNull_of_ne hnull]
    split
    · rename_i heq
      exact (hnull (hb.null (List.cons.inj heq).1)).elim
    · rw [toOption_map, hread, Option.map_map, Option.map_map]
      rfl

theorem ReadsAs.map {reader : Reader α} {room : Nat} {t : Tree} {o : Option α}
    (h : ReadsAs reader room t o) (f : α → β) :
    ReadsAs (fun room bs => (reader room bs).map fun (a, rest) => (f a, rest)) room t
      (o.map f) := by
  intro bytes htext gap hgap rest hrest
  have hread := h bytes htext gap hgap rest hrest
  dsimp only at hread ⊢
  rw [toOption_map, hread, Option.map_map, Option.map_map]
  rfl

/-! ### Walks -/

/-- Whether another element stands there, and which. -/
theorem nextElement_part {first : Bool} {front text : Bytes} {t : Tree}
    (hfront : Separates first front) (htext : (Part.value t).IsText text) (rest : Bytes) :
    nextElement first (front ++ (text ++ rest)) = .ok (true, text ++ rest) := by
  obtain ⟨b, tail, rfl, hb⟩ := htext.head
  exact nextElement_eq_true_iff.2 ⟨front, b, tail ++ rest, hfront, hb.noBlank, hb.noBracket, rfl, rfl⟩

/-- **A walk over a list is a fold over its elements.** -/
theorem foldElements_part {step : σ → Bytes → Except Fault (σ × Bytes)}
    {f : σ → Tree → Option σ} {ts : List Tree}
    (hstep : ∀ t ∈ ts, ∀ s text, (Part.value t).IsText text →
      Gives (fun rest => step s (text ++ rest)) (f s t))
    {first : Bool} {text : Bytes} (htext : (Part.items first ts).IsText text) {n : Nat}
    (hn : text.length ≤ n) (s : σ) (rest : Bytes) :
    (foldElements step n first s (text ++ rest)).toOption =
      (ts.foldlM f s).map (·, 0x5D :: rest) := by
  -- by induction on the elements; the fuel is no less than what is left of the text
  induction ts generalizing first text n s with
  | nil =>
    cases htext with
    | @closeList _ gap hgap =>
      rw [List.length_append, List.length_singleton] at hn
      rw [foldElements_close hgap (by omega)]
      rfl
  | cons t ts ih =>
    cases htext with
    | @item _ front part more _ _ hfront hpart hmore =>
      have hends := hmore.ends_items rest
      have hread := hstep t List.mem_cons_self s part hpart (more ++ rest) hends
      have hpos : 0 < part.length := by
        obtain ⟨b, tail, rfl, -⟩ := hpart.head
        exact Nat.succ_pos _
      simp only [List.length_append] at hn
      obtain ⟨n, rfl⟩ : ∃ k, n = k + 1 := ⟨n - 1, by omega⟩
      have hnext := nextElement_part hfront hpart (more ++ rest)
      rw [List.append_assoc, List.append_assoc, foldElements_of_next hnext, toOption_bind, hread,
        List.foldlM_cons]
      cases f s t with
      | none => rfl
      | some s' =>
        exact ih (fun t ht => hstep t (List.mem_cons_of_mem _ ht)) hmore (by omega) s'

/-- The name of another member is what it spells. -/
theorem nextName_part {first : Bool} {front name : Bytes} (hfront : Separates first front)
    (hname : IsBody name) (rest : Bytes) :
    (nextName first (front ++ 0x22 :: (name ++ 0x22 :: rest))).toOption =
      (spelled? name).map fun s => (some s, rest) := by
  rw [nextName_quote hfront, toOption_map, toOption_string hname, Option.map_map]
  rfl

/-- **A walk over an object is a fold over its members.** -/
theorem foldMembers_part {step : σ → String → Bytes → Except Fault (σ × Bytes)}
    {f : σ → String → Tree → Option σ} {ms : List (Bytes × Tree)}
    (hstep : ∀ m ∈ ms, ∀ s name text gap gap', (Part.value m.2).IsText text → IsGap gap →
      IsGap gap' → Gives (fun rest => step s name (gap ++ 0x3A :: (gap' ++ (text ++ rest))))
        (f s name m.2))
    {first : Bool} {text : Bytes} (htext : (Part.members first ms).IsText text) {n : Nat}
    (hn : text.length ≤ n) (s : σ) (rest : Bytes) :
    (foldMembers step n first s (text ++ rest)).toOption =
      (ms.foldlM (fun s m => (spelled? m.1).bind fun name => f s name m.2) s).map
        (·, 0x7D :: rest) := by
  -- by induction on the members, as for lists
  induction ms generalizing first text n s with
  | nil =>
    cases htext with
    | @closeObject _ gap hgap =>
      rw [List.length_append, List.length_singleton] at hn
      rw [foldMembers_close hgap (by omega)]
      rfl
  | cons m ms ih =>
    cases htext with
    | @member _ front name gap gap' part more t _ hfront hname hgap hgap' hpart hmore =>
      have hends := hmore.ends_members rest
      simp only [List.length_append, List.length_cons] at hn
      obtain ⟨n, rfl⟩ : ∃ k, n = k + 1 := ⟨n - 1, by omega⟩
      have hmove : front ++ 0x22 :: (name ++ 0x22 :: (gap ++ 0x3A :: (gap' ++ (part ++ more)))) ++
          rest = front ++ 0x22 :: (name ++ 0x22 :: (gap ++ 0x3A :: (gap' ++
            (part ++ (more ++ rest))))) := by simp
      rw [hmove, foldMembers, toOption_bind, nextName_part hfront hname, List.foldlM_cons]
      dsimp only
      cases spelled? name with
      | none => rfl
      | some name =>
        have hread := hstep (_, t) List.mem_cons_self s name part gap gap' hpart hgap hgap'
          (more ++ rest) hends
        dsimp only [Option.map_some, Option.bind_some] at hread ⊢
        rw [toOption_bind, hread]
        cases f s name t with
        | none => rfl
        | some s' =>
          exact ih (fun m hm => hstep m (List.mem_cons_of_mem _ hm)) hmore (by omega) s'

/-! ### Any value -/

/-- A numeral is read as the number that it is alone. -/
theorem gives_numeral {digits : Bytes} (h : IsNumeral digits) (room : Nat) {gap : Bytes}
    (hgap : IsGap gap) : Gives (fun rest => anyValue room (gap ++ (digits ++ rest)))
      ((numeral? digits).map .number) := by
  intro rest hrest
  cases h with
  | positive h =>
    have hread := gives_magnitude false h rest hrest
    obtain ⟨b, tail, rfl, hb⟩ := h.head
    have hne (c : UInt8) (hc : isDigit c = false) : ¬ b = c := ne_of_isDigit hb hc
    have halone : numeral? (b :: tail) = magnitude? false (b :: tail) := by
      refine numeral?.eq_2 _ fun bs hbs => ?_
      exact hne 0x2D (by decide) (List.cons.inj hbs).1
    dsimp only [List.cons_append] at hread ⊢
    rw [anyValue, skipBlanks_gap hgap (isBlankByte_of_isDigit hb), halone]
    dsimp only
    rw [if_neg (hne _ (by decide)), if_neg (hne _ (by decide)), if_neg (hne _ (by decide)),
      if_neg (hne _ (by decide)), if_pos hb, toOption_map, hread, Option.map_map, Option.map_map]
    rfl
  | @negative bs h =>
    have hread := gives_magnitude true h rest hrest
    have halone : numeral? (0x2D :: bs) = magnitude? true bs := rfl
    dsimp only [List.cons_append] at hread ⊢
    rw [anyValue, skipBlanks_gap hgap (by decide), halone]
    dsimp only
    rw [if_neg (by decide), if_neg (by decide), if_neg (by decide), if_pos rfl, toOption_map,
      hread, Option.map_map, Option.map_map]
    rfl

/-- The closing bracket of a list is passed. -/
theorem toOption_settleList {r : Except Fault (α × Bytes)} {o : Option α} {rest : Bytes}
    (h : r.toOption = o.map (·, 0x5D :: rest)) : (settleList r).toOption = o.map (·, rest) := by
  cases o with
  | some a =>
    rw [toOption_eq_some_iff.1 h]
    rfl
  | none =>
    rcases r with (_ | _) | _
    · rfl
    · rfl
    · cases h

/-- The closing bracket of an object is passed. -/
theorem toOption_settleObject {r : Except Fault (α × Bytes)} {o : Option α} {rest : Bytes}
    (h : r.toOption = o.map (·, 0x7D :: rest)) : (settleObject r).toOption = o.map (·, rest) := by
  cases o with
  | some a =>
    rw [toOption_eq_some_iff.1 h]
    rfl
  | none =>
    rcases r with (_ | _) | _
    · rfl
    · rfl
    · cases h

theorem readsAs_anyValue_array {room : Nat} {ts : List Tree}
    (h : ∀ t ∈ ts, ReadsAs anyValue room t (t.value? room)) :
    ReadsAs anyValue (room + 1) (.array ts) (Tree.value? (room + 1) (.array ts)) := by
  intro text htext gap hgap rest hrest
  cases htext with
  | @array _ inner hinner =>
    have hstep : ∀ t ∈ ts, ∀ vs text, (Part.value t).IsText text →
        Gives (fun rest => anyElement (anyValue room) vs (text ++ rest))
          ((t.value? room).map (· :: vs)) := by
      intro t ht vs text htext rest hrest
      have hread := h t ht text htext [] isGap_nil rest hrest
      dsimp only [List.nil_append] at hread ⊢
      rw [anyElement, toOption_bind, hread]
      cases t.value? room <;> rfl
    have hwalk := foldElements_part hstep hinner (n := (inner ++ rest).length + 1)
      (by rw [List.length_append]; omega) [] rest
    dsimp only [List.cons_append]
    rw [anyValue, skipBlanks_gap hgap (by decide), Tree.value?, valuesAfter?_eq, Option.map_map]
    refine (toOption_map _ _).trans ?_
    rw [toOption_settleList hwalk, Option.map_map]
    rfl

theorem readsAs_anyValue_object {room : Nat} {ms : List (Bytes × Tree)}
    (h : ∀ m ∈ ms, ReadsAs anyValue room m.2 (m.2.value? room)) :
    ReadsAs anyValue (room + 1) (.object ms) (Tree.value? (room + 1) (.object ms)) := by
  intro text htext gap hgap rest hrest
  cases htext with
  | @object _ inner hinner =>
    have hstep : ∀ m ∈ ms, ∀ vs name text gap gap', (Part.value m.2).IsText text → IsGap gap →
        IsGap gap' → Gives
          (fun rest => anyMember (anyValue room) vs name (gap ++ 0x3A :: (gap' ++ (text ++ rest))))
          ((m.2.value? room).map (put name · vs)) := by
      intro m hm vs name text gap gap' htext hgap hgap' rest hrest
      have hread := h m hm text htext gap' hgap' rest hrest
      have hcolon : colon (gap ++ 0x3A :: (gap' ++ (text ++ rest))) = .ok (gap' ++ (text ++ rest)) :=
        colon_eq_ok_iff.2 ⟨gap, hgap, rfl⟩
      dsimp only at hread ⊢
      rw [anyMember, hcolon]
      change (anyValue room (gap' ++ (text ++ rest)) >>= _).toOption = _
      rw [toOption_bind, hread]
      cases m.2.value? room <;> rfl
    have hwalk := foldMembers_part (f := fun vs name t => (t.value? room).map (put name · vs))
      hstep hinner (n := (inner ++ rest).length + 1) (by rw [List.length_append]; omega) [] rest
    dsimp only [List.cons_append]
    rw [anyValue, skipBlanks_gap hgap (by decide), Tree.value?, membersAfter?_eq, Option.map_map]
    refine (toOption_map _ _).trans ?_
    rw [toOption_settleObject hwalk, Option.map_map]
    rfl

/-- **Any value is read as what the tree comes to**, and not at all if it comes to none. -/
theorem readsAs_anyValue (room : Nat) (t : Tree) : ReadsAs anyValue room t (t.value? room) := by
  induction t using Tree.induct generalizing room with
  | null =>
    intro text htext gap hgap rest hrest
    cases htext
    dsimp only [List.cons_append]
    rw [anyValue, skipBlanks_gap hgap (by decide)]
    rfl
  | bool b =>
    intro text htext gap hgap rest hrest
    cases htext <;> dsimp only [List.cons_append] <;>
      rw [anyValue, skipBlanks_gap hgap (by decide)] <;> rfl
  | number digits =>
    intro text htext gap hgap rest hrest
    cases htext with
    | number h => exact gives_numeral h room hgap rest hrest
  | string body =>
    intro text htext gap hgap rest hrest
    cases htext with
    | string h =>
      dsimp only [List.cons_append]
      rw [List.append_assoc, anyValue, skipBlanks_gap hgap (by decide)]
      refine (toOption_map _ _).trans ?_
      rw [List.singleton_append, toOption_string h rest, Tree.value?, Option.map_map,
        Option.map_map]
      rfl
  | array ts ih =>
    cases room with
    | zero =>
      -- there is no room for a list
      intro text htext gap hgap rest hrest
      cases htext
      dsimp only [List.cons_append]
      rw [anyValue, skipBlanks_gap hgap (by decide)]
      rfl
    | succ room => exact readsAs_anyValue_array fun t ht => ih t ht room
  | object ms ih =>
    cases room with
    | zero =>
      intro text htext gap hgap rest hrest
      cases htext
      dsimp only [List.cons_append]
      rw [anyValue, skipBlanks_gap hgap (by decide)]
      rfl
    | succ room => exact readsAs_anyValue_object fun m hm => ih m hm room

end SignIn.Json
