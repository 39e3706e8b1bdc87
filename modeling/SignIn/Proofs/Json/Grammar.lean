import SignIn.Proofs.Json.LocalValue

/-!
# JSON texts

A document is what a JSON text says, and a text says it in many ways: blanks may stand between any
two parts, and a character of a string may be escaped in more than one way.  The grammar below has
all of them.  It says nothing about what a member means, nor in which order members stand; this is
up to those who read them.

The parts of a container are given one after the other, so the rest of an open container is a piece
of a text too.

## Main definitions

* `Document` — what a JSON text says.
* `Spells`, `SpellsAll` — what may stand for characters in a string.
* `IsBody` — what may stand in a string at all.
* `IsNumeral` — how numbers are written.
* `Piece.IsText` — what may stand for a document, or for the rest of an open container.
* `Document.IsText` — a whole text.

## Main results

* `string_spelled` — a string is read, whatever spells it.
* `skipString_body` — a string is passed, whatever stands in it.
* `spellsAll_escaped` — what a string is written as spells it.
* `Document.hasText_array`, `Document.hasText_object` — containers of what can be written can be.
-/

namespace SignIn.Json

open SignIn.Text

/-- What a JSON text says.  Numbers are kept as they are written, and members as they stand. -/
inductive Document where
  /-- The word `null`. -/
  | null
  /-- A truth value. -/
  | bool (b : Bool)
  /-- A number. -/
  | number (digits : Bytes)
  /-- A text. -/
  | string (s : String)
  /-- A list. -/
  | array (items : List Document)
  /-- Named members; a name may occur more than once. -/
  | object (members : List (String × Document))

/-! ### Strings -/

/-- What may stand for a character in a string. -/
inductive Spells : Char → Bytes → Prop
  /-- The character itself, unless it is a control, a quote or a backslash. -/
  | plain {c : Char} (hc : 0x20 ≤ c.toNat) (hq : c ≠ '"') (hs : c ≠ '\\') :
    Spells c (String.utf8EncodeChar c)
  /-- A backslash and a letter. -/
  | short {b e : UInt8} (h : shortEscape? b = some e) : Spells (Char.ofNat e.toNat) [0x5C, b]
  /-- Its number. -/
  | unit {a b c d : UInt8} {n : Nat} (h : hexUnit? a b c d = some n)
    (hn : n < 0xD800 ∨ 0xDFFF < n) : Spells (Char.ofNat n) [0x5C, 0x75, a, b, c, d]
  /-- Two numbers, for a character beyond the basic plane. -/
  | pair {a b c d e f g h : UInt8} {n m : Nat} (hn : hexUnit? a b c d = some n)
    (hhigh : 0xD800 ≤ n ∧ n ≤ 0xDBFF) (hm : hexUnit? e f g h = some m)
    (hlow : 0xDC00 ≤ m ∧ m ≤ 0xDFFF) :
    Spells (Char.ofNat ((n - 0xD800) * 1024 + (m - 0xDC00) + 0x10000))
      [0x5C, 0x75, a, b, c, d, 0x5C, 0x75, e, f, g, h]

/-- What may stand for characters, one after the other. -/
inductive SpellsAll : List Char → Bytes → Prop
  /-- There is none left. -/
  | nil : SpellsAll [] []
  /-- The first, and then the others. -/
  | cons {c : Char} {cs : List Char} {bs more : Bytes} (first : Spells c bs)
    (others : SpellsAll cs more) : SpellsAll (c :: cs) (bs ++ more)

/-- What stands between the quotes of a string.  Every escape has one of the two forms, but nothing
is said about what they stand for: the number of a surrogate alone is none of a character, and bytes
that stand for themselves need not be those of characters. -/
inductive IsBody : Bytes → Prop
  /-- Nothing more. -/
  | nil : IsBody []
  /-- A byte that is no control, no quote and no backslash. -/
  | plain {b : UInt8} {more : Bytes} (h : 0x20 ≤ b.toNat) (hq : b ≠ 0x22) (hs : b ≠ 0x5C)
    (others : IsBody more) : IsBody (b :: more)
  /-- A backslash and a letter. -/
  | short {b e : UInt8} {more : Bytes} (h : shortEscape? b = some e) (others : IsBody more) :
    IsBody (0x5C :: b :: more)
  /-- A number. -/
  | unit {a b c d : UInt8} {n : Nat} {more : Bytes} (h : hexUnit? a b c d = some n)
    (others : IsBody more) : IsBody (0x5C :: 0x75 :: a :: b :: c :: d :: more)

/-- A short escape stands for one byte, and is not the one for numbers. -/
theorem shortEscape?_eq_some {b e : UInt8} (h : shortEscape? b = some e) :
    b ≠ 0x75 ∧ String.utf8EncodeChar (Char.ofNat e.toNat) = [e] := by
  unfold shortEscape? at h
  split at h
  · rename_i hb
    obtain rfl := Option.some.inj h
    obtain rfl | rfl | rfl := hb <;> exact ⟨by decide, rfl⟩
  -- five letters stand for controls
  iterate 5
    split at h
    · rename_i hb
      obtain rfl := Option.some.inj h
      exact ⟨hb ▸ by decide, rfl⟩
  cases h

/-- What stands for a character is read as the character. -/
theorem stringBytes_spelled {c : Char} {bs : Bytes} (h : Spells c bs) (rest : Bytes) :
    stringBytes (bs ++ rest) = prepend (String.utf8EncodeChar c) (stringBytes rest) := by
  cases h with
  | plain hc hq hs => exact stringBytes_self hc hq hs rest
  | short h =>
    obtain ⟨hu, hbytes⟩ := shortEscape?_eq_some h
    rw [hbytes]
    exact stringBytes_short h hu rest
  | unit h hn => exact stringBytes_single h (by omega) (by omega) rest
  | pair hn hhigh hm hlow => exact stringBytes_pair hn hhigh hm hlow rest

/-- A byte that is no control, no quote and no backslash is passed. -/
theorem skipString_plain {b : UInt8} (h : 0x20 ≤ b.toNat) (hq : b ≠ 0x22) (hs : b ≠ 0x5C)
    (rest : Bytes) : skipString (b :: rest) = skipString rest := by
  have hlt : ¬ b < 0x20 := by
    rw [UInt8.lt_iff_toNat_lt]
    exact Nat.not_lt.2 h
  rw [skipString.eq_7 b rest hq (fun _ _ _ _ _ h => (hs h).elim) (fun _ h => (hs h).elim)
    (fun h => (hs h).elim) (fun _ _ h => (hs h).elim), if_neg hlt]

theorem skipString_short {b e : UInt8} (h : shortEscape? b = some e) (rest : Bytes) :
    skipString (0x5C :: b :: rest) = skipString rest := by
  have hu := (shortEscape?_eq_some h).1
  refine (skipString.eq_6 b rest (fun _ _ _ _ _ h => (hu h).elim) hu).trans ?_
  rw [h]

theorem skipString_unit {a b c d : UInt8} {n : Nat} (h : hexUnit? a b c d = some n)
    (rest : Bytes) : skipString (0x5C :: 0x75 :: a :: b :: c :: d :: rest) = skipString rest := by
  rw [skipString.eq_3, h]

/-- **A string is passed**, whatever stands between its quotes. -/
theorem skipString_body {body : Bytes} (h : IsBody body) (rest : Bytes) :
    skipString (body ++ 0x22 :: rest) = .ok rest := by
  induction h with
  | nil => exact skipString.eq_2 rest
  | plain h hq hs _ ih => exact (skipString_plain h hq hs _).trans ih
  | short h _ ih => exact (skipString_short h _).trans ih
  | unit h _ ih => exact (skipString_unit h _).trans ih

/-- Bytes that stand for themselves may stand before the others. -/
theorem IsBody.append_plain {bs more : Bytes} (h : IsBody more)
    (hbs : ∀ b ∈ bs, 0x20 ≤ b.toNat ∧ b ≠ 0x22 ∧ b ≠ 0x5C) : IsBody (bs ++ more) := by
  induction bs with
  | nil => exact h
  | cons b bs ih =>
    obtain ⟨hb, hq, hs⟩ := hbs b List.mem_cons_self
    exact .plain hb hq hs (ih fun b hb => hbs b (List.mem_cons_of_mem _ hb))

/-- What spells a text stands between quotes. -/
theorem SpellsAll.isBody {cs : List Char} {bs : Bytes} (h : SpellsAll cs bs) : IsBody bs := by
  induction h with
  | nil => exact .nil
  | cons first _ ih =>
    cases first with
    | plain hc hq hs => exact ih.append_plain fun b hb => plain_of_mem_encoded hc hq hs hb
    | short h => exact .short h ih
    | unit h => exact .unit h ih
    | pair hn _ hm => exact .unit hn (.unit hm ih)

/-- The characters of a string are read, up to the closing quote. -/
theorem stringBytes_spelledAll {cs : List Char} {bs : Bytes} (h : SpellsAll cs bs) (rest : Bytes) :
    stringBytes (bs ++ 0x22 :: rest) = .ok (Utf8.bytes cs, rest) := by
  induction h with
  | nil => exact stringBytes.eq_2 rest
  | cons first others ih =>
    rw [List.append_assoc, stringBytes_spelled first, ih, prepend_ok, Utf8.bytes_cons]

/-- **A string is read, whatever spells it.** -/
theorem string_spelled {s : String} {bs : Bytes} (h : SpellsAll s.toList bs) (rest : Bytes) :
    string (bs ++ 0x22 :: rest) = .ok (s, rest) :=
  string_eq_ok_iff.2 ⟨_, stringBytes_spelledAll h rest, Utf8.decode?_encode s⟩

/-- What a character is written as spells it. -/
theorem spells_escaped (c : Char) : Spells c (Utf8.bytes (escapeJson c)) := by
  unfold escapeJson
  -- seven characters have a letter of their own
  split
  · rename_i h
    subst h
    exact .short (b := 0x22) (e := 0x22) rfl
  split
  · rename_i h
    subst h
    exact .short (b := 0x5C) (e := 0x5C) rfl
  split
  · rename_i h
    subst h
    exact .short (b := 0x62) (e := 0x08) rfl
  split
  · rename_i h
    subst h
    exact .short (b := 0x74) (e := 0x09) rfl
  split
  · rename_i h
    subst h
    exact .short (b := 0x6E) (e := 0x0A) rfl
  split
  · rename_i h
    subst h
    exact .short (b := 0x66) (e := 0x0C) rfl
  split
  · rename_i h
    subst h
    exact .short (b := 0x72) (e := 0x0D) rfl
  split
  · rename_i h
    obtain ⟨hunit, hhigh, hlow⟩ := hexUnit?_control c.toNat h
    have hspells := Spells.unit hunit (.inl (by omega))
    rw [Char.ofNat_toNat] at hspells
    simp only [Utf8.bytes_cons, Utf8.encoded_of_lt hhigh, Utf8.encoded_of_lt hlow]
    exact hspells
  · rename_i hquote hbackslash _ _ _ _ _ hcontrol
    rw [Utf8.bytes_cons, Utf8.bytes_nil, List.append_nil]
    exact .plain (by omega) hquote hbackslash

theorem spellsAll_escaped (cs : List Char) :
    SpellsAll cs (Utf8.bytes (cs.flatMap escapeJson)) := by
  induction cs with
  | nil => exact .nil
  | cons c cs ih =>
    rw [List.flatMap_cons, Utf8.bytes_append]
    exact .cons (spells_escaped c) ih

/-! ### Numbers -/

/-- One digit or more. -/
def IsDigits (ds : Bytes) : Prop := ds ≠ [] ∧ ∀ b ∈ ds, isDigit b = true

/-- The whole part of a number: no digit stands behind a zero at its front. -/
inductive IsWhole : Bytes → Prop
  /-- Zero. -/
  | zero : IsWhole [0x30]
  /-- Any other number. -/
  | digits {ds : Bytes} (h : IsDigits ds) (hne : ds.head? ≠ some 0x30) : IsWhole ds

/-- The fraction of a number, if there is one. -/
inductive IsFraction : Bytes → Prop
  /-- There is none. -/
  | none : IsFraction []
  /-- A point and digits. -/
  | digits {ds : Bytes} (h : IsDigits ds) : IsFraction (0x2E :: ds)

/-- The exponent of a number, if there is one. -/
inductive IsExponent : Bytes → Prop
  /-- There is none. -/
  | none : IsExponent []
  /-- A letter of either case, a sign or none, and digits. -/
  | digits {letter : UInt8} {sign ds : Bytes} (hletter : letter = 0x65 ∨ letter = 0x45)
    (hsign : sign = [] ∨ sign = [0x2B] ∨ sign = [0x2D]) (h : IsDigits ds) :
    IsExponent (letter :: (sign ++ ds))

/-- A number without its sign. -/
inductive IsMagnitude : Bytes → Prop
  /-- Its three parts. -/
  | parts {whole fraction exponent : Bytes} (hwhole : IsWhole whole)
    (hfraction : IsFraction fraction) (hexponent : IsExponent exponent) :
    IsMagnitude (whole ++ (fraction ++ exponent))

/-- A number. -/
inductive IsNumeral : Bytes → Prop
  /-- Without a sign. -/
  | positive {bs : Bytes} (h : IsMagnitude bs) : IsNumeral bs
  /-- Behind a minus. -/
  | negative {bs : Bytes} (h : IsMagnitude bs) : IsNumeral (0x2D :: bs)

/-! ### Texts -/

/-- A piece of a text. -/
inductive Piece where
  /-- A document. -/
  | value (d : Document)
  /-- The rest of an open list, before its first element or behind an element. -/
  | items (first : Bool) (ds : List Document)
  /-- The rest of an open object, before its first member or behind a member. -/
  | members (first : Bool) (ms : List (String × Document))

/-- What may stand for a piece. -/
inductive Piece.IsText : Piece → Bytes → Prop
  /-- The word `null`. -/
  | null : IsText (.value .null) (0x6E :: nullTail)
  /-- The word `true`. -/
  | yes : IsText (.value (.bool true)) (0x74 :: trueTail)
  /-- The word `false`. -/
  | no : IsText (.value (.bool false)) (0x66 :: falseTail)
  /-- A number as it is written. -/
  | number {bs : Bytes} (h : IsNumeral bs) : IsText (.value (.number bs)) bs
  /-- What spells a string, between quotes. -/
  | string {s : String} {bs : Bytes} (h : SpellsAll s.toList bs) :
    IsText (.value (.string s)) (0x22 :: (bs ++ [0x22]))
  /-- A list between brackets. -/
  | array {ds : List Document} {inner : Bytes} (h : IsText (.items true ds) inner) :
    IsText (.value (.array ds)) (0x5B :: inner)
  /-- An object between brackets. -/
  | object {ms : List (String × Document)} {inner : Bytes}
    (h : IsText (.members true ms) inner) : IsText (.value (.object ms)) (0x7B :: inner)
  /-- The closing bracket of a list. -/
  | closeList {first : Bool} {gap : Bytes} (hgap : IsGap gap) :
    IsText (.items first []) (gap ++ [0x5D])
  /-- Another element, behind a comma unless it is the first. -/
  | item {first : Bool} {front text more : Bytes} {d : Document} {ds : List Document}
    (hfront : Separates first front) (htext : IsText (.value d) text)
    (hmore : IsText (.items false ds) more) :
    IsText (.items first (d :: ds)) (front ++ (text ++ more))
  /-- The closing bracket of an object. -/
  | closeObject {first : Bool} {gap : Bytes} (hgap : IsGap gap) :
    IsText (.members first []) (gap ++ [0x7D])
  /-- Another member, behind a comma unless it is the first. -/
  | member {first : Bool} {front name gap gap' text more : Bytes} {s : String} {d : Document}
    {ms : List (String × Document)} (hfront : Separates first front)
    (hname : SpellsAll s.toList name) (hgap : IsGap gap) (hgap' : IsGap gap')
    (htext : IsText (.value d) text) (hmore : IsText (.members false ms) more) :
    IsText (.members first ((s, d) :: ms))
      (front ++ 0x22 :: (name ++ 0x22 :: (gap ++ 0x3A :: (gap' ++ (text ++ more)))))

/-- A whole text for a document: blanks may stand around it. -/
def Document.IsText (d : Document) (bytes : Bytes) : Prop :=
  ∃ gap text gap', IsGap gap ∧ IsGap gap' ∧ (Piece.value d).IsText text ∧
    bytes = gap ++ (text ++ gap')

/-! ### Every document can be written -/

namespace Document

/-- Some text stands for the document. -/
def HasText (d : Document) : Prop := ∃ text, (Piece.value d).IsText text

theorem hasText_string (s : String) : (string s).HasText :=
  ⟨_, .string (spellsAll_escaped s.toList)⟩

theorem separates_nil : Separates true [] := isGap_nil

theorem separates_comma : Separates false [0x2C] := ⟨[], [], isGap_nil, isGap_nil, rfl⟩

/-- A list can be written if its elements can. -/
theorem hasText_array {ds : List Document} (h : ∀ d ∈ ds, d.HasText) : (array ds).HasText := by
  have hitems (first : Bool) : ∃ inner, (Piece.items first ds).IsText inner := by
    induction ds generalizing first with
    | nil => exact ⟨_, .closeList isGap_nil⟩
    | cons d ds ih =>
      obtain ⟨text, htext⟩ := h d List.mem_cons_self
      obtain ⟨more, hmore⟩ := ih (fun d hd => h d (List.mem_cons_of_mem _ hd)) false
      cases first with
      | true => exact ⟨_, .item separates_nil htext hmore⟩
      | false => exact ⟨_, .item separates_comma htext hmore⟩
  obtain ⟨inner, hinner⟩ := hitems true
  exact ⟨_, .array hinner⟩

/-- An object can be written if its members can. -/
theorem hasText_object {ms : List (String × Document)} (h : ∀ m ∈ ms, m.2.HasText) :
    (object ms).HasText := by
  have hmembers (first : Bool) : ∃ inner, (Piece.members first ms).IsText inner := by
    induction ms generalizing first with
    | nil => exact ⟨_, .closeObject isGap_nil⟩
    | cons m ms ih =>
      obtain ⟨text, htext⟩ := h m List.mem_cons_self
      obtain ⟨more, hmore⟩ := ih (fun m hm => h m (List.mem_cons_of_mem _ hm)) false
      have hname := spellsAll_escaped m.1.toList
      cases first with
      | true => exact ⟨_, .member separates_nil hname isGap_nil isGap_nil htext hmore⟩
      | false => exact ⟨_, .member separates_comma hname isGap_nil isGap_nil htext hmore⟩
  obtain ⟨inner, hinner⟩ := hmembers true
  exact ⟨_, .object hinner⟩

theorem HasText.exists_isText {d : Document} (h : d.HasText) : ∃ bytes, d.IsText bytes := by
  obtain ⟨text, htext⟩ := h
  exact ⟨_, [], text, [], isGap_nil, isGap_nil, htext, rfl⟩

end Document

end SignIn.Json
