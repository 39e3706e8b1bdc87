import SignIn.Proofs.Json.Grammar

/-!
# JSON texts as trees

A tree keeps a JSON text as it is written, but for the blanks between its parts.  A document says
what strings mean; a tree keeps what stands between their quotes, whether or not it spells a text,
and the same goes for the names of members.  So every JSON text is one of a tree, but not every one
is a text for a document: a surrogate without its partner may well stand in a string.

## Main definitions

* `Tree` — a JSON text but for its blanks.
* `Part.IsText` — what may stand for a tree, or for the rest of an open container.
* `Tree.IsText` — a whole text.

## Main results

* `Tree.induct` — induction over the values in a tree.
* `Piece.IsText.exists_part` — a text for a document is one of a tree.
-/

namespace SignIn.Json

open SignIn.Text

/-- A JSON text but for the blanks between its parts. -/
inductive Tree where
  /-- The word `null`. -/
  | null
  /-- A truth value. -/
  | bool (b : Bool)
  /-- A number as it is written. -/
  | number (digits : Bytes)
  /-- A string as it is written between its quotes. -/
  | string (body : Bytes)
  /-- A list. -/
  | array (items : List Tree)
  /-- Named members; what stands between the quotes of a name may occur more than once. -/
  | object (members : List (Bytes × Tree))

/-- What holds of a value if it holds of the values in it holds of all trees. -/
theorem Tree.induct {P : Tree → Prop} (null : P .null) (bool : ∀ b, P (.bool b))
    (number : ∀ digits, P (.number digits)) (string : ∀ body, P (.string body))
    (array : ∀ ts : List Tree, (∀ t ∈ ts, P t) → P (.array ts))
    (object : ∀ ms : List (Bytes × Tree), (∀ m ∈ ms, P m.2) → P (.object ms)) (t : Tree) : P t := by
  match t with
  | .null => exact null
  | .bool b => exact bool b
  | .number digits => exact number digits
  | .string body => exact string body
  | .array ts => exact array ts fun t _ => induct null bool number string array object t
  | .object ms => exact object ms fun m _ => induct null bool number string array object m.2
termination_by t
decreasing_by
  · rename_i ht
    have := List.sizeOf_lt_of_mem ht
    rw [Tree.array.sizeOf_spec]
    omega
  · rename_i hm
    have := List.sizeOf_lt_of_mem hm
    have : sizeOf m = 1 + sizeOf m.1 + sizeOf m.2 := rfl
    rw [Tree.object.sizeOf_spec]
    omega

/-- What stands between the quotes of a string that is written for a text. -/
def bodyOf (s : String) : Bytes := Utf8.bytes (s.toList.flatMap escapeJson)

theorem spellsAll_bodyOf (s : String) : SpellsAll s.toList (bodyOf s) := spellsAll_escaped s.toList

theorem isBody_bodyOf (s : String) : IsBody (bodyOf s) := (spellsAll_bodyOf s).isBody

/-! ### Texts -/

/-- A part of a text. -/
inductive Part where
  /-- A value. -/
  | value (t : Tree)
  /-- The rest of an open list, before its first element or behind an element. -/
  | items (first : Bool) (ts : List Tree)
  /-- The rest of an open object, before its first member or behind a member. -/
  | members (first : Bool) (ms : List (Bytes × Tree))

/-- What may stand for a part. -/
inductive Part.IsText : Part → Bytes → Prop
  /-- The word `null`. -/
  | null : IsText (.value .null) (0x6E :: nullTail)
  /-- The word `true`. -/
  | yes : IsText (.value (.bool true)) (0x74 :: trueTail)
  /-- The word `false`. -/
  | no : IsText (.value (.bool false)) (0x66 :: falseTail)
  /-- A number. -/
  | number {bs : Bytes} (h : IsNumeral bs) : IsText (.value (.number bs)) bs
  /-- A string between quotes. -/
  | string {body : Bytes} (h : IsBody body) :
    IsText (.value (.string body)) (0x22 :: (body ++ [0x22]))
  /-- A list between brackets. -/
  | array {ts : List Tree} {inner : Bytes} (h : IsText (.items true ts) inner) :
    IsText (.value (.array ts)) (0x5B :: inner)
  /-- An object between brackets. -/
  | object {ms : List (Bytes × Tree)} {inner : Bytes} (h : IsText (.members true ms) inner) :
    IsText (.value (.object ms)) (0x7B :: inner)
  /-- The closing bracket of a list. -/
  | closeList {first : Bool} {gap : Bytes} (hgap : IsGap gap) :
    IsText (.items first []) (gap ++ [0x5D])
  /-- Another element, behind a comma unless it is the first. -/
  | item {first : Bool} {front text more : Bytes} {t : Tree} {ts : List Tree}
    (hfront : Separates first front) (htext : IsText (.value t) text)
    (hmore : IsText (.items false ts) more) :
    IsText (.items first (t :: ts)) (front ++ (text ++ more))
  /-- The closing bracket of an object. -/
  | closeObject {first : Bool} {gap : Bytes} (hgap : IsGap gap) :
    IsText (.members first []) (gap ++ [0x7D])
  /-- Another member, behind a comma unless it is the first. -/
  | member {first : Bool} {front name gap gap' text more : Bytes} {t : Tree}
    {ms : List (Bytes × Tree)} (hfront : Separates first front) (hname : IsBody name)
    (hgap : IsGap gap) (hgap' : IsGap gap') (htext : IsText (.value t) text)
    (hmore : IsText (.members false ms) more) :
    IsText (.members first ((name, t) :: ms))
      (front ++ 0x22 :: (name ++ 0x22 :: (gap ++ 0x3A :: (gap' ++ (text ++ more)))))

/-- A whole text for a tree: blanks may stand around it. -/
def Tree.IsText (t : Tree) (bytes : Bytes) : Prop :=
  ∃ gap text gap', IsGap gap ∧ IsGap gap' ∧ (Part.value t).IsText text ∧
    bytes = gap ++ (text ++ gap')

/-- A text for a document is one of a tree, and that of `null` is one of `null`. -/
theorem Piece.IsText.exists_part {piece : Piece} {text : Bytes} (h : piece.IsText text) :
    match piece with
    | .value d => ∃ t, (Part.value t).IsText text ∧ (t = .null → d = .null)
    | .items first _ => ∃ ts, (Part.items first ts).IsText text
    | .members first _ => ∃ ms, (Part.members first ms).IsText text := by
  induction h with
  | null => exact ⟨_, .null, fun _ => rfl⟩
  | yes => exact ⟨_, .yes, nofun⟩
  | no => exact ⟨_, .no, nofun⟩
  | number h => exact ⟨_, .number h, nofun⟩
  | string h => exact ⟨_, .string h.isBody, nofun⟩
  | array _ ih =>
    obtain ⟨ts, hts⟩ := ih
    exact ⟨_, .array hts, nofun⟩
  | object _ ih =>
    obtain ⟨ms, hms⟩ := ih
    exact ⟨_, .object hms, nofun⟩
  | closeList hgap => exact ⟨_, .closeList hgap⟩
  | item hfront _ _ ih ihmore =>
    obtain ⟨t, ht, -⟩ := ih
    obtain ⟨ts, hts⟩ := ihmore
    exact ⟨_, .item hfront ht hts⟩
  | closeObject hgap => exact ⟨_, .closeObject hgap⟩
  | member hfront hname hgap hgap' _ _ ih ihmore =>
    obtain ⟨t, ht, -⟩ := ih
    obtain ⟨ms, hms⟩ := ihmore
    exact ⟨_, .member hfront hname.isBody hgap hgap' ht hms⟩

end SignIn.Json
