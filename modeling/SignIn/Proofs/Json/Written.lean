import SignIn.Json.Record
import SignIn.Proofs.Json.Text

/-!
# Written values are read back

A reader reads a text back as a value if it does so whatever blanks stand before it, and whatever
stands behind it that cannot be part of it.  An object is read back if its members are, one after
the other, and a record if its fields are.

How much space a writer leaves between the parts makes no difference.

## Main definitions

* `Reads` — a reader reads a text back.
* `objectBytes` — an object with some space between its parts.
* `Takes` — a walk takes the members of an object.
* `Restores` — a reader reads back what a value is written as, over several lines.

## Main results

* `reads_text`, `reads_flag`, `reads_choice`, `reads_none`, `Reads.some` — single values.
* `foldMembers_written` — the walk over an object.
* `Layout.reads_record` — records.
* `bytes_pretty_object` — the space that files have.
* `Layout.restores_record` — records over several lines.
-/

namespace SignIn.Json

open SignIn.Text

/-! ### What stands around a value -/

/-- Nothing but blanks. -/
def IsGap (gap : Bytes) : Prop := ∀ b ∈ gap, isBlankByte b = true

theorem isGap_nil : IsGap [] := by simp [IsGap]

/-- A text that cannot go on with a number that stands before it. -/
def Ends (rest : Bytes) : Prop :=
  ∀ b ∈ rest.head?, isDigit b = false ∧ b ≠ 0x2E ∧ b ≠ 0x65 ∧ b ≠ 0x45

theorem ends_nil : Ends [] := by simp [Ends]

theorem ends_comma (rest : Bytes) : Ends (0x2C :: rest) := by
  simp only [Ends, List.head?_cons, Option.mem_some_iff, forall_eq']
  decide

/-- Blanks before it make no difference, for a blank is part of no number. -/
theorem Ends.append_gap {gap rest : Bytes} (h : Ends rest) (hgap : IsGap gap) :
    Ends (gap ++ rest) := by
  cases gap with
  | nil => exact h
  | cons b gap =>
    have hb : isBlankByte b = true := hgap b List.mem_cons_self
    simp only [Ends, List.cons_append, List.head?_cons, Option.mem_some_iff, forall_eq']
    simp only [isBlankByte, Bool.or_eq_true, beq_iff_eq] at hb
    obtain ((rfl | rfl) | rfl) | rfl := hb <;> decide

/-- A closing bracket is part of no number either. -/
theorem IsGap.ends {gap : Bytes} (h : IsGap gap) (rest : Bytes) : Ends (gap ++ 0x7D :: rest) := by
  refine Ends.append_gap ?_ h
  simp only [Ends, List.head?_cons, Option.mem_some_iff, forall_eq']
  decide

/-- The blanks before a value are skipped. -/
theorem skipBlanks_gap {gap : Bytes} (h : IsGap gap) {b : UInt8} (hb : isBlankByte b = false)
    (rest : Bytes) : skipBlanks (gap ++ b :: rest) = b :: rest := by
  rw [skipBlanks, List.dropWhile_append_of_pos h, List.dropWhile_cons, hb]
  rfl

/-! ### Single values -/

/-- The reader reads the text back as the value. -/
def Reads {α : Type} (reader : Reader α) (room : Nat) (text : Bytes) (a : α) : Prop :=
  ∀ gap rest, IsGap gap → Ends rest → reader room (gap ++ (text ++ rest)) = .ok (a, rest)

theorem reads_textAs (expected : String) (room : Nat) (s : String) :
    Reads (textAs expected) room (quoted s) s := by
  intro gap rest hgap _
  obtain ⟨after, hafter, hstring⟩ := string_quoted s rest
  rw [hafter, textAs, skipBlanks_gap hgap (by decide)]
  exact hstring

theorem reads_text (room : Nat) (s : String) : Reads text room (quoted s) s :=
  reads_textAs "a string" room s

theorem reads_parsed {α : Type} (expected : String) {parse : String → Except String α} {s : String}
    {a : α} (h : parse s = .ok a) (room : Nat) :
    Reads (parsed expected parse) room (quoted s) a := by
  intro gap rest hgap hrest
  rw [parsed, reads_textAs expected room s gap rest hgap hrest]
  simp only [bind, Except.bind, h]
  rfl

theorem reads_flag (room : Nat) (b : Bool) :
    Reads flag room (Utf8.bytes (if b then "true" else "false").toList) b := by
  intro gap rest hgap _
  cases b with
  | true =>
    rw [show Utf8.bytes (if true = true then "true" else "false").toList =
      0x74 :: trueTail from rfl, List.cons_append, flag, skipBlanks_gap hgap (by decide)]
    rfl
  | false =>
    rw [show Utf8.bytes (if false = true then "true" else "false").toList =
      0x66 :: falseTail from rfl, List.cons_append, flag, skipBlanks_gap hgap (by decide)]
    rfl

theorem reads_none {α : Type} (reader : Reader α) (room : Nat) :
    Reads (optional reader) room (Utf8.bytes "null".toList) none := by
  intro gap rest hgap _
  rw [show Utf8.bytes "null".toList = 0x6E :: nullTail from rfl, List.cons_append, optional,
    skipBlanks_gap hgap (by decide)]
  rfl

/-- A value that does not start like `null`. -/
theorem Reads.some {α : Type} {reader : Reader α} {room : Nat} {b : UInt8} {tail : Bytes} {a : α}
    (h : Reads reader room (b :: tail) a) (hblank : isBlankByte b = false) (hnull : b ≠ 0x6E) :
    Reads (optional reader) room (b :: tail) (some a) := by
  intro gap rest hgap hrest
  have hread := h [] rest isGap_nil hrest
  rw [List.cons_append, optional, skipBlanks_gap hgap hblank]
  split
  · rename_i heq
    exact (hnull (List.cons.inj heq).1).elim
  · rw [show reader room (b :: (tail ++ rest)) = _ from hread]
    rfl

/-- One of two words. -/
theorem reads_choice {α : Type} {first second : String} (hne : second ≠ first) (a b : α)
    (room : Nat) :
    Reads (choice first second a b) room (quoted first) a ∧
      Reads (choice first second a b) room (quoted second) b := by
  have hpick (s : String) (gap rest : Bytes) (hgap : IsGap gap) (hrest : Ends rest) :
      choice first second a b room (gap ++ (quoted s ++ rest)) =
        if s = first then .ok (a, rest) else if s = second then .ok (b, rest)
        else .error (.here (.unknownVariant s first second) rest) := by
    obtain ⟨after, hafter, -⟩ := string_quoted s rest
    have hread := reads_textAs "variant identifier" room s [] rest isGap_nil hrest
    rw [List.nil_append, hafter] at hread
    rw [hafter, choice]
    dsimp only
    rw [skipBlanks_gap hgap (by decide)]
    dsimp only
    rw [if_neg (by decide), if_pos rfl, hread]
    rfl
  refine ⟨fun gap rest hgap hrest => ?_, fun gap rest hgap hrest => ?_⟩
  · rw [hpick first gap rest hgap hrest, if_pos rfl]
  · rw [hpick second gap rest hgap hrest, if_neg hne, if_pos rfl]

/-- A text is a value. -/
theorem reads_anyValue_string (room : Nat) (s : String) :
    Reads anyValue room (quoted s) (.string s) := by
  intro gap rest hgap _
  obtain ⟨after, hafter, hstring⟩ := string_quoted s rest
  rw [hafter, anyValue, skipBlanks_gap hgap (by decide)]
  dsimp only
  iterate 5 rw [if_neg (by decide)]
  rw [if_pos rfl, hstring]
  rfl

/-! ### Objects -/

/-- A member of an object, with some space before its name and before its value. -/
def memberBytes (before after : Bytes) (m : String × Bytes) : Bytes :=
  before ++ (quoted m.1 ++ 0x3A :: (after ++ m.2))

/-- An object, with some space before its members, before their values, and at its end. -/
def objectBytes (before after last : Bytes) (ms : List (String × Bytes)) : Bytes :=
  0x7B :: ([0x2C].intercalate (ms.map (memberBytes before after)) ++ (last ++ [0x7D]))

/-- Every part but the first has a separator before it. -/
theorem intercalate_cons (separator : UInt8) (part : Bytes) (parts : List Bytes) :
    [separator].intercalate (part :: parts) =
      part ++ parts.flatMap fun part => separator :: part := by
  induction parts generalizing part with
  | nil => simp
  | cons next parts ih =>
    rw [List.intercalate_cons_cons, ih, List.flatMap_cons]
    simp

/-- A walk takes the members of an object, one after the other, from one state to another. -/
inductive Takes {σ : Type} (step : σ → String → Bytes → Except Fault (σ × Bytes)) (after : Bytes) :
    σ → List (String × Bytes) → σ → Prop
  /-- There is none left. -/
  | nil (s : σ) : Takes step after s [] s
  /-- It takes the first, from the colon on. -/
  | cons {s s' s'' : σ} {name : String} {text : Bytes} {ms : List (String × Bytes)}
    (first : ∀ rest, Ends rest → step s name (0x3A :: (after ++ (text ++ rest))) = .ok (s', rest))
    (others : Takes step after s' ms s'') : Takes step after s ((name, text) :: ms) s''

section Walk

variable {before after last : Bytes} (hbefore : IsGap before) (hlast : IsGap last)

include hbefore

omit hbefore in
/-- A member starts with its name. -/
theorem memberBytes_append (before after : Bytes) (m : String × Bytes) (rest : Bytes) :
    ∃ text, memberBytes before after m ++ rest = before ++ 0x22 :: text ∧
      string text = .ok (m.1, 0x3A :: (after ++ (m.2 ++ rest))) := by
  obtain ⟨text, htext, hstring⟩ := string_quoted m.1 (0x3A :: (after ++ (m.2 ++ rest)))
  refine ⟨text, ?_, hstring⟩
  rw [← htext]
  simp [memberBytes]

theorem nextName_first (after : Bytes) (m : String × Bytes) (rest : Bytes) :
    nextName true (memberBytes before after m ++ rest) =
      .ok (some m.1, 0x3A :: (after ++ (m.2 ++ rest))) := by
  obtain ⟨text, hbytes, hstring⟩ := memberBytes_append before after m rest
  rw [hbytes, nextName, skipBlanks_gap hbefore (by decide)]
  dsimp only
  rw [if_neg (by decide), if_pos rfl, if_pos rfl, hstring]
  rfl

theorem nextName_comma (after : Bytes) (m : String × Bytes) (rest : Bytes) :
    nextName false (0x2C :: (memberBytes before after m ++ rest)) =
      .ok (some m.1, 0x3A :: (after ++ (m.2 ++ rest))) := by
  obtain ⟨text, hbytes, hstring⟩ := memberBytes_append before after m rest
  have hcomma := skipBlanks_gap isGap_nil (b := 0x2C) (by decide) (before ++ 0x22 :: text)
  rw [List.nil_append] at hcomma
  rw [hbytes, nextName, hcomma]
  dsimp only
  rw [if_neg (by decide), if_neg Bool.false_ne_true, if_pos rfl,
    skipBlanks_gap hbefore (by decide)]
  dsimp only
  rw [if_pos rfl, hstring]
  rfl

omit hbefore in
include hlast in
/-- The closing bracket ends the walk. -/
theorem nextName_last (first : Bool) (rest : Bytes) :
    nextName first (last ++ 0x7D :: rest) = .ok (none, 0x7D :: rest) := by
  rw [nextName, skipBlanks_gap hlast (by decide)]
  dsimp only
  rw [if_pos rfl]

omit hbefore in
include hlast in
/-- What stands behind a value in an object is no part of it. -/
theorem ends_members (before after : Bytes) (ms : List (String × Bytes)) (rest : Bytes) :
    Ends (ms.flatMap (fun m => 0x2C :: memberBytes before after m) ++ (last ++ 0x7D :: rest)) := by
  cases ms with
  | nil => exact hlast.ends rest
  | cons m ms => exact ends_comma _

include hlast

/-- The walk over the members after the first. -/
theorem foldMembers_others {σ : Type} {step : σ → String → Bytes → Except Fault (σ × Bytes)}
    {s s' : σ} {ms : List (String × Bytes)} (h : Takes step after s ms s') (fuel : Nat)
    (hfuel : ms.length < fuel) (rest : Bytes) :
    foldMembers step fuel false s
        (ms.flatMap (fun m => 0x2C :: memberBytes before after m) ++ (last ++ 0x7D :: rest)) =
      .ok (s', 0x7D :: rest) := by
  induction h generalizing fuel with
  | nil s =>
    obtain ⟨fuel, rfl⟩ : ∃ n, fuel = n + 1 := ⟨fuel - 1, by omega⟩
    rw [List.flatMap_nil, List.nil_append, foldMembers, nextName_last hlast]
    rfl
  | @cons s s' s'' name text ms first others ih =>
    obtain ⟨fuel, rfl⟩ : ∃ n, fuel = n + 1 := ⟨fuel - 1, by omega⟩
    have hnext := nextName_comma hbefore after (name, text)
      (ms.flatMap (fun m => 0x2C :: memberBytes before after m) ++ (last ++ 0x7D :: rest))
    have hfirst := first _ (ends_members hlast before after ms rest)
    have hothers := ih fuel (by simp only [List.length_cons] at hfuel; omega)
    rw [List.flatMap_cons, List.cons_append, List.cons_append, List.append_assoc, foldMembers,
      hnext]
    change (step s name _ >>= fun r => foldMembers step fuel false r.1 r.2) = _
    rw [hfirst]
    exact hothers

/-- **The walk over a written object** takes its members up to the closing bracket. -/
theorem foldMembers_written {σ : Type} {step : σ → String → Bytes → Except Fault (σ × Bytes)}
    {s s' : σ} {ms : List (String × Bytes)} (h : Takes step after s ms s') {fuel : Nat}
    (hfuel : ms.length < fuel) (rest : Bytes) :
    foldMembers step fuel true s
        ([0x2C].intercalate (ms.map (memberBytes before after)) ++ (last ++ 0x7D :: rest)) =
      .ok (s', 0x7D :: rest) := by
  obtain ⟨fuel, rfl⟩ : ∃ n, fuel = n + 1 := ⟨fuel - 1, by omega⟩
  cases h with
  | nil s =>
    rw [List.map_nil, List.intercalate_nil, List.nil_append, foldMembers, nextName_last hlast]
    rfl
  | @cons _ s' _ name text ms first others =>
    have hnext := nextName_first hbefore after (name, text)
      (ms.flatMap (fun m => 0x2C :: memberBytes before after m) ++ (last ++ 0x7D :: rest))
    have hfirst := first _ (ends_members hlast before after ms rest)
    have hothers := foldMembers_others hbefore hlast others fuel
      (by simp only [List.length_cons] at hfuel; omega) rest
    rw [List.map_cons, intercalate_cons, List.flatMap_map, List.append_assoc, foldMembers, hnext]
    change (step s name _ >>= fun r => foldMembers step fuel false r.1 r.2) = _
    rw [hfirst]
    exact hothers

end Walk

theorem length_le_length_flatMap (separator : UInt8) (parts : List Bytes) :
    parts.length ≤ (parts.flatMap fun part => separator :: part).length := by
  induction parts with
  | nil => simp
  | cons part parts ih =>
    rw [List.flatMap_cons, List.length_append, List.length_cons, List.length_cons]
    omega

/-- An object is longer than it has members. -/
theorem length_le_length_object (before after : Bytes) (ms : List (String × Bytes)) (rest : Bytes) :
    ms.length ≤
      ([0x2C].intercalate (ms.map (memberBytes before after)) ++ rest).length := by
  cases ms with
  | nil => simp
  | cons m ms =>
    have hfirst : 1 ≤ (memberBytes before after m).length := by
      rw [memberBytes, List.length_append, List.length_append, List.length_cons]
      omega
    have hothers := length_le_length_flatMap 0x2C (ms.map (memberBytes before after))
    rw [List.length_map] at hothers
    rw [List.map_cons, intercalate_cons, List.length_cons, List.length_append, List.length_append]
    omega

/-- The closing bracket of an object. -/
theorem settleObject_ok {α : Type} (a : α) (rest : Bytes) :
    settleObject (.ok (a, 0x7D :: rest)) = .ok (a, rest) := rfl

/-- A walk over a written object that may be as long as the text. -/
theorem settleObject_foldMembers {σ : Type}
    {step : σ → String → Bytes → Except Fault (σ × Bytes)} {before after last : Bytes}
    (hbefore : IsGap before) (hlast : IsGap last) {s s' : σ} {ms : List (String × Bytes)}
    (h : Takes step after s ms s') (rest : Bytes) :
    ∃ inner, objectBytes before after last ms ++ rest = 0x7B :: inner ∧
      foldMembers step (inner.length + 1) true s inner = .ok (s', 0x7D :: rest) := by
  refine ⟨_, ?_, foldMembers_written hbefore hlast h
    (Nat.lt_succ_of_le (length_le_length_object before after ms (last ++ 0x7D :: rest))) rest⟩
  simp [objectBytes]

/-! ### Records -/

theorem colon_cons (rest : Bytes) : colon (0x3A :: rest) = .ok rest := rfl

namespace Layout

variable {σ α β : Type} {layout : Layout σ α}

/-- A field that is not set yet takes its member. -/
theorem takes_cons {room : Nat} {after : Bytes} (hafter : IsGap after) {name : String}
    {get : σ → Option β} {set : σ → β → σ} {value : Reader β} {omissible : Bool}
    (hfield : layout.fields.find? (·.name == name) = some (.of name get set value omissible))
    {draft draft' : σ} (hset : get draft = none) {text : Bytes} {b : β}
    (hvalue : Reads value room text b) {ms : List (String × Bytes)}
    (others : Takes (layout.member room) after (set draft b) ms draft') :
    Takes (layout.member room) after draft ((name, text) :: ms) draft' := by
  refine .cons (fun rest hrest => ?_) others
  have hunset : (Field.of name get set value omissible).isSet draft = false := by
    change (get draft).isSome = false
    rw [hset]
    rfl
  rw [member, hfield]
  dsimp only
  rw [hunset, if_neg Bool.false_ne_true]
  change (value room (after ++ (text ++ rest))).map _ = _
  rw [hvalue after rest hafter hrest]
  rfl

/-- **A record is read back** if a walk takes its members to a draft that makes it. -/
theorem reads_record {room : Nat} {before after last : Bytes} (hbefore : IsGap before)
    (hlast : IsGap last) {ms : List (String × Bytes)} {draft : σ} {a : α}
    (h : Takes (layout.member room) after layout.empty ms draft)
    (hmake : layout.make draft = .ok a) :
    Reads layout.record (room + 1) (objectBytes before after last ms) a := by
  intro gap rest hgap _
  obtain ⟨inner, hinner, hfold⟩ := settleObject_foldMembers hbefore hlast h rest
  rw [hinner, record, skipBlanks_gap hgap (by decide)]
  dsimp only
  rw [if_neg (by decide), if_pos rfl]
  change settleObject (layout.made _) = _
  rw [hfold, made]
  simp only [bind, Except.bind, hmake]
  exact settleObject_ok a rest

end Layout

/-! ### The space that files have -/

/-- The start of a line on a level. -/
theorem isGap_newLine (level : Nat) : IsGap (Utf8.bytes (Value.newLine level)) := by
  have hblanks (n : Nat) : Utf8.bytes (List.replicate n ' ') = List.replicate n 0x20 := by
    induction n with
    | zero => rfl
    | succ n ih =>
      rw [List.replicate_succ, List.replicate_succ, Utf8.bytes_cons, ih]
      rfl
  have hbreak : String.utf8EncodeChar '\n' = [0x0A] := rfl
  intro b hb
  rw [Value.newLine, Utf8.bytes_cons, hblanks, hbreak, List.singleton_append, List.mem_cons] at hb
  obtain rfl | hb := hb
  · rfl
  · rw [List.eq_of_mem_replicate hb]
    rfl

theorem bytes_intercalate (parts : List (List Char)) :
    Utf8.bytes ([','].intercalate parts) = [0x2C].intercalate (parts.map Utf8.bytes) := by
  induction parts with
  | nil => rfl
  | cons part parts ih =>
    cases parts with
    | nil => simp
    | cons next parts =>
      have hcomma : Utf8.bytes [','] = [0x2C] := rfl
      rw [List.intercalate_cons_cons, Utf8.bytes_append, Utf8.bytes_append, ih, hcomma,
        List.map_cons, List.map_cons, List.map_cons, List.intercalate_cons_cons]

/-- A member on a line of its own. -/
theorem bytes_prettyMembers (level : Nat) (ms : List (String × Value)) :
    (Value.prettyMembers level ms).map (fun cs => Utf8.bytes (Value.newLine level ++ cs)) =
      ms.map fun m => memberBytes (Utf8.bytes (Value.newLine level)) [0x20]
        (m.1, Utf8.bytes (m.2.prettyChars level)) := by
  induction ms with
  | nil => rfl
  | cons m ms ih =>
    obtain ⟨name, v⟩ := m
    have hcolon : Utf8.bytes [':', ' '] = [0x3A, 0x20] := rfl
    rw [Value.prettyMembers, List.map_cons, List.map_cons, ih, memberBytes, quoted,
      Utf8.bytes_append, Utf8.bytes_append, Utf8.bytes_append, hcolon, List.append_assoc]
    rfl

/-- **An object over several lines** has the space of an object. -/
theorem bytes_pretty_object (level : Nat) {ms : List (String × Value)} (hne : ms ≠ []) :
    Utf8.bytes ((Value.object ms).prettyChars level) =
      objectBytes (Utf8.bytes (Value.newLine (level + 1))) [0x20]
        (Utf8.bytes (Value.newLine level))
        (ms.map fun m => (m.1, Utf8.bytes (m.2.prettyChars (level + 1)))) := by
  obtain ⟨part, parts, hparts⟩ : ∃ part parts, Value.prettyMembers (level + 1) ms =
      part :: parts := by
    cases ms with
    | nil => exact (hne rfl).elim
    | cons m ms => exact ⟨_, _, rfl⟩
  have hopen : Utf8.bytes ['\x7b'] = [0x7B] := rfl
  have hclose : Utf8.bytes ['\x7d'] = [0x7D] := rfl
  have hspread : (Value.object ms).prettyChars level =
      ['\x7b'] ++ [','].intercalate
        ((Value.prettyMembers (level + 1) ms).map (Value.newLine (level + 1) ++ ·)) ++
      Value.newLine level ++ ['\x7d'] := by
    rw [Value.prettyChars, hparts]
    rfl
  have hmap := bytes_prettyMembers (level + 1) ms
  rw [hspread, Utf8.bytes_append, Utf8.bytes_append, Utf8.bytes_append, hopen, hclose,
    bytes_intercalate, List.map_map, objectBytes, List.map_map]
  simp only [Function.comp_def]
  rw [hmap]
  simp

/-! ### Values over several lines -/

theorem isGap_blank : IsGap [0x20] := by
  intro b hb
  rw [List.mem_singleton.1 hb]
  rfl

/-- The reader reads back what the value is written as, on whatever level. -/
def Restores {α : Type} (reader : Reader α) (room : Nat) (v : Value) (a : α) : Prop :=
  ∀ level, Reads reader room (Utf8.bytes (v.prettyChars level)) a

/-- The members of an object on a level. -/
def written (level : Nat) (ms : List (String × Value)) : List (String × Bytes) :=
  ms.map fun m => (m.1, Utf8.bytes (m.2.prettyChars level))

variable {α β σ : Type} {room : Nat}

theorem restores_text (s : String) : Restores text room (.string s) s :=
  fun _ => reads_text room s

theorem restores_flag (b : Bool) : Restores flag room (.bool b) b :=
  fun _ => reads_flag room b

theorem restores_null (reader : Reader α) : Restores (optional reader) room .null none :=
  fun _ => reads_none reader room

theorem Restores.some_string {reader : Reader α} {s : String} {a : α}
    (h : Restores reader room (.string s) a) :
    Restores (optional reader) room (.string s) (some a) := by
  intro level
  exact Reads.some (h level) (by decide) (by decide)

theorem Restores.some_object {reader : Reader α} {ms : List (String × Value)} (hne : ms ≠ [])
    {a : α} (h : Restores reader room (.object ms) a) :
    Restores (optional reader) room (.object ms) (some a) := by
  intro level
  have hread := h level
  rw [bytes_pretty_object level hne, objectBytes] at hread ⊢
  exact Reads.some hread (by decide) (by decide)

/-- A record is read back if its fields take the members on every level. -/
theorem Layout.restores_record {layout : Layout σ α} {ms : List (String × Value)} (hne : ms ≠ [])
    (draft : σ) {a : α}
    (htakes : ∀ level,
      Takes (layout.member room) [0x20] layout.empty (written level ms) draft)
    (hmake : layout.make draft = .ok a) :
    Restores layout.record (room + 1) (.object ms) a := by
  intro level
  rw [bytes_pretty_object level hne]
  exact layout.reads_record (isGap_newLine (level + 1)) (isGap_newLine level)
    (htakes (level + 1)) hmake

/-- The next field takes the next member. -/
theorem Layout.takes_written {layout : Layout σ α} {level : Nat} {name : String}
    {get : σ → Option β} {set : σ → β → σ} {value : Reader β} {omissible : Bool}
    (hfield : layout.fields.find? (·.name == name) = some (.of name get set value omissible))
    {draft draft' : σ} (hset : get draft = none) {v : Value} {b : β}
    (hvalue : Restores value room v b) {ms : List (String × Value)}
    (others : Takes (layout.member room) [0x20] (set draft b) (written level ms) draft') :
    Takes (layout.member room) [0x20] draft (written level ((name, v) :: ms)) draft' :=
  layout.takes_cons isGap_blank hfield hset (hvalue level) others

end SignIn.Json
