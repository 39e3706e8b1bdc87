import Mathlib.Data.Nat.Digits.Defs
import SignIn.Menu
import SignIn.Proofs.Text.Blank
import SignIn.Proofs.Text.Utf8

/-!
# Numbers at a menu

A menu is answered by a number and by nothing else.  What is typed is a number if the first line
is text that has digits, after a plus sign or not, and blanks around them; the end of the line
counts as a blank.  The number picks the option that is shown with it, if there is one and the
number fits into a word.

## Main definitions

* `Menu.IsNumeral`, `Menu.IsNumber` — a number, alone and with blanks around it.
* `Menu.Types` — a number is typed.
* `Menu.IsNumbered` — the laws of a menu.

## Main results

* `Menu.number?_trim_eq_some_iff` — what is read is a number, and every number that fits is read.
* `Menu.number?_surrounded` — a numeral is read as its number.
* `Menu.picked?_of_number?` — a number picks the option that has it.
* `Menu.answer?_eq_some_iff`, `Menu.answer?_eq_none_iff` — what is typed picks an option by the
  number in its first line, or nothing.
* `Menu.isNumbered` — every menu keeps to the laws.
-/

namespace SignIn

namespace Menu

open SignIn.Text

/-! ### Numbers -/

/-- Characters that stand for a number: digits, after a plus sign or not. -/
inductive IsNumeral : List Char → Nat → Prop
  /-- Digits alone. -/
  | plain {digits : List Char} (hne : digits ≠ []) (h : ∀ c ∈ digits, c.isDigit = true) :
    IsNumeral digits (Nat.ofDigitChars 10 digits 0)
  /-- Digits after a plus sign. -/
  | signed {digits : List Char} (hne : digits ≠ []) (h : ∀ c ∈ digits, c.isDigit = true) :
    IsNumeral ('+' :: digits) (Nat.ofDigitChars 10 digits 0)

/-- A line with a number and blanks around it. -/
def IsNumber (line : List Char) (n : Nat) : Prop :=
  ∃ before numeral after, line = before ++ numeral ++ after ∧
    (∀ c ∈ before, isBlank c = true) ∧ (∀ c ∈ after, isBlank c = true) ∧ IsNumeral numeral n

theorem isBlank_of_isNumeral {cs : List Char} {n : Nat} (h : IsNumeral cs n) :
    ∀ c ∈ cs, isBlank c = false := by
  have hdigits {digits : List Char} (hd : ∀ c ∈ digits, c.isDigit = true) :
      ∀ c ∈ digits, isBlank c = false := fun c hc => isBlank_of_isDigit (hd c hc)
  cases h with
  | plain hne hd => exact hdigits hd
  | signed hne hd => exact List.forall_mem_cons.2 ⟨by decide, hdigits hd⟩

theorem ne_nil_of_isNumeral {cs : List Char} {n : Nat} (h : IsNumeral cs n) : cs ≠ [] := by
  cases h with
  | plain hne => exact hne
  | signed => exact List.cons_ne_nil _ _

theorem isNumeral_toDigits (n : Nat) : IsNumeral (Nat.toDigits 10 n) n := by
  have hdigit : ∀ c ∈ Nat.toDigits 10 n, c.isDigit = true := by
    intro c hc
    exact Nat.isDigit_of_mem_toDigits (by decide) (by decide) hc
  have h := IsNumeral.plain Nat.toDigits_ne_nil hdigit
  rwa [Nat.ofDigitChars_ten_toDigits] at h

theorem digits?_eq_some_iff {cs : List Char} {n : Nat} :
    digits? cs = some n ↔
      cs ≠ [] ∧ (∀ c ∈ cs, c.isDigit = true) ∧ Nat.ofDigitChars 10 cs 0 = n := by
  cases cs with
  | nil => simp [digits?]
  | cons c cs =>
    have hread : digits? (c :: cs) =
        if (c :: cs).all Char.isDigit then some (Nat.ofDigitChars 10 (c :: cs) 0) else none := rfl
    rw [hread, Option.ite_none_right_eq_some, List.all_eq_true, Option.some.injEq]
    simp

theorem isNumeral_plus_iff {cs : List Char} {n : Nat} :
    IsNumeral ('+' :: cs) n ↔ digits? cs = some n := by
  rw [digits?_eq_some_iff]
  constructor
  · intro h
    cases h with
    | plain hne hd => exact absurd (hd '+' List.mem_cons_self) (by decide)
    | signed hne hd => exact ⟨hne, hd, rfl⟩
  · rintro ⟨hne, hd, rfl⟩
    exact .signed hne hd

theorem isNumeral_iff_of_ne {cs : List Char} (hplus : ∀ ds, cs ≠ '+' :: ds) {n : Nat} :
    IsNumeral cs n ↔ digits? cs = some n := by
  rw [digits?_eq_some_iff]
  constructor
  · intro h
    cases h with
    | plain hne hd => exact ⟨hne, hd, rfl⟩
    | signed hne hd => exact absurd rfl (hplus _)
  · rintro ⟨hne, hd, rfl⟩
    exact .plain hne hd

/-- What is read as a number is one that fits into a word. -/
theorem number?_eq_some_iff {s : String} {n : Nat} :
    number? s = some n ↔ IsNumeral s.toList n ∧ n < UInt64.size := by
  unfold number?
  rw [Option.filter_eq_some_iff, decide_eq_true_eq, and_congr_left_iff]
  intro _
  split
  · rename_i cs heq
    rw [heq, isNumeral_plus_iff]
  · rename_i hplus
    exact (isNumeral_iff_of_ne hplus).symm

/-! ### Numbers in a line -/

theorem isNumber_iff {line : List Char} {n : Nat} :
    IsNumber line n ↔ IsNumeral (strip isBlank line) n := by
  constructor
  · rintro ⟨before, numeral, after, rfl, hbefore, hafter, h⟩
    rwa [strip_surrounded hbefore hafter (ne_nil_of_isNumeral h) (isBlank_of_isNumeral h)]
  · intro h
    obtain ⟨before, after, heq, hbefore, hafter⟩ := exists_strip isBlank line
    exact ⟨before, strip isBlank line, after, heq, hbefore, hafter, h⟩

/-- **What is read of a line is a number** with blanks around it, and every number that fits into a
word is read. -/
theorem number?_trim_eq_some_iff {line : String} {n : Nat} :
    number? (trim line) = some n ↔ IsNumber line.toList n ∧ n < UInt64.size := by
  rw [number?_eq_some_iff, isNumber_iff, trim, String.toList_ofList]

/-- **A numeral is read as its number**, with or without blanks around it. -/
theorem number?_surrounded {n : Nat} (hn : n < UInt64.size) {before after : List Char}
    (hbefore : ∀ c ∈ before, isBlank c = true) (hafter : ∀ c ∈ after, isBlank c = true) :
    number? (trim (String.ofList (before ++ Nat.toDigits 10 n ++ after))) = some n := by
  rw [number?_trim_eq_some_iff, String.toList_ofList]
  exact ⟨⟨before, _, after, rfl, hbefore, hafter, isNumeral_toDigits n⟩, hn⟩

/-! ### Options -/

/-- A number picks the option that it stands at. -/
theorem picked?_of_number? {line : String} {k : Nat} (h : number? (trim line) = some (k + 1))
    (options : List String) : picked? options line = options[k]? := by
  unfold picked?
  rw [h]

/-- A line picks an option exactly if it has the number of the option. -/
theorem picked?_eq_some_iff {options : List String} {line option : String} :
    picked? options line = some option ↔
      ∃ k, IsNumber line.toList (k + 1) ∧ k + 1 < UInt64.size ∧ options[k]? = some option := by
  simp only [← and_assoc, ← number?_trim_eq_some_iff]
  constructor
  · intro h
    unfold picked? at h
    split at h
    · rename_i k hk
      exact ⟨k, hk, h⟩
    · cases h
  · rintro ⟨k, hk, h⟩
    rw [picked?_of_number? hk, h]

theorem picked?_withoutLineEnd (options : List String) (line : String) :
    picked? options (withoutLineEnd line) = picked? options line := by
  rw [picked?, trim_withoutLineEnd, picked?]

/-! ### What is typed -/

theorem firstLine_append {bs : Bytes} (h : 0x0A ∉ bs) (rest : Bytes) :
    firstLine (bs ++ 0x0A :: rest) = bs ++ [0x0A] := by
  induction bs with
  | nil => rw [List.nil_append, firstLine, if_pos rfl, List.nil_append]
  | cons b bs ih =>
    rw [List.mem_cons, not_or] at h
    obtain ⟨hb, hbs⟩ := h
    rw [List.cons_append, firstLine, if_neg (Ne.symm hb), ih hbs, List.cons_append]

/-- No other character has a byte that ends a line. -/
theorem eq_newline_of_mem_encoded {c : Char} (h : 0x0A ∈ String.utf8EncodeChar c) : c = '\n' := by
  by_cases hc : c.toNat < 128
  · rw [Utf8.encoded_of_lt hc, List.mem_singleton] at h
    have hbyte : (UInt8.ofNat c.toNat).toNat = c.toNat := Utf8.toNat_byte (by omega)
    rw [← h] at hbyte
    exact Char.toNat_inj.1 hbyte.symm
  · exact absurd (Utf8.le_of_mem_encoded (by omega) h) (by decide)

/-- The first line of what is typed is the text up to its end. -/
theorem firstLine_encode {line : String} (h : '\n' ∉ line.toList) (rest : Bytes) :
    firstLine (Utf8.encode (line ++ "\n") ++ rest) = Utf8.encode (line ++ "\n") := by
  have hbytes : 0x0A ∉ Utf8.bytes line.toList := by
    intro hmem
    obtain ⟨c, hc, hcode⟩ := List.mem_flatMap.1 hmem
    exact h (eq_newline_of_mem_encoded hcode ▸ hc)
  have hencode : Utf8.encode (line ++ "\n") = Utf8.bytes line.toList ++ [0x0A] := by
    rw [Utf8.encode_eq_bytes, String.toList_append, Utf8.bytes_append]
    rfl
  rw [hencode, List.append_assoc, List.singleton_append, firstLine_append hbytes]

/-- A number is typed: the first line is text that has it, with blanks around it. -/
def Types (typed : Bytes) (n : Nat) : Prop :=
  ∃ line, firstLine typed = Utf8.encode line ∧ IsNumber line.toList n

/-- Who types a number in digits types the number, whatever is typed behind the line. -/
theorem types_toString (n : Nat) (rest : Bytes) :
    Types (Utf8.encode (toString n ++ "\n") ++ rest) n := by
  have hnumeral : (toString n).toList = Nat.toDigits 10 n := by
    rw [Nat.toString_eq_ofList_toDigits, String.toList_ofList]
  have hline : '\n' ∉ (toString n).toList := by
    intro hmem
    have hdigit := Nat.isDigit_of_mem_toDigits (by decide) (by decide) (hnumeral ▸ hmem)
    exact absurd hdigit (by decide)
  refine ⟨_, firstLine_encode hline rest, [], _, ['\n'], ?_, ?_, ?_, isNumeral_toDigits n⟩
  · rw [String.toList_append, hnumeral, List.nil_append]
    rfl
  · exact fun c hc => absurd hc List.not_mem_nil
  · exact List.forall_mem_singleton.2 (by decide)

/-- What is typed picks an option exactly if it is the number of the option and fits into a
word. -/
theorem answer?_eq_some_iff {options : List String} {typed : Bytes} {option : String} :
    answer? options typed = some option ↔
      ∃ n, Types typed n ∧ 1 ≤ n ∧ n ≤ options.length ∧ n < UInt64.size ∧
        options[n - 1]? = some option := by
  unfold answer?
  simp only [Option.bind_eq_some_iff, Utf8.decode?_eq_some_iff, picked?_withoutLineEnd,
    picked?_eq_some_iff]
  constructor
  · rintro ⟨line, hline, k, hn, hfits, hoption⟩
    have hlt := (List.getElem?_eq_some_iff.1 hoption).1
    exact ⟨k + 1, ⟨line, hline, hn⟩, by omega, by omega, hfits, hoption⟩
  · rintro ⟨n, ⟨line, hline, hn⟩, hpos, -, hfits, hoption⟩
    obtain ⟨k, rfl⟩ := Nat.exists_eq_add_of_le' hpos
    exact ⟨line, hline, k, hn, hfits, hoption⟩

/-- All else picks nothing. -/
theorem answer?_eq_none_iff {options : List String} {typed : Bytes} :
    answer? options typed = none ↔
      ∀ n, Types typed n → ¬ (1 ≤ n ∧ n ≤ options.length ∧ n < UInt64.size) := by
  rw [Option.eq_none_iff_forall_ne_some]
  constructor
  · rintro hnone n hn ⟨hpos, hle, hfits⟩
    have hlt : n - 1 < options.length := by omega
    refine hnone options[n - 1] ?_
    rw [answer?_eq_some_iff]
    exact ⟨n, hn, hpos, hle, hfits, List.getElem?_eq_getElem hlt⟩
  · intro hall option hsome
    obtain ⟨n, hn, hpos, hle, hfits, -⟩ := answer?_eq_some_iff.1 hsome
    exact hall n hn ⟨hpos, hle, hfits⟩

/-! ### The laws -/

/-- The laws of a menu on a terminal. -/
structure IsNumbered (m : Menu) : Prop where
  /-- The lines for the options are shown between the question and the request for a number. -/
  text_eq : m.text = m.title ++ "\n" ++ m.prompt ++ "\n" ++
    String.join (m.optionLines.map (· ++ "\n")) ++ "Profile number (empty to cancel): "
  /-- There is a line for each option. -/
  length_eq : m.optionLines.length = m.options.length
  /-- It has the number of the option, counted from one, in front. -/
  shown {k : Nat} {option : String} (h : m.options[k]? = some option) :
    m.optionLines[k]? = some ("  [" ++ toString (k + 1) ++ "] " ++ option)
  /-- Who types that number picks the option. -/
  echoed {k : Nat} {option : String} (h : m.options[k]? = some option)
    (hk : k + 1 < UInt64.size) (rest : Bytes) :
    answer? m.options (Utf8.encode (toString (k + 1) ++ "\n") ++ rest) = some option
  /-- An option is picked exactly by a number that it is shown with and that fits into a word. -/
  picked_iff {typed : Bytes} {option : String} : answer? m.options typed = some option ↔
    ∃ n, Types typed n ∧ 1 ≤ n ∧ n ≤ m.options.length ∧ n < UInt64.size ∧
      m.options[n - 1]? = some option
  /-- All else picks nothing. -/
  nothing_iff {typed : Bytes} : answer? m.options typed = none ↔
    ∀ n, Types typed n → ¬ (1 ≤ n ∧ n ≤ m.options.length ∧ n < UInt64.size)

/-- **Every menu is answered by its numbers**, and by nothing else. -/
theorem isNumbered (m : Menu) : m.IsNumbered := by
  refine ⟨?text, ?length, ?shown, ?echoed, answer?_eq_some_iff, answer?_eq_none_iff⟩
  case text => simp only [text, List.map_cons, String.join_cons, String.append_assoc]
  case length => simp [optionLines]
  case shown =>
    intro k option h
    simp [optionLines, h]
  case echoed =>
    intro k option h hk rest
    have hlt := (List.getElem?_eq_some_iff.1 h).1
    rw [answer?_eq_some_iff]
    exact ⟨k + 1, types_toString (k + 1) rest, by omega, hlt, hk, h⟩

end Menu

end SignIn
