import SignIn.Proofs.Json.Meaning
import SignIn.Proofs.Time.Instant

/-!
# Whole numbers

A whole number that fits 64 bits is read back from its digits, whatever stands behind it.  A reader
of such numbers takes nothing else: no fraction, no exponent and no greater number, for these are
read as doubles.

## Main definitions

* `numeralOf` — a whole number as it is written.
* `Tree.word?` — the whole number that a tree comes to.

## Main results

* `number_numeralOf` — **the digits of a number are read as the number.**
* `readsAs_word64` — what a reader of whole numbers makes of a tree.
* `restores_word64` — a whole number is read back from what it is written as.
-/

namespace SignIn.Json

open SignIn.Text SignIn.Number

/-- A whole number as it is written. -/
def numeralOf (n : Nat) : Bytes := Utf8.bytes (Nat.toDigits 10 n)

/-! ### Digits -/

/-- A digit is written as one byte, which is the digit. -/
theorem encoded_digit {c : Char} (h : c.isDigit = true) : ∃ b,
    String.utf8EncodeChar c = [b] ∧ isDigit b = true ∧ digitValue b = c.toNat - '0'.toNat ∧
      (b = 0x30 → c = '0') := by
  obtain ⟨hlow, hhigh⟩ : 48 ≤ c.toNat ∧ c.toNat ≤ 57 := by
    simpa [Char.isDigit, UInt32.le_iff_toNat_le] using h
  have hbyte : (UInt8.ofNat c.toNat).toNat = c.toNat := Utf8.toNat_byte (by omega)
  refine ⟨UInt8.ofNat c.toNat, Utf8.encoded_of_lt (by omega), ?_, ?_, fun hzero => ?_⟩
  · simp only [isDigit, Bool.and_eq_true, decide_eq_true_eq, UInt8.le_iff_toNat_le, hbyte]
    exact ⟨hlow, hhigh⟩
  · rw [digitValue, hbyte]
    rfl
  · rw [hzero] at hbyte
    exact Char.toNat_inj.1 hbyte.symm

theorem isDigit_toDigits (n : Nat) : ∀ c ∈ Nat.toDigits 10 n, c.isDigit = true :=
  fun _ hc => Nat.isDigit_of_mem_toDigits (by decide) (by decide) hc

/-- No zero stands at the front of a number, but for zero itself. -/
theorem head?_toDigits_ne {n : Nat} (h : 0 < n) : (Nat.toDigits 10 n).head? ≠ some '0' := by
  induction n using Nat.strongRecOn with
  | ind n ih =>
    by_cases hn : n < 10
    · rw [Nat.toDigits_of_lt_base hn, List.head?_cons, ne_eq, Option.some.injEq,
        Nat.digitChar_eq_zero]
      omega
    · rw [Nat.toDigits_of_base_le (by decide) (by omega), List.head?_append_of_ne_nil _
        Nat.toDigits_ne_nil]
      exact ih (n / 10) (by omega) (by omega)

/-- Digits of a number that fits are gathered, all of them. -/
theorem gather_digits {cs : List Char} (hcs : ∀ c ∈ cs, c.isDigit = true) {s : Nat}
    (hmax : Nat.ofDigitChars 10 cs s ≤ maxWord) {rest : Bytes} (hrest : StartsNoDigit rest) :
    gather s (Utf8.bytes cs ++ rest) = (Nat.ofDigitChars 10 cs s, cs.length, rest) := by
  induction cs generalizing s with
  | nil =>
    cases rest with
    | nil => rfl
    | cons b rest =>
      rw [Utf8.bytes_nil, List.nil_append, gather, if_neg fun h => not_isDigit_of_starts hrest h.1]
      rfl
  | cons c cs ih =>
    obtain ⟨b, hb, hdigit, hvalue, -⟩ := encoded_digit (hcs c List.mem_cons_self)
    have hstep : s * 10 + digitValue b = 10 * s + (c.toNat - '0'.toNat) := by
      rw [hvalue, Nat.mul_comm]
    rw [Nat.ofDigitChars_cons] at hmax ⊢
    have hfits := Nat.le_trans (Time.Instant.le_ofDigitChars cs _) hmax
    rw [Utf8.bytes_cons, hb, List.singleton_append, List.cons_append, gather, hstep,
      if_pos ⟨hdigit, hfits⟩, ih (fun c hc => hcs c (List.mem_cons_of_mem _ hc)) hmax]
    rfl

/-! ### Numbers -/

/-- The digits of a positive number start with one that is no zero. -/
theorem exists_numeralOf {n : Nat} (h : 0 < n) : ∃ d ds, numeralOf n = d :: ds ∧ d ≠ 0x30 ∧
    ∀ b ∈ d :: ds, isDigit b = true := by
  obtain ⟨c, cs, hcs⟩ := List.exists_cons_of_ne_nil (Nat.toDigits_ne_nil (b := 10) (n := n))
  have hdigits := isDigit_toDigits n
  have hhead := head?_toDigits_ne h
  rw [hcs] at hdigits hhead
  obtain ⟨d, hd, -, -, hzero⟩ := encoded_digit (hdigits c List.mem_cons_self)
  have hbytes : numeralOf n = d :: Utf8.bytes cs := by
    rw [numeralOf, hcs, Utf8.bytes_cons, hd, List.singleton_append]
  refine ⟨d, Utf8.bytes cs, hbytes, fun h => hhead (congrArg some (hzero h)), ?_⟩
  intro b hb
  rw [← hbytes, numeralOf, hcs, Utf8.bytes, List.mem_flatMap] at hb
  obtain ⟨c', hc', hb⟩ := hb
  obtain ⟨b', hb', hdigit, -⟩ := encoded_digit (hdigits c' hc')
  rw [hb', List.mem_singleton] at hb
  rwa [hb]

/-- **The digits of a number are read as the number**, if it fits. -/
theorem number_numeralOf {n : Nat} (h : n ≤ maxWord) {rest : Bytes} (hrest : Ends rest) :
    number false (numeralOf n ++ rest) = .ok (.integer n, rest) := by
  have hwhole : afterWhole false n rest = .ok (.integer n, rest) := afterWhole_of_ends hrest false n
  obtain rfl | hpos := Nat.eq_zero_or_pos n
  · rw [← hwhole]
    cases rest with
    | nil => rfl
    | cons b rest => exact if_neg (not_isDigit_of_starts hrest.startsNoDigit)
  · obtain ⟨d, ds, hbytes, hzero, hds⟩ := exists_numeralOf hpos
    have hread : Nat.ofDigitChars 10 (Nat.toDigits 10 n) 0 = n := Nat.ofDigitChars_ten_toDigits
    have hgather := gather_digits (isDigit_toDigits n) (by rwa [hread]) hrest.startsNoDigit
    rw [hread, ← numeralOf, hbytes, List.cons_append] at hgather
    rw [hbytes, List.cons_append, number_of_gather false hzero (hds d List.mem_cons_self) hgather
      hrest.startsNoDigit, hwhole]

/-- They are a number of the grammar. -/
theorem isNumeral_numeralOf (n : Nat) : IsNumeral (numeralOf n) := by
  have hwhole : IsWhole (numeralOf n) := by
    obtain rfl | hpos := Nat.eq_zero_or_pos n
    · exact .zero
    · obtain ⟨d, ds, hbytes, hzero, hds⟩ := exists_numeralOf hpos
      rw [hbytes]
      exact .digits ⟨List.cons_ne_nil _ _, hds⟩ fun h => hzero (Option.some.inj h)
  have hmagnitude := IsMagnitude.parts hwhole .none .none
  rw [List.append_nil, List.append_nil] at hmagnitude
  exact .positive hmagnitude

theorem numeral?_numeralOf {n : Nat} (h : n ≤ maxWord) :
    numeral? (numeralOf n) = some (.integer n) := by
  have hread := number_numeralOf h ends_nil
  rw [List.append_nil] at hread
  have hmagnitude : magnitude? false (numeralOf n) = some (.integer n) := by
    rw [magnitude?, hread]
    rfl
  obtain rfl | hpos := Nat.eq_zero_or_pos n
  · exact hmagnitude
  · -- no digit is a minus
    obtain ⟨d, ds, hbytes, -, hds⟩ := exists_numeralOf hpos
    rw [← hmagnitude, hbytes]
    exact numeral?.eq_2 _ fun bs hbs =>
      ne_of_isDigit (hds d List.mem_cons_self) (by decide) (List.cons.inj hbs).1

/-! ### Readers -/

/-- The whole number that a numeral is, if it is one that is not negative. -/
def Numeral.natural? : Numeral → Option Nat
  | .integer (.ofNat n) => some n
  | _ => none

/-- The whole number that a tree comes to: a number without fraction and exponent that fits. -/
def Tree.word? : Tree → Option Nat
  | .number digits => (numeral? digits).bind Numeral.natural?
  | _ => none

@[simp] theorem word?_numeralOf {n : Nat} (h : n ≤ maxWord) :
    (Tree.number (numeralOf n)).word? = some n := by
  rw [Tree.word?, numeral?_numeralOf h]
  rfl

/-- A reader of whole numbers goes on with what is read as any number. -/
theorem toOption_word64 {b : UInt8} (hb : b = 0x2D ∨ isDigit b = true) (room : Nat) {gap : Bytes}
    (hgap : IsGap gap) (rest : Bytes) : (word64 room (gap ++ b :: rest)).toOption =
      ((if b = 0x2D then number true rest else number false (b :: rest)).toOption).bind
        fun p => p.1.natural?.map (·, p.2) := by
  have hblank : isBlankByte b = false := by
    obtain rfl | hb := hb
    · rfl
    · exact isBlankByte_of_isDigit hb
  rw [word64, skipBlanks_gap hgap hblank]
  dsimp only
  rw [if_pos hb]
  by_cases hminus : b = 0x2D
  · rw [if_pos hminus, if_pos hminus, toOption_bind]
    refine congrArg (Option.bind _) (funext fun p => ?_)
    obtain ⟨(n | n) | x, rest⟩ := p <;> rfl
  · rw [if_neg hminus, if_neg hminus, toOption_bind]
    refine congrArg (Option.bind _) (funext fun p => ?_)
    obtain ⟨(n | n) | x, rest⟩ := p <;> rfl

/-- **A reader of whole numbers** makes of a tree what it comes to. -/
theorem readsAs_word64 (room : Nat) (t : Tree) : ReadsAs word64 room t t.word? := by
  intro bytes htext gap hgap rest hrest
  cases htext with
  | number h =>
    cases h with
    | positive h =>
      have hread := gives_magnitude false h rest hrest
      obtain ⟨b, tail, rfl, hb⟩ := h.head
      have hminus : b ≠ 0x2D := ne_of_isDigit hb (by decide)
      have halone : numeral? (b :: tail) = magnitude? false (b :: tail) :=
        numeral?.eq_2 _ fun bs hbs => hminus (List.cons.inj hbs).1
      dsimp only [List.cons_append] at hread ⊢
      rw [toOption_word64 (.inr hb) room hgap, if_neg hminus, hread, Tree.word?, halone]
      cases magnitude? false (b :: tail) <;> rfl
    | @negative bs h =>
      have hread := gives_magnitude true h rest hrest
      have halone : numeral? (0x2D :: bs) = magnitude? true bs := rfl
      dsimp only [List.cons_append] at hread ⊢
      rw [toOption_word64 (.inl rfl) room hgap, if_pos rfl, hread, Tree.word?, halone]
      cases magnitude? true bs <;> rfl
  | _ =>
    -- anything else starts with a byte of no number
    dsimp only [List.cons_append]
    rw [word64, skipBlanks_gap hgap (by decide)]
    rfl

theorem reads_numeralOf (room : Nat) {n : Nat} (h : n ≤ maxWord) :
    Reads word64 room (numeralOf n) n := by
  intro gap rest hgap hrest
  have hread := readsAs_word64 room (.number (numeralOf n)) _ (.number (isNumeral_numeralOf n)) gap
    hgap rest hrest
  rw [word?_numeralOf h] at hread
  exact toOption_eq_some_iff.1 hread

/-- **A whole number is read back** from what it is written as. -/
theorem restores_word64 {n : Nat} (h : n ≤ maxWord) (room : Nat) :
    Restores word64 room (.ofNat n) n := by
  intro level
  have hchars : (Value.ofNat n).prettyChars level = Nat.toDigits 10 n := by
    rw [Value.ofNat, Value.prettyChars, Numeral.text]
    exact Nat.toList_repr
  rw [hchars]
  exact reads_numeralOf room h

end SignIn.Json
