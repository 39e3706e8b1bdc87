import SignIn.Base64
import SignIn.Proofs.Text.Utf8
import SignIn.Proofs.Text.Blank

/-!
# Base64 is read back

Every group of characters gives back the bytes that it was written for, the padded last one too.

## Main results

* `decode?_encode` — what was written is read back, whatever the number of bytes.
* `decode?_surrounded` — blanks around it do not count.
-/

namespace SignIn.Base64

open SignIn.Text

/-! ### Digits -/

theorem value?_digit : ∀ n < 64, value? (digit n) = some n := by decide

/-- A digit is no padding. -/
theorem digit_ne_padding : ∀ n < 64, digit n ≠ '=' := by decide

/-- No digit is a blank. -/
theorem isBlank_digit : ∀ n < 64, isBlank (digit n) = false := by decide

/-! ### Groups -/

theorem single?_digits {n : Nat} (h : n < 4096) (hzero : n % 16 = 0) :
    single? (digit (n / 64)) (digit (n % 64)) = some [UInt8.ofNat (n / 16)] := by
  have hn : n / 64 * 64 + n % 64 = n := by omega
  rw [single?, value?_digit _ (by omega), value?_digit _ (by omega)]
  simp only [bind, Option.bind]
  rw [hn, if_pos hzero]
  rfl

theorem pair?_digits {n : Nat} (h : n < 262144) (hzero : n % 4 = 0) :
    pair? (digit (n / 4096)) (digit (n / 64 % 64)) (digit (n % 64)) =
      some [UInt8.ofNat (n / 1024), UInt8.ofNat (n / 4)] := by
  have hn : (n / 4096 * 64 + n / 64 % 64) * 64 + n % 64 = n := by omega
  rw [pair?, value?_digit _ (by omega), value?_digit _ (by omega), value?_digit _ (by omega)]
  simp only [bind, Option.bind]
  rw [hn, if_pos hzero]
  rfl

theorem triple?_digits {n : Nat} (h : n < 16777216) :
    triple? (digit (n / 262144)) (digit (n / 4096 % 64)) (digit (n / 64 % 64)) (digit (n % 64)) =
      some [UInt8.ofNat (n / 65536), UInt8.ofNat (n / 256), UInt8.ofNat n] := by
  have hn : ((n / 262144 * 64 + n / 4096 % 64) * 64 + n / 64 % 64) * 64 + n % 64 = n := by omega
  rw [triple?, value?_digit _ (by omega), value?_digit _ (by omega), value?_digit _ (by omega),
    value?_digit _ (by omega)]
  simp only [bind, Option.bind]
  rw [hn]
  rfl

/-- A byte is its number, whatever is added to it beyond eight bits. -/
theorem ofNat_eq (b : UInt8) {n : Nat} (h : n % 256 = b.toNat) : UInt8.ofNat n = b := by
  apply UInt8.toNat_inj.1
  rw [UInt8.toNat_ofNat', h]

/-! ### Whole texts -/

theorem decodeChars?_encodeChars (bs : Bytes) : decodeChars? (encodeChars bs) = some bs := by
  fun_induction encodeChars bs with
  | case1 => rfl
  | case2 a n =>
    have ha : a.toNat < 256 := a.toNat_lt
    rw [decodeChars?.eq_2, single?_digits (by omega) (by omega), ofNat_eq a (by omega)]
  | case3 a b n =>
    have ha : a.toNat < 256 := a.toNat_lt
    have hb : b.toNat < 256 := b.toNat_lt
    have hc : digit (n % 64) ≠ '=' := digit_ne_padding _ (by omega)
    rw [decodeChars?.eq_3 _ _ _ hc, pair?_digits (by omega) (by omega), ofNat_eq a (by omega),
      ofNat_eq b (by omega)]
  | case4 a b c rest n ih =>
    have ha : a.toNat < 256 := a.toNat_lt
    have hb : b.toNat < 256 := b.toNat_lt
    have hc : c.toNat < 256 := c.toNat_lt
    have hd : digit (n % 64) ≠ '=' := digit_ne_padding _ (by omega)
    rw [decodeChars?.eq_4 _ _ _ _ _ (fun _ h _ => hd h) (fun h _ => hd h),
      triple?_digits (by omega), ih, ofNat_eq a (by omega), ofNat_eq b (by omega),
      ofNat_eq c (by omega)]
    rfl

/-- **What was written is read back.** -/
theorem decode?_encode (bs : Bytes) : decode? (encode bs) = some bs := by
  rw [decode?, encode, String.toList_ofList, decodeChars?_encodeChars]

/-- Digits and padding are no blanks. -/
theorem isBlank_of_mem_encodeChars {bs : Bytes} {c : Char} (h : c ∈ encodeChars bs) :
    isBlank c = false := by
  have hpadding : isBlank '=' = false := by decide
  fun_induction encodeChars bs with
  | case1 => cases h
  | case2 a n =>
    have ha : a.toNat < 256 := a.toNat_lt
    simp only [List.mem_cons, List.not_mem_nil, or_false] at h
    obtain rfl | rfl | rfl | rfl := h
    · exact isBlank_digit _ (by omega)
    · exact isBlank_digit _ (by omega)
    · exact hpadding
    · exact hpadding
  | case3 a b n =>
    have ha : a.toNat < 256 := a.toNat_lt
    have hb : b.toNat < 256 := b.toNat_lt
    simp only [List.mem_cons, List.not_mem_nil, or_false] at h
    obtain rfl | rfl | rfl | rfl := h
    · exact isBlank_digit _ (by omega)
    · exact isBlank_digit _ (by omega)
    · exact isBlank_digit _ (by omega)
    · exact hpadding
  | case4 a b c rest n ih =>
    have ha : a.toNat < 256 := a.toNat_lt
    have hb : b.toNat < 256 := b.toNat_lt
    have hc : c.toNat < 256 := c.toNat_lt
    simp only [List.mem_cons] at h
    obtain rfl | rfl | rfl | rfl | h := h
    · exact isBlank_digit _ (by omega)
    · exact isBlank_digit _ (by omega)
    · exact isBlank_digit _ (by omega)
    · exact isBlank_digit _ (by omega)
    · exact ih h

theorem encodeChars_ne_nil {bs : Bytes} (h : bs ≠ []) : encodeChars bs ≠ [] := by
  unfold encodeChars
  split
  · exact absurd rfl h
  all_goals exact List.cons_ne_nil _ _

/-- **Blanks around what was written do not count.** -/
theorem decode?_surrounded {bs : Bytes} (hne : bs ≠ []) {before after : List Char}
    (hbefore : ∀ c ∈ before, isBlank c = true) (hafter : ∀ c ∈ after, isBlank c = true) :
    decode? (trim (String.ofList (before ++ (encode bs).toList ++ after))) = some bs := by
  rw [trim, String.toList_ofList, encode, String.toList_ofList,
    strip_surrounded hbefore hafter (encodeChars_ne_nil hne) fun _ => isBlank_of_mem_encodeChars]
  exact decode?_encode bs

end SignIn.Base64
