import SignIn.Proofs.Json.Local

/-!
# Scanning is local

Words, strings and numbers are read off the front of a text whatever stands behind them.  A number
ends where the next byte cannot continue it, and nothing else of the rest is looked at; and those
that nobody asked for are passed in the same way.

An exponent is looked at twice, with its sign and without; what follows the sign is one definition
here.

## Main definitions

* `exponentValue`, `afterExponent` — what is read behind the sign of an exponent.

## Main results

* `local_word`, `local_string`, `local_number` — what is read.
* `local_skipString`, `local_skipNumber` — what is passed.
* `string_eq_ok_iff` — a string is a text between quotes.
-/

namespace SignIn.Json

open SignIn.Text SignIn.Number

variable {α : Type}

/-! ### Words and strings -/

theorem local_word (w : Bytes) : LocalPass (word w) := by
  induction w with
  | nil => exact Local.eq.congr fun bs rest => by rw [word, Except.ok.injEq]
  | cons c w ih =>
    refine Local.of_heads nofun fun b => ?_
    by_cases hb : b = c
    · refine .of_tail (ih.congr fun bs rest => ?_)
      rw [word, if_pos hb]
    · refine .of_not fun bs rest => ?_
      rw [word, if_neg hb]
      exact nofun

theorem prepend_eq_ok_iff {front body rest : Bytes} {r : Reading Bytes} :
    prepend front r = .ok (body, rest) ↔ ∃ more, r = .ok (more, rest) ∧ front ++ more = body := by
  simp only [prepend, map_eq_ok_iff, Prod.exists, Prod.mk.injEq]
  constructor
  · rintro ⟨more, mid, h, hb, rfl⟩
    exact ⟨more, h, hb⟩
  · rintro ⟨more, h, hb⟩
    exact ⟨more, rest, h, hb, rfl⟩

/-- A pair of escapes stands for a character beyond the basic plane. -/
theorem stringBytes_pair {a b c d e f g h : UInt8} {n m : Nat} (hn : hexUnit? a b c d = some n)
    (hhigh : 0xD800 ≤ n ∧ n ≤ 0xDBFF) (hm : hexUnit? e f g h = some m)
    (hlow : 0xDC00 ≤ m ∧ m ≤ 0xDFFF) (rest : Bytes) :
    stringBytes (0x5C :: 0x75 :: a :: b :: c :: d :: 0x5C :: 0x75 :: e :: f :: g :: h :: rest) =
      prepend (String.utf8EncodeChar
        (Char.ofNat ((n - 0xD800) * 1024 + (m - 0xDC00) + 0x10000))) (stringBytes rest) := by
  rw [stringBytes.eq_3, hn]
  dsimp only
  rw [if_neg (by omega), if_pos hhigh]
  simp only [hm]
  rw [if_pos hlow]

/-- An escape stands for a character if it is no part of such a pair. -/
theorem stringBytes_single {a b c d : UInt8} {n : Nat} (hn : hexUnit? a b c d = some n)
    (hlow : ¬ (0xDC00 ≤ n ∧ n ≤ 0xDFFF)) (hhigh : ¬ (0xD800 ≤ n ∧ n ≤ 0xDBFF)) (rest : Bytes) :
    stringBytes (0x5C :: 0x75 :: a :: b :: c :: d :: rest) =
      prepend (String.utf8EncodeChar (Char.ofNat n)) (stringBytes rest) := by
  rw [stringBytes.eq_3, hn]
  dsimp only
  rw [if_neg hlow, if_neg hhigh]

/-- A byte that neither ends a text as a backslash nor starts an escape is no backslash. -/
theorem ne_of_no_escape {b : UInt8} {tail : Bytes} (hend : b = 0x5C → tail = [] → False)
    (hescape : ∀ e tail', b = 0x5C → tail = e :: tail' → False) : b ≠ 0x5C := by
  intro hs
  cases tail with
  | nil => exact hend hs rfl
  | cons e tail => exact hescape e tail hs rfl

theorem local_stringBytes : LocalRead stringBytes := by
  intro body bs rest h
  -- a piece of the string is read, and then the rest of it
  have hpiece (front : Bytes) {tail piece body : Bytes}
      (hfront : ∀ bs, stringBytes (front ++ bs) = prepend piece (stringBytes bs))
      (ih : ∀ more, stringBytes tail = .ok (more, rest) →
        LocalOn (fun bs rest => stringBytes bs = .ok (more, rest)) tail rest)
      (h : prepend piece (stringBytes tail) = .ok (body, rest)) :
      LocalOn (fun bs rest => stringBytes bs = .ok (body, rest)) (front ++ tail) rest := by
    obtain ⟨more, hmore, hbody⟩ := prepend_eq_ok_iff.1 h
    refine (ih more hmore).append front fun bs rest hbs => ?_
    rw [hfront, hbs, prepend_ok, hbody]
  fun_induction stringBytes bs generalizing body with
  | case2 tail =>
    obtain ⟨rfl, rfl⟩ := Prod.mk.inj (Except.ok.inj h)
    exact ⟨[0x22], rfl, fun rest' _ => stringBytes.eq_2 rest'⟩
  | case7 a b c d n hn _ hhigh e f g l tail m hm hlow ih =>
    exact hpiece [0x5C, 0x75, a, b, c, d, 0x5C, 0x75, e, f, g, l]
      (stringBytes_pair hn hhigh hm hlow) ih h
  | case13 a b c d tail n hn hlow hhigh ih =>
    exact hpiece [0x5C, 0x75, a, b, c, d] (stringBytes_single hn hlow hhigh) ih h
  | case16 b tail _ hu e he ih =>
    exact hpiece [0x5C, b] (stringBytes_short he hu) ih h
  | case19 b tail hq _ _ hend hescape hb ih =>
    have hs := ne_of_no_escape hend hescape
    exact hpiece [b]
      (stringBytes_plain (Nat.not_lt.1 fun h => hb (UInt8.lt_iff_toNat_lt.2 h)) hq hs) ih h
  | _ => cases h

theorem string_eq_ok_iff {bs rest : Bytes} {s : String} :
    string bs = .ok (s, rest) ↔
      ∃ body, stringBytes bs = .ok (body, rest) ∧ Utf8.decode? body = some s := by
  rw [string, bind_eq_ok_iff, Prod.exists]
  refine exists_congr fun body => ⟨?_, ?_⟩
  · rintro ⟨rest', h, hs⟩
    dsimp only at hs
    split at hs
    · rename_i s' hs'
      obtain ⟨rfl, rfl⟩ := Prod.mk.inj (Except.ok.inj hs)
      exact ⟨h, hs'⟩
    · cases hs
  · rintro ⟨h, hs⟩
    refine ⟨rest, h, ?_⟩
    simp only [hs]
    rfl

theorem local_string : LocalRead string := fun s =>
  (Local.of_exists fun body => Local.of_and fun _ : Utf8.decode? body = some s =>
    local_stringBytes body).congr fun _ _ => by simp only [string_eq_ok_iff, and_comm]

/-! ### Numbers -/

theorem local_gather (s s' n : Nat) : Local fun bs rest => gather s bs = (s', n, rest) := by
  intro bs rest h
  induction bs generalizing s n with
  | nil =>
    obtain ⟨-, -, rfl⟩ : s = s' ∧ 0 = n ∧ [] = rest := by simpa [gather] using h
    exact ⟨[], rfl, fun rest' hr => by rwa [hr.eq_nil]⟩
  | cons b bs ih =>
    by_cases hb : isDigit b ∧ s * 10 + digitValue b ≤ maxWord
    · obtain ⟨m, hm, rfl⟩ : ∃ m, gather (s * 10 + digitValue b) bs = (s', m, rest) ∧
          m + 1 = n := by
        rw [gather, if_pos hb] at h
        obtain ⟨rfl, hn, rfl⟩ : _ = s' ∧ _ = n ∧ _ = rest := by simpa using h
        exact ⟨_, rfl, hn⟩
      refine (ih _ _ hm).append [b] fun bs rest hbs => ?_
      rw [List.singleton_append, gather, if_pos hb, hbs]
    · rw [gather, if_neg hb] at h
      obtain ⟨hs, hn, rfl⟩ : s = s' ∧ 0 = n ∧ b :: bs = rest := by simpa using h
      refine ⟨[], rfl, fun rest' hr => ?_⟩
      obtain ⟨tail, rfl⟩ := hr.exists_cons
      rw [List.nil_append, gather, if_neg hb, hs, hn]

theorem local_exponentDigits (e : Nat) (e' : Option Nat) :
    Local fun bs rest => exponentDigits e bs = (e', rest) := by
  intro bs rest h
  induction bs generalizing e with
  | nil =>
    obtain ⟨-, rfl⟩ : some e = e' ∧ [] = rest := by simpa [exponentDigits] using h
    exact ⟨[], rfl, fun rest' hr => by rwa [hr.eq_nil]⟩
  | cons b bs ih =>
    by_cases hb : isDigit b
    · by_cases he : e * 10 + digitValue b ≤ maxExponent
      · rw [exponentDigits, if_pos hb] at h
        dsimp only at h
        rw [if_pos he] at h
        refine (ih _ h).append [b] fun bs rest hbs => ?_
        rw [List.singleton_append, exponentDigits, if_pos hb]
        dsimp only
        rw [if_pos he, hbs]
      · -- the digit that makes the exponent too great is the last one that is read
        rw [exponentDigits, if_pos hb] at h
        dsimp only at h
        rw [if_neg he] at h
        obtain ⟨rfl, rfl⟩ : none = e' ∧ bs = rest := by simpa using h
        refine ⟨[b], rfl, fun rest' _ => ?_⟩
        dsimp only
        rw [List.singleton_append, exponentDigits, if_pos hb]
        dsimp only
        rw [if_neg he]
    · rw [exponentDigits, if_neg hb] at h
      obtain ⟨he, rfl⟩ : some e = e' ∧ b :: bs = rest := by simpa using h
      refine ⟨[], rfl, fun rest' hr => ?_⟩
      obtain ⟨tail, rfl⟩ := hr.exists_cons
      rw [List.nil_append, exponentDigits, if_neg hb, he]

theorem local_scaled (negative : Bool) (s : Nat) (e : Int) : LocalRead (scaled negative s e) := by
  unfold scaled
  cases Binary64.ofDecimal? negative (UInt64.ofNat s) e with
  | none => exact .error _
  | some x => exact .ok _

/-- The rest of a number after the digits of its exponent. -/
def afterExponent (negative : Bool) (s : Nat) (shift : Int) (up : Bool) (bs : Bytes) :
    Option Nat → Reading Numeral
  | some e => scaled negative s (if up then shift + e else shift - e) bs
  | none =>
    if s ≠ 0 ∧ up then .error (.here .numberOutOfRange bs)
    else scaled negative 0 0 (bs.dropWhile isDigit)

/-- The rest of a number after the sign of its exponent. -/
def exponentValue (negative : Bool) (s : Nat) (shift : Int) (up : Bool) : Bytes → Reading Numeral
  | [] => .error (.here .endInValue [])
  | b :: bs =>
    if isDigit b then
      afterExponent negative s shift up (exponentDigits (digitValue b) bs).2
        (exponentDigits (digitValue b) bs).1
    else .error (.here .invalidNumber bs)

theorem local_dropped {r : Bytes → Except Fault (α × Bytes)} (hr : LocalRead r) :
    LocalRead fun bs => r (bs.dropWhile isDigit) := fun a =>
  ((local_dropWhile isDigit).comp (hr a)).congr fun _ _ => by simp

theorem local_afterExponent (negative : Bool) (s : Nat) (shift : Int) (up : Bool)
    (e : Option Nat) : LocalRead fun bs => afterExponent negative s shift up bs e := by
  cases e with
  | some e => exact local_scaled _ _ _
  | none =>
    simp only [afterExponent]
    split
    · exact .error _
    · exact local_dropped (local_scaled negative 0 0)

theorem local_exponentValue (negative : Bool) (s : Nat) (shift : Int) (up : Bool) :
    LocalRead (exponentValue negative s shift up) := by
  intro x
  refine Local.of_heads (fun _ h => by cases h) fun b => ?_
  by_cases hb : isDigit b
  · refine .of_tail ((Local.of_exists fun e => (local_exponentDigits (digitValue b) e).comp
      (local_afterExponent negative s shift up e x)).congr fun bs rest => ?_)
    rw [exponentValue, if_pos hb]
    simp [Prod.ext_iff]
  · refine .of_not fun bs rest => ?_
    rw [exponentValue, if_neg hb]
    intro h
    cases h

theorem exponentPart_plus (negative : Bool) (s : Nat) (shift : Int) (bs : Bytes) :
    exponentPart negative s shift (0x2B :: bs) = exponentValue negative s shift true bs := by
  cases bs with
  | nil => rfl
  | cons b bs =>
    simp only [exponentPart, exponentValue]
    rcases exponentDigits (digitValue b) bs with ⟨_ | e, rest⟩ <;> simp [afterExponent]

theorem exponentPart_minus (negative : Bool) (s : Nat) (shift : Int) (bs : Bytes) :
    exponentPart negative s shift (0x2D :: bs) = exponentValue negative s shift false bs := by
  cases bs with
  | nil => rfl
  | cons b bs =>
    simp only [exponentPart, exponentValue]
    rcases exponentDigits (digitValue b) bs with ⟨_ | e, rest⟩ <;> simp [afterExponent]

theorem exponentPart_unsigned {b : UInt8} (hplus : b ≠ 0x2B) (hminus : b ≠ 0x2D) (negative : Bool)
    (s : Nat) (shift : Int) (bs : Bytes) :
    exponentPart negative s shift (b :: bs) = exponentValue negative s shift true (b :: bs) := by
  unfold exponentPart exponentValue
  split
  rename_i heq
  split at heq
  · rename_i h
    exact (hplus (List.cons.inj h).1).elim
  · rename_i h
    exact (hminus (List.cons.inj h).1).elim
  · obtain ⟨rfl, rfl⟩ := Prod.mk.inj heq
    dsimp only
    generalize exponentDigits (digitValue b) bs = r
    rcases r with ⟨_ | e, rest⟩ <;> rfl

theorem local_exponentPart (negative : Bool) (s : Nat) (shift : Int) :
    LocalRead (exponentPart negative s shift) := by
  intro x
  refine Local.of_heads nofun fun b => ?_
  by_cases hplus : b = 0x2B
  · subst hplus
    refine .of_tail ((local_exponentValue negative s shift true x).congr fun bs rest => ?_)
    rw [exponentPart_plus]
  by_cases hminus : b = 0x2D
  · subst hminus
    refine .of_tail ((local_exponentValue negative s shift false x).congr fun bs rest => ?_)
    rw [exponentPart_minus]
  refine .of_local (local_exponentValue negative s shift true x) fun bs rest => ?_
  rw [exponentPart_unsigned hplus hminus]

/-- Where no exponent follows, the number ends. -/
theorem exponentOrEnd_of_ne {bs : Bytes} (hlower : bs.head? ≠ some 0x65)
    (hupper : bs.head? ≠ some 0x45) (negative : Bool) (s : Nat) (shift : Int) :
    exponentOrEnd negative s shift bs = scaled negative s shift bs := by
  unfold exponentOrEnd
  split
  · exact (hlower rfl).elim
  · exact (hupper rfl).elim
  · rfl

theorem eq_nil_of_exponentOrEnd {negative : Bool} {s : Nat} {shift : Int} {x : Numeral}
    {rest : Bytes} (h : exponentOrEnd negative s shift [] = .ok (x, rest)) : rest = [] := by
  rw [exponentOrEnd_of_ne (by simp) (by simp)] at h
  obtain ⟨front, hrest, -⟩ := local_scaled negative s shift x [] rest h
  exact (List.append_eq_nil_iff.1 hrest.symm).2

theorem local_exponentOrEnd (negative : Bool) (s : Nat) (shift : Int) :
    LocalRead (exponentOrEnd negative s shift) := by
  intro x
  refine Local.of_heads (fun rest => eq_nil_of_exponentOrEnd) fun b => ?_
  by_cases hb : b = 0x65 ∨ b = 0x45
  · refine .of_tail ((local_exponentPart negative s shift x).congr fun bs rest => ?_)
    obtain rfl | rfl := hb <;> rfl
  · push Not at hb
    refine .of_local (local_scaled negative s shift x) fun bs rest => ?_
    rw [exponentOrEnd_of_ne (by simpa using hb.1) (by simpa using hb.2)]

theorem local_fractionPart (negative : Bool) (s : Nat) (shift : Int) :
    LocalRead (fractionPart negative s shift) := by
  intro x
  refine Local.of_heads (fun _ h => by cases h) fun b => ?_
  by_cases hb : isDigit b
  · refine .of_local (Local.of_exists fun s' => Local.of_exists fun n => (local_gather s s' n).comp
      (local_dropped (local_exponentOrEnd negative s' (shift - n)) x)) fun bs rest => ?_
    rw [fractionPart, if_pos hb]
    simp [Prod.ext_iff]
  · refine .of_not fun bs rest => ?_
    rw [fractionPart, if_neg hb]
    intro h
    cases h

theorem local_afterWhole (negative : Bool) (s : Nat) : LocalRead (afterWhole negative s) := by
  intro x
  refine Local.of_heads (fun rest h => (Prod.mk.inj (Except.ok.inj h)).2.symm) fun b => ?_
  by_cases hpoint : b = 0x2E
  · subst hpoint
    exact .of_tail (local_fractionPart negative s 0 x)
  by_cases hb : b = 0x65 ∨ b = 0x45
  · refine .of_tail ((local_exponentPart negative s 0 x).congr fun bs rest => ?_)
    obtain rfl | rfl := hb <;> rfl
  · push Not at hb
    refine .of_local (LocalRead.ok (wholeNumeral negative s) x) fun bs rest => ?_
    rw [afterWhole.eq_4]
    · rintro _ ⟨⟩
      exact hpoint rfl
    · rintro _ ⟨⟩
      exact hb.1 rfl
    · rintro _ ⟨⟩
      exact hb.2 rfl

/-- After a long whole part, a point may follow, or what may follow a point. -/
theorem afterLongWhole_eq_ok_iff {negative : Bool} {s : Nat} {x : Numeral} {bs rest : Bytes} :
    afterLongWhole negative s bs = .ok (x, rest) ↔
      ∃ run mid, (bs.takeWhile isDigit = run ∧ bs.dropWhile isDigit = mid) ∧
        ((∃ tail, mid = 0x2E :: tail ∧
            fractionPart negative s run.length tail = .ok (x, rest)) ∨
          mid.head? ≠ some 0x2E ∧ exponentOrEnd negative s run.length mid = .ok (x, rest)) := by
  unfold afterLongWhole
  dsimp only
  split
  · rename_i tail htail
    simp [htail]
  · rename_i hpoint
    have hhead : (bs.dropWhile isDigit).head? ≠ some 0x2E := by
      intro h
      obtain ⟨tail, htail⟩ := List.head?_eq_some_iff.1 h
      exact hpoint tail htail
    have hno (tail : Bytes) : ¬ bs.dropWhile isDigit = 0x2E :: tail := hpoint tail
    simp [hhead, hno]

theorem local_afterLongWhole (negative : Bool) (s : Nat) :
    LocalRead (afterLongWhole negative s) := by
  intro x
  have hpoint (shift : Int) := (local_fractionPart negative s shift x).cons 0x2E
  have hnone (shift : Int) := (local_exponentOrEnd negative s shift x).head (· ≠ some 0x2E)
  exact (Local.of_exists fun run =>
    (local_span isDigit run).comp ((hpoint run.length).of_or (hnone run.length))).congr
      fun _ _ => afterLongWhole_eq_ok_iff

theorem local_number (negative : Bool) : LocalRead (number negative) := by
  intro x
  refine Local.of_heads nofun fun b => ?_
  by_cases hzero : b = 0x30
  · -- no digit may follow a zero
    subst hzero
    refine .of_tail (((local_afterWhole negative 0 x).head
      fun b => ∀ d ∈ b, isDigit d = false).congr fun bs rest => ?_)
    unfold number
    cases bs with
    | nil => simp
    | cons d bs => cases hd : isDigit d <;> simp [hd]
  by_cases hb : isDigit b
  · -- a whole part that fits 64 bits, or a longer one
    have hlong (s : Nat) := (local_afterLongWhole negative s x).head
      fun b => ∃ d ∈ b, isDigit d = true
    have hshort (s : Nat) := (local_afterWhole negative s x).head
      fun b => ∀ d ∈ b, isDigit d = false
    refine .of_local (Local.of_exists fun s => Local.of_exists fun n =>
      (local_gather 0 s n).comp ((hlong s).of_or (hshort s))) fun bs rest => ?_
    unfold number
    dsimp only
    rw [if_neg hzero, if_pos hb]
    rcases gather 0 (b :: bs) with ⟨s, n, _ | ⟨d, bs⟩⟩
    · simp
    · cases hd : isDigit d <;> simp [hd]
  · refine .of_not fun bs rest => ?_
    unfold number
    dsimp only
    rw [if_neg hzero, if_neg hb]
    exact nofun

/-! ### Strings and numbers that nobody asked for -/

theorem local_skipString : LocalPass skipString := by
  intro bs rest h
  -- a piece of the string is passed, and then the rest of it
  have hpiece (front : Bytes) {tail : Bytes}
      (hfront : ∀ bs, skipString (front ++ bs) = skipString bs)
      (ih : LocalOn (fun bs rest => skipString bs = .ok rest) tail rest) :
      LocalOn (fun bs rest => skipString bs = .ok rest) (front ++ tail) rest := by
    refine ih.append front fun bs rest hbs => ?_
    rw [hfront, hbs]
  fun_induction skipString bs with
  | case2 tail =>
    obtain rfl := Except.ok.inj h
    exact ⟨[0x22], rfl, fun rest' _ => skipString.eq_2 rest'⟩
  | case4 a b c d tail n hn ih =>
    refine hpiece [0x5C, 0x75, a, b, c, d] (fun bs => ?_) (ih h)
    refine (skipString.eq_3 a b c d bs).trans ?_
    rw [hn]
  | case7 b tail _ hu e he ih =>
    refine hpiece [0x5C, b] (fun bs => ?_) (ih h)
    refine (skipString.eq_6 b bs (fun _ _ _ _ _ h => (hu h).elim) hu).trans ?_
    rw [he]
  | case10 b tail hq _ _ hend hescape hb ih =>
    have hs := ne_of_no_escape hend hescape
    refine hpiece [b] (fun bs => ?_) (ih h)
    refine (skipString.eq_7 b bs hq (fun _ _ _ _ _ h => (hs h).elim) (fun _ h => (hs h).elim)
      (fun h => (hs h).elim) (fun _ _ h => (hs h).elim)).trans ?_
    rw [if_neg hb]
  | _ => cases h

theorem skipExponent_unsigned {b : UInt8} (hplus : b ≠ 0x2B) (hminus : b ≠ 0x2D) (bs : Bytes) :
    skipExponent (b :: bs) =
      if isDigit b then .ok (bs.dropWhile isDigit) else .error (.here .invalidNumber bs) := by
  unfold skipExponent
  dsimp only
  split
  · rename_i heq
    split at heq <;> simp_all
  · rename_i heq
    split at heq <;> simp_all

theorem local_skipExponent : LocalPass skipExponent := by
  have hdigit (b : UInt8) : LocalPass fun bs =>
      if isDigit b then .ok (bs.dropWhile isDigit) else .error (.here .invalidNumber bs) := by
    split
    · exact (local_dropWhile isDigit).congr fun _ _ => by simp
    · exact LocalPass.error _
  refine Local.of_heads nofun fun b => ?_
  by_cases hplus : b = 0x2B
  · subst hplus
    exact .of_tail (Local.of_heads nofun fun b => .of_tail (hdigit b))
  by_cases hminus : b = 0x2D
  · subst hminus
    exact .of_tail (Local.of_heads nofun fun b => .of_tail (hdigit b))
  refine .of_tail ((hdigit b).congr fun bs rest => ?_)
  rw [skipExponent_unsigned hplus hminus]

theorem local_skipExponentIfAny : LocalPass skipExponentIfAny := by
  refine Local.of_heads (fun rest h => (Except.ok.inj h).symm) fun b => ?_
  by_cases hb : b = 0x65 ∨ b = 0x45
  · refine .of_tail (local_skipExponent.congr fun bs rest => ?_)
    obtain rfl | rfl := hb <;> rfl
  · push Not at hb
    refine .of_local Local.eq fun bs rest => ?_
    unfold skipExponentIfAny
    split <;> simp_all

theorem local_skipAfterWhole : LocalPass skipAfterWhole := by
  have hdigits : LocalPass fun bs => skipExponentIfAny (bs.dropWhile isDigit) :=
    ((local_dropWhile isDigit).comp local_skipExponentIfAny).congr fun _ _ => by simp
  refine Local.of_heads (fun rest h => (Except.ok.inj h).symm) fun b => ?_
  by_cases hb : b = 0x2E
  · subst hb
    refine .of_tail ((hdigits.head (·.any isDigit = true)).congr fun bs rest => ?_)
    simp only [skipAfterWhole]
    split <;> simp_all
  · refine .of_local local_skipExponentIfAny fun bs rest => ?_
    unfold skipAfterWhole
    split <;> simp_all

theorem local_skipNumber : LocalPass skipNumber := by
  have hdigits : LocalPass fun bs => skipAfterWhole (bs.dropWhile isDigit) :=
    ((local_dropWhile isDigit).comp local_skipAfterWhole).congr fun _ _ => by simp
  refine Local.of_heads (fun _ h => by cases h) fun b => ?_
  by_cases hzero : b = 0x30
  · refine .of_tail ((local_skipAfterWhole.head (·.any isDigit = false)).congr fun bs rest => ?_)
    simp only [skipNumber, if_pos hzero]
    split <;> simp_all
  by_cases hb : isDigit b
  · refine .of_tail (hdigits.congr fun bs rest => ?_)
    simp only [skipNumber, if_neg hzero, if_pos hb]
  · refine .of_not fun bs rest => ?_
    simp only [skipNumber, if_neg hzero, if_neg hb]
    intro h
    cases h

end SignIn.Json
