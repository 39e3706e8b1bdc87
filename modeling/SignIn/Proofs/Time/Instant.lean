import SignIn.Proofs.Text.Blank
import SignIn.Time.Instant

/-!
# A written point in time is read back

Each part of the written form is read by the function for it, up to where the next part starts:
a number by its width or by the character behind it, the fraction of a second by its digits.

## Main definitions

* `IsOver` — where a list of digits is over.

## Main results

* `number_padded` — a number with leading zeros.
* `year_yearText`, `fraction_fractionText` — the parts with a form of their own.
* `read_text` — **a point in time is read back.**
-/

namespace SignIn.Time.Instant

open SignIn.Text

/-! ### Digits -/

/-- More digits make no smaller number. -/
theorem le_ofDigitChars (ds : List Char) (n : Nat) : n ≤ Nat.ofDigitChars 10 ds n := by
  induction ds generalizing n with
  | nil => exact Nat.le_refl n
  | cons c ds ih =>
    have h := ih (10 * n + (c.toNat - '0'.toNat))
    exact Nat.le_trans (by omega) h

/-- A list of digits is over where the width says so, or at a character that is no digit. -/
def IsOver (width : Nat) (ds rest : List Char) : Prop :=
  ds.length = width ∨ ds.length < width ∧ ∀ c ∈ rest.head?, c.isDigit = false

theorem digitsFrom_append {width n : Nat} {ds rest : List Char} (hds : ∀ c ∈ ds, c.isDigit = true)
    (hover : IsOver width ds rest) (hmax : Nat.ofDigitChars 10 ds n ≤ maxNumber) :
    digitsFrom n width (ds ++ rest) = .ok (Nat.ofDigitChars 10 ds n, rest) := by
  induction ds generalizing n width with
  | nil =>
    obtain h | ⟨h, hrest⟩ := hover
    · obtain rfl : width = 0 := h.symm
      rw [List.nil_append, digitsFrom]
      rfl
    · obtain ⟨width, rfl⟩ : ∃ w, width = w + 1 := ⟨width - 1, by simp at h; omega⟩
      cases rest with
      | nil => rfl
      | cons c rest =>
        have hc : c.isDigit = false := hrest c rfl
        rw [List.nil_append, digitsFrom, hc, if_neg Bool.false_ne_true]
        rfl
  | cons c ds ih =>
    obtain ⟨width, rfl⟩ : ∃ w, width = w + 1 := by
      refine ⟨width - 1, ?_⟩
      obtain h | ⟨h, -⟩ := hover
      · simp at h; omega
      · simp at h; omega
    have hc : c.isDigit = true := hds c List.mem_cons_self
    have hstep : n * 10 + (c.toNat - 0x30) = 10 * n + (c.toNat - '0'.toNat) := by
      rw [Nat.mul_comm]
      rfl
    have hle := Nat.le_trans (le_ofDigitChars ds (10 * n + (c.toNat - '0'.toNat))) hmax
    have hover' : IsOver width ds rest := by
      obtain h | ⟨h, hrest⟩ := hover
      · exact .inl (by simpa using h)
      · exact .inr ⟨by simpa using h, hrest⟩
    rw [List.cons_append, digitsFrom, if_pos hc]
    dsimp only
    rw [hstep, if_neg (Nat.not_lt.2 hle)]
    exact ih (fun c h => hds c (List.mem_cons_of_mem _ h)) hover' hmax

theorem number_append {width : Nat} {ds rest : List Char} (hne : ds ≠ [])
    (hds : ∀ c ∈ ds, c.isDigit = true) (hover : IsOver width ds rest)
    (hmax : Nat.ofDigitChars 10 ds 0 ≤ maxNumber) :
    number width (ds ++ rest) = .ok (Nat.ofDigitChars 10 ds 0, rest) := by
  have h := digitsFrom_append hds hover hmax
  cases ds with
  | nil => exact (hne rfl).elim
  | cons c ds =>
    rw [List.cons_append] at h ⊢
    rw [number, if_pos (hds c List.mem_cons_self)]
    exact h

/-! ### Padded numbers -/

theorem isDigit_of_mem_padded {width n : Nat} {c : Char} (h : c ∈ padded width n) :
    c.isDigit = true := by
  rw [padded, List.mem_append] at h
  obtain h | h := h
  · rw [List.eq_of_mem_replicate h]
    rfl
  · exact Nat.isDigit_of_mem_toDigits (by decide) (by decide) h

theorem padded_ne_nil (width n : Nat) : padded width n ≠ [] := by
  have h : Nat.toDigits 10 n ≠ [] := Nat.toDigits_ne_nil
  simp [padded, h]

theorem ofDigitChars_padded (width n : Nat) : Nat.ofDigitChars 10 (padded width n) 0 = n := by
  have hzeros (k : Nat) : Nat.ofDigitChars 10 (List.replicate k '0') 0 = 0 := by
    induction k with
    | zero => rfl
    | succ k ih => exact ih
  rw [padded, Nat.ofDigitChars, List.foldl_append]
  change Nat.ofDigitChars 10 (Nat.toDigits 10 n)
    (Nat.ofDigitChars 10 (List.replicate (width - (Nat.toDigits 10 n).length) '0') 0) = n
  rw [hzeros, Nat.ofDigitChars_ten_toDigits]

/-- A number that fits the width takes all of it. -/
theorem length_padded {width n : Nat} (h : (Nat.toDigits 10 n).length ≤ width) :
    (padded width n).length = width := by
  rw [padded, List.length_append, List.length_replicate]
  omega

/-- **A padded number is read back**, where it is over. -/
theorem number_padded {width digits n : Nat} {rest : List Char}
    (hover : IsOver width (padded digits n) rest) (hmax : n ≤ maxNumber) :
    number width (padded digits n ++ rest) = .ok (n, rest) := by
  have hread := number_append (padded_ne_nil digits n) (fun c => isDigit_of_mem_padded) hover
    (by rw [ofDigitChars_padded]; exact hmax)
  rwa [ofDigitChars_padded] at hread

theorem isOver_padded {width n : Nat} (h : (Nat.toDigits 10 n).length ≤ width)
    (rest : List Char) : IsOver width (padded width n) rest :=
  .inl (length_padded h)

/-- No blank stands before a padded number. -/
theorem dropWhile_padded (width n : Nat) (rest : List Char) :
    (padded width n ++ rest).dropWhile isBlank = padded width n ++ rest := by
  cases hp : padded width n with
  | nil => exact (padded_ne_nil width n hp).elim
  | cons c cs =>
    have hc : c.isDigit = true := isDigit_of_mem_padded (by rw [hp]; exact List.mem_cons_self)
    rw [List.cons_append, List.dropWhile_cons, isBlank_of_isDigit hc]
    rfl

/-! ### The parts -/

theorem part_padded {low high n : Nat} (hlow : low ≤ n) (hhigh : n ≤ high) (h : high < 100)
    (rest : List Char) : part low high (padded 2 n ++ rest) = .ok (n, rest) := by
  have hlength : (Nat.toDigits 10 n).length ≤ 2 :=
    (Nat.length_toDigits_le_iff (by decide) (by decide)).2 (by omega)
  have hmax : n ≤ maxNumber := by
    rw [maxNumber]
    omega
  rw [part, dropWhile_padded, number_padded (isOver_padded hlength rest) hmax]
  change (if low ≤ n ∧ n ≤ high then _ else _) = _
  rw [if_pos ⟨hlow, hhigh⟩]
  rfl

theorem separator_cons {c : Char} (h : isBlank c = false) (rest : List Char) :
    separator c (c :: rest) = .ok rest := by
  rw [separator, List.dropWhile_cons, h]
  exact if_pos rfl

/-- A padded number starts with a digit. -/
theorem isDigit_of_padded_append {width n : Nat} {c : Char} {rest cs : List Char}
    (h : padded width n ++ rest = c :: cs) : c.isDigit = true := by
  cases hp : padded width n with
  | nil => exact (padded_ne_nil width n hp).elim
  | cons d ds =>
    rw [hp, List.cons_append] at h
    obtain ⟨rfl, -⟩ := List.cons.inj h
    exact isDigit_of_mem_padded (by rw [hp]; exact List.mem_cons_self)

/-- A number after a sign is read up to the dash. -/
theorem number_signed {n : Nat} (h : n ≤ maxNumber) (rest : List Char) :
    number (padded 4 n ++ '-' :: rest).length (padded 4 n ++ '-' :: rest) =
      .ok (n, '-' :: rest) := by
  have hover : IsOver (padded 4 n ++ '-' :: rest).length (padded 4 n) ('-' :: rest) := by
    refine .inr ⟨by simp, ?_⟩
    simp only [List.head?_cons, Option.mem_some_iff, forall_eq']
    decide
  exact number_padded hover h

/-- What is left of a year is kept if it fits a word. -/
def withinWord (x : Int × List Char) : Except Unreadable (Int × List Char) :=
  if -0x80000000 ≤ x.1 ∧ x.1 < 0x80000000 then .ok x else .error .outOfRange

/-- No year of a date leaves a word. -/
theorem withinWord_of_year {y : Int} (hl : firstYear ≤ y) (hu : y ≤ lastYear) (cs : List Char) :
    withinWord (y, cs) = .ok (y, cs) := by
  rw [firstYear] at hl
  rw [lastYear] at hu
  exact if_pos (by dsimp only; omega)

/-- What a year is made of once its digits are read. -/
def afterDigits (sign : Nat → Int) (digits : Except Unreadable (Nat × List Char)) :
    Except Unreadable (Int × List Char) :=
  (digits.map fun x => (sign x.1, x.2)).bind withinWord

theorem afterDigits_ok (sign : Nat → Int) (n : Nat) (cs : List Char) :
    afterDigits sign (.ok (n, cs)) = withinWord (sign n, cs) := rfl

theorem year_minus (cs : List Char) :
    year ('-' :: cs) = afterDigits (fun n => -n) (number cs.length cs) := rfl

theorem year_plus (cs : List Char) :
    year ('+' :: cs) = afterDigits (fun n => n) (number cs.length cs) := rfl

theorem year_padded (width n : Nat) (rest : List Char) : year (padded width n ++ rest) =
    afterDigits (fun n => n) (number 4 (padded width n ++ rest)) := by
  rw [year, dropWhile_padded]
  split
  · rename_i heq
    exact absurd (isDigit_of_padded_append heq) (by decide)
  · rename_i heq
    exact absurd (isDigit_of_padded_append heq) (by decide)
  · rfl

theorem year_yearText {y : Int} (hl : firstYear ≤ y) (hu : y ≤ lastYear) (rest : List Char) :
    year (yearText y ++ '-' :: rest) = .ok (y, '-' :: rest) := by
  have hwithin := withinWord_of_year hl hu ('-' :: rest)
  rw [firstYear] at hl
  rw [lastYear] at hu
  have hmax : y.natAbs ≤ maxNumber := by
    rw [maxNumber]
    omega
  rw [yearText]
  split
  · -- four digits
    have hlength : (Nat.toDigits 10 y.toNat).length ≤ 4 :=
      (Nat.length_toDigits_le_iff (by decide) (by decide)).2 (by omega)
    have hy : (y.toNat : Int) = y := by omega
    rw [year_padded, number_padded (isOver_padded hlength _) (by omega), afterDigits_ok, hy,
      hwithin]
  -- a sign
  split
  · have hy : -(y.natAbs : Int) = y := by omega
    rw [List.cons_append, year_minus, number_signed hmax, afterDigits_ok, hy, hwithin]
  · have hy : (y.natAbs : Int) = y := by omega
    rw [List.cons_append, year_plus, number_signed hmax, afterDigits_ok, hy, hwithin]

/-- Three, six or nine digits of a fraction are read as nanoseconds. -/
theorem fraction_padded {n : Nat} (width : Nat) (hw : width ≤ 9)
    (h : (Nat.toDigits 10 n).length ≤ width) (hmax : n ≤ maxNumber) :
    fraction ('.' :: (padded width n ++ ['Z'])) = .ok (n * Nat.pow 10 (9 - width), ['Z']) := by
  have hlength := length_padded h
  have hover : IsOver 9 (padded width n) ['Z'] := by
    by_cases hnine : width = 9
    · exact .inl (hlength.trans hnine)
    · refine .inr ⟨by omega, ?_⟩
      simp only [List.head?_cons, Option.mem_some_iff, forall_eq']
      decide
  have hcount : (padded width n ++ ['Z']).length - ['Z'].length = width := by
    rw [List.length_append, hlength]
    exact Nat.add_sub_cancel width _
  rw [fraction, number_padded hover hmax]
  change Except.ok (n * Nat.pow 10 (9 - ((padded width n ++ ['Z']).length - ['Z'].length)), _) = _
  rw [hcount]
  rfl

/-- The fraction ends at the letter behind it. -/
theorem fraction_fractionText {nano : Nat} (h : nano < giga) :
    fraction (fractionText nano ++ ['Z']) = .ok (nano, ['Z']) := by
  rw [giga] at h
  have hlength (n width : Nat) (hpos : 0 < width) (hn : n < Nat.pow 10 width) :
      (Nat.toDigits 10 n).length ≤ width :=
    (Nat.length_toDigits_le_iff (by decide) hpos).2 hn
  have hmax {n : Nat} (hn : n < 1000000000) : n ≤ maxNumber := by
    rw [maxNumber]
    omega
  rw [fractionText]
  split
  · rename_i hzero
    rw [hzero]
    rfl
  split
  · rename_i hthree
    have hnano : nano / 1000000 * 1000000 = nano := by omega
    have hread := fraction_padded 3 (by decide)
      (hlength (nano / 1000000) 3 (by decide) (by change _ < 1000; omega)) (hmax (by omega))
    rw [List.cons_append, hread]
    change Except.ok (nano / 1000000 * 1000000, _) = _
    rw [hnano]
  split
  · rename_i hsix
    have hnano : nano / 1000 * 1000 = nano := by omega
    have hread := fraction_padded 6 (by decide)
      (hlength (nano / 1000) 6 (by decide) (by change _ < 1000000; omega)) (hmax (by omega))
    rw [List.cons_append, hread]
    change Except.ok (nano / 1000 * 1000, _) = _
    rw [hnano]
  · have hread := fraction_padded 9 (by decide)
      (hlength nano 9 (by decide) (by change _ < 1000000000; omega)) (hmax (by omega))
    rw [List.cons_append, hread]
    change Except.ok (nano * 1, _) = _
    rw [Nat.mul_one]

/-! ### The whole -/

theorem ok_bind {α β : Type} (x : α) (f : α → Except Unreadable β) : (Except.ok x >>= f) = f x :=
  rfl

theorem readDate_written (d : Date) (rest : List Char) :
    readDate (yearText d.year ++ '-' :: (padded 2 d.month ++ '-' :: (padded 2 d.day ++ rest))) =
      .ok ((d.year, d.month, d.day), rest) := by
  obtain ⟨hl, hu, hm, hm', hd, hd'⟩ := d.isDate
  have hdays : daysInMonth d.year d.month ≤ 31 := by
    unfold daysInMonth
    repeat' split
    all_goals omega
  have hdash : isBlank '-' = false := by decide
  have hmonth := part_padded hm hm' (by decide)
  have hday := part_padded hd (Nat.le_trans hd' hdays) (by decide)
  simp only [readDate, year_yearText hl hu, separator_cons hdash, ok_bind, hmonth, hday]
  rfl

/-- A time of day is read back as it was written, whatever second of the minute was written. -/
theorem readTime_parts {h m s nano : Nat} (hh : h ≤ 23) (hm : m ≤ 59) (hs : s ≤ 60)
    (hnano : nano < giga) :
    readTime (padded 2 h ++ ':' :: (padded 2 m ++ ':' ::
        (padded 2 s ++ (fractionText nano ++ ['Z'])))) =
      .ok (if s = 60 then (h * 3600 + m * 60 + 59, nano + giga) else (h * 3600 + m * 60 + s, nano),
        ['Z']) := by
  have hcolon : isBlank ':' = false := by decide
  have hhour := part_padded (Nat.zero_le h) hh (by decide)
  have hminute := part_padded (Nat.zero_le m) hm (by decide)
  have hsecond := part_padded (Nat.zero_le s) hs (by decide)
  simp only [readTime, hhour, hminute, hsecond, separator_cons hcolon, ok_bind,
    fraction_fractionText hnano]
  split
  · rfl
  · rfl

/-- A leap second is written as the sixtieth of its minute. -/
theorem readTime_written {second nano : Nat} (h : IsTime second nano) :
    readTime (padded 2 (second / 3600) ++ ':' :: (padded 2 (second / 60 % 60) ++ ':' ::
        (padded 2 (second % 60 + if giga ≤ nano then 1 else 0) ++
          (fractionText (if giga ≤ nano then nano - giga else nano) ++ ['Z'])))) =
      .ok ((second, nano), ['Z']) := by
  obtain ⟨hsecond, hnano, hleap⟩ := h
  have hh : second / 3600 ≤ 23 := by omega
  have hm : second / 60 % 60 ≤ 59 := by omega
  by_cases hlong : giga ≤ nano
  · have hlast := hleap hlong
    rw [if_pos hlong, if_pos hlong, readTime_parts hh hm (by omega) (by omega),
      if_pos (by omega : second % 60 + 1 = 60)]
    have htime : second / 3600 * 3600 + second / 60 % 60 * 60 + 59 = second := by omega
    have hrest : nano - giga + giga = nano := Nat.sub_add_cancel hlong
    rw [htime, hrest]
  · rw [if_neg hlong, if_neg hlong, readTime_parts hh hm (by omega) (by omega),
      if_neg (by omega : second % 60 + 0 ≠ 60)]
    have htime : second / 3600 * 3600 + second / 60 % 60 * 60 + (second % 60 + 0) = second := by
      omega
    rw [htime]

theorem ofLocal_zero (t : Instant) : ofLocal t.date t.second t.nano 0 = .ok t := by
  have hsecond : t.second < 86400 := t.isTime.1
  have hshifted : (t.second : Int) - 60 * 0 = t.second := by omega
  have hwithin : ((t.second : Int) % 86400).toNat = t.second := by omega
  unfold ofLocal
  rw [if_neg (by decide), hshifted]
  dsimp only
  rw [if_neg (by omega), if_neg (by omega), hwithin, Option.bind_some, of?, dif_pos t.isTime]

/-- **A point in time is read back.** -/
theorem read_text (t : Instant) : read t.text = .ok t := by
  have hchars : t.chars = yearText t.date.year ++ '-' :: (padded 2 t.date.month ++ '-' ::
      (padded 2 t.date.day ++ 'T' :: (padded 2 (t.second / 3600) ++ ':' ::
        (padded 2 (t.second / 60 % 60) ++ ':' ::
          (padded 2 (t.second % 60 + if giga ≤ t.nano then 1 else 0) ++
            (fractionText (if giga ≤ t.nano then t.nano - giga else t.nano) ++ ['Z'])))))) := by
    simp only [chars, List.append_assoc, List.cons_append]
  have hoffset : offset ['Z'] = .ok (0, []) := rfl
  rw [read, text, String.toList_ofList, hchars, readChars]
  simp only [readDate_written, ok_bind, if_true, true_or, readTime_written t.isTime, hoffset,
    Date.of?_self]
  exact ofLocal_zero t

end SignIn.Time.Instant
