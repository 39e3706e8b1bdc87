import SignIn.Proofs.Url.Blanks

/-!
# Paths with a part appended

Whether a path starts at a drive is settled by its first segment, which later segments do not
change: a drive is never taken back, and what is appended behind a slash comes later.  Letters,
digits and slashes only add segments, and none of these is a drive.

## Main definitions

* `StartsAtDrive` — the first of the segments is a drive.
* `isPlain` — letters, digits and slashes.

## Main results

* `walkFrom_of_isPlain` — plain characters only add segments.
* `startsAtDrive_walkFrom_append` — a slash and plain characters do not bring a drive to light.
* `not_startsAtDrive_walkFrom_append` — nor do they behind blanks.
-/

namespace SignIn.Url

open SignIn.Text

/-! ### Drives -/

/-- Whether segments, the last of which comes first, start with a drive. -/
def StartsAtDrive (segments : List (List Char)) : Prop :=
  ∃ s, segments.getLast? = some s ∧ isPlainDrive s = true

theorem not_startsAtDrive_nil : ¬ StartsAtDrive [] := by
  rintro ⟨s, hs, -⟩
  cases hs

theorem startsAtDrive_cons {s : List Char} {done : List (List Char)} :
    StartsAtDrive (s :: done) ↔ StartsAtDrive done ∨ done = [] ∧ isPlainDrive s = true := by
  cases done with
  | nil => simp [StartsAtDrive]
  | cons d done => simp [StartsAtDrive]

theorem startsAtDrive_append {segments done : List (List Char)} (hne : done ≠ []) :
    StartsAtDrive (segments ++ done) ↔ StartsAtDrive done := by
  rw [StartsAtDrive, StartsAtDrive, List.getLast?_append, List.getLast?_eq_some_getLast hne,
    Option.some_or]

/-- A drive is not taken back. -/
theorem startsAtDrive_takeBack (done : List (List Char)) :
    StartsAtDrive (takeBack done) ↔ StartsAtDrive done := by
  cases done with
  | nil => rfl
  | cons s done =>
    rw [takeBack]
    split
    · rfl
    · rename_i hs
      have hdrive : isPlainDrive s = false := by
        unfold isPlainDrive
        split
        · rename_i a
          simpa [startsLikeDrive] using hs
        · rfl
      rw [startsAtDrive_cons, hdrive]
      simp

/-- What adding a segment does: a dot segment adds nothing, except for an empty segment at the
end of a path, and may take a segment back; any other is added. -/
theorem addSegment_cases (kind : SchemeKind) (done : List (List Char)) (raw : List Char) :
    (∃ d, (d = done ∨ d = takeBack done) ∧
        ∀ slash, addSegment kind done raw slash = if slash then d else [] :: d) ∨
      ∃ s, (isPlainDrive s = true → (percentEncode pathSet raw).length = 2) ∧
        ∀ slash, addSegment kind done raw slash = s :: done := by
  unfold addSegment
  dsimp only
  by_cases h₂ : isDoubleDot (percentEncode pathSet raw) = true
  · exact .inl ⟨takeBack done, .inr rfl, fun slash => if_pos h₂⟩
  · by_cases h₁ : isSingleDot (percentEncode pathSet raw) = true
    · exact .inl ⟨done, .inl rfl, fun slash => by rw [if_neg h₂, if_pos h₁]⟩
    · simp only [if_neg h₁, if_neg h₂]
      refine .inr ?_
      split
      · rename_i a b hab 
        exact ⟨_, fun _ => by rw [hab]; rfl, fun _ => rfl⟩
      · refine ⟨_, fun hdrive => ?_, fun _ => rfl⟩
        unfold isPlainDrive at hdrive
        split at hdrive
        · rename_i h
          rw [h]
          rfl
        · cases hdrive

theorem startsAtDrive_addSegment (kind : SchemeKind) (done : List (List Char)) (raw : List Char) :
    StartsAtDrive (addSegment kind done raw false) ↔
      StartsAtDrive (addSegment kind done raw true) := by
  obtain ⟨d, -, h⟩ | ⟨s, -, h⟩ := addSegment_cases kind done raw
  · rw [h, h, if_pos rfl, if_neg Bool.false_ne_true, startsAtDrive_cons]
    simp [isPlainDrive]
  · rw [h, h]

theorem startsAtDrive_addSegment_of_done {kind : SchemeKind} {done : List (List Char)}
    (hd : StartsAtDrive done) (raw : List Char) (slash : Bool) :
    StartsAtDrive (addSegment kind done raw slash) := by
  obtain ⟨d, hdone, h⟩ | ⟨s, -, h⟩ := addSegment_cases kind done raw
  · have hd' : StartsAtDrive d := by
      obtain rfl | rfl := hdone
      · exact hd
      · exact (startsAtDrive_takeBack done).2 hd
    rw [h]
    split
    · exact hd'
    · exact startsAtDrive_cons.2 (.inl hd')
  · rw [h]
    exact startsAtDrive_cons.2 (.inl hd)


/-! ### Blanks behind a segment -/

theorem three_le_length_percentEncode {c : Char} (hc : c.toNat ≤ 0x20) (cs ds : List Char) :
    3 ≤ (percentEncode pathSet (cs ++ c :: ds)).length := by
  have hone : encodeChar pathSet c = encodeByte (UInt8.ofNat c.toNat) := by
    rw [encodeChar, pathSet_of_blank hc, Bool.true_or, if_pos rfl,
      utf8EncodeChar_of_isAscii (isAscii_iff.2 (by omega)), List.flatMap_singleton]
  have hlen : (encodeChar pathSet c).length = 3 := by rw [hone]; rfl
  rw [percentEncode_append, percentEncode, percentEncode, List.flatMap_cons]
  simp only [List.length_append, hlen]
  omega

/-- A segment with blanks behind it is no drive. -/
theorem not_startsAtDrive_addSegment_append {kind : SchemeKind} {done : List (List Char)}
    {raw t : List Char} (ht : ∀ c ∈ t, c.toNat ≤ 0x20) (hne : t ≠ [])
    (h : ¬ StartsAtDrive (addSegment kind done raw false)) :
    ¬ StartsAtDrive (addSegment kind done (raw ++ t) true) := by
  have hdone : ¬ StartsAtDrive done := fun hd =>
    h (startsAtDrive_addSegment_of_done hd raw false)
  obtain ⟨d, hd, heq⟩ | ⟨s, hs, heq⟩ := addSegment_cases kind done (raw ++ t)
  · rw [heq, if_pos rfl]
    obtain rfl | rfl := hd
    · exact hdone
    · exact (startsAtDrive_takeBack done).not.2 hdone
  · rw [heq, startsAtDrive_cons]
    rintro (hd | ⟨-, hdrive⟩)
    · exact hdone hd
    · obtain ⟨c, t, rfl⟩ := List.exists_cons_of_ne_nil hne
      have := three_le_length_percentEncode (ht c (by simp)) raw t
      have := hs hdrive
      omega

/-! ### Walking over what is appended -/

/-- A letter, a digit or a slash. -/
def isPlain (c : Char) : Bool := c.isAlphanum || c == '/'

theorem ne_of_isAlphanum {c d : Char} (h : c.isAlphanum = true) (hd : d.isAlphanum = false) :
    c ≠ d := by
  rintro rfl
  simp [h] at hd

theorem isAlphanum_iff {c : Char} : c.isAlphanum = true ↔
    (0x41 ≤ c.toNat ∧ c.toNat ≤ 0x5A) ∨ (0x61 ≤ c.toNat ∧ c.toNat ≤ 0x7A) ∨
      (0x30 ≤ c.toNat ∧ c.toNat ≤ 0x39) := by
  have halnum : c.isAlphanum = (c.isUpper || c.isLower || c.isDigit) := rfl
  have hupper : c.isUpper = true ↔ 0x41 ≤ c.toNat ∧ c.toNat ≤ 0x5A := decide_eq_true_iff
  rw [halnum, Bool.or_eq_true, Bool.or_eq_true, hupper, isLower_iff, isDigit_iff, or_assoc]

theorem toNat_of_isAlphanum {c : Char} (h : c.isAlphanum = true) :
    0x30 ≤ c.toNat ∧ c.toNat ≤ 0x7A := by
  have := isAlphanum_iff.1 h
  omega

theorem pathSet_of_isAlphanum {c : Char} (h : c.isAlphanum = true) : pathSet c = false := by
  have hn := toNat_of_isAlphanum h
  have h60 : c.toNat ≠ 0x60 := by
    intro h60
    have hc : c = Char.ofNat 0x60 := by rw [← h60, Char.ofNat_toNat]
    exact ne_of_isAlphanum h (by decide) hc
  rw [← Bool.not_eq_true]
  simp only [pathSet, fragmentSet, controlSet, isControl, Bool.or_eq_true, decide_eq_true_eq,
    beq_iff_eq, ne_of_isAlphanum h (d := ' ') rfl, ne_of_isAlphanum h (d := '"') rfl,
    ne_of_isAlphanum h (d := '<') rfl, ne_of_isAlphanum h (d := '>') rfl,
    ne_of_isAlphanum h (d := '#') rfl, ne_of_isAlphanum h (d := '?') rfl,
    ne_of_isAlphanum h (d := '\x7b') rfl, ne_of_isAlphanum h (d := '\x7d') rfl, h60, or_false]
  omega

theorem isKept_of_isAlphanum {c : Char} (h : c.isAlphanum = true) : isKept pathSet c = true := by
  have hn := toNat_of_isAlphanum h
  exact isKept_iff.2 ⟨pathSet_of_isAlphanum h, by omega⟩

theorem le_toNat_toLower (c : Char) : c.toNat ≤ c.toLower.toNat := by
  unfold Char.toLower
  split
  · rename_i h
    have h1 : c.toNat ≤ 90 := h.2
    have h2 : (c.val + 32).toNat = (c.toNat + 32) % 2 ^ 32 := UInt32.toNat_add ..
    show c.toNat ≤ (c.val + 32).toNat
    rw [h2]
    omega
  · exact Nat.le_refl _

/-- Letters and digits are no dot segment. -/
theorem not_dots_of_isAlphanum {raw : List Char} (h : ∀ c ∈ raw, c.isAlphanum = true) :
    isSingleDot raw = false ∧ isDoubleDot raw = false := by
  -- a dot and a percent sign, with which the forms of the dots start, come before the digits
  have hlower : ∀ c ∈ raw.map Char.toLower, 0x30 ≤ c.toNat := by
    intro c hc
    obtain ⟨d, hd, rfl⟩ := List.mem_map.1 hc
    exact (toNat_of_isAlphanum (h d hd)).1.trans (le_toNat_toLower d)
  have hform {c : Char} {cs : List Char} (hc : c.toNat < 0x30) :
      c :: cs ≠ raw.map Char.toLower := by
    intro heq
    have := hlower c (by simp [← heq])
    omega
  constructor
  · rw [isSingleDot, Bool.or_eq_false_iff]
    refine ⟨?_, beq_eq_false_iff_ne.2 fun heq => hform (by decide) heq.symm⟩
    rw [beq_eq_false_iff_ne]
    rintro rfl
    exact absurd (h '.' (by simp)) (by decide)
  · rw [isDoubleDot, List.any_eq_false]
    intro form hmem
    simp only [beq_iff_eq]
    simp only [List.mem_cons, List.not_mem_nil, or_false] at hmem
    obtain rfl | rfl | rfl | rfl := hmem <;> exact hform (by decide)

theorem addSegment_of_isAlphanum {raw : List Char} (h : ∀ c ∈ raw, c.isAlphanum = true)
    (kind : SchemeKind) (done : List (List Char)) (slash : Bool) :
    addSegment kind done raw slash = raw :: done := by
  obtain ⟨h₁, h₂⟩ := not_dots_of_isAlphanum h
  unfold addSegment
  rw [percentEncode_of_isKept fun c hc => isKept_of_isAlphanum (h c hc)]
  dsimp only
  rw [if_neg (by simp [h₂]), if_neg (by simp [h₁])]
  split
  · rename_i a b
    have hb := h b (by simp)
    rw [if_neg]
    simp [isDrive, ne_of_isAlphanum hb]
  · rfl

theorem walkFrom_slash (kind : SchemeKind) (done : List (List Char)) (current cs : List Char) :
    walkFrom kind done current ('/' :: cs) =
      walkFrom kind (addSegment kind done current.reverse true) [] cs := by
  rw [walkFrom, if_pos (.inl rfl)]

/-- Characters that end no segment are read into it. -/
theorem walkFrom_skip {kind : SchemeKind} {s : List Char}
    (hs : ∀ c ∈ s, c ≠ '/' ∧ c ≠ '\\' ∧ c ≠ '?' ∧ c ≠ '#') (done : List (List Char))
    (current cs : List Char) :
    walkFrom kind done current (s ++ cs) = walkFrom kind done (s.reverse ++ current) cs := by
  induction s generalizing current with
  | nil => rfl
  | cons c s ih =>
    obtain ⟨h₁, h₂, h₃, h₄⟩ := hs c (by simp)
    rw [List.cons_append, walkFrom, if_neg (by simp [h₁, h₂]), if_neg (by simp [h₃, h₄]),
      ih fun d hd => hs d (by simp [hd])]
    simp

/-- Plain characters only add segments, none of which is a drive. -/
theorem walkFrom_of_isPlain {current y : List Char}
    (hcurrent : ∀ c ∈ current, c.isAlphanum = true) (hy : ∀ c ∈ y, isPlain c = true)
    (kind : SchemeKind) (done : List (List Char)) :
    ∃ segments, walkFrom kind done current y = (segments ++ done, []) ∧ segments ≠ [] ∧
      ∀ s ∈ segments, ∀ c ∈ s, c.isAlphanum = true := by
  induction y generalizing done current with
  | nil =>
    rw [walkFrom, addSegment_of_isAlphanum (by simpa using hcurrent)]
    exact ⟨[current.reverse], rfl, by simp, by simpa using hcurrent⟩
  | cons c y ih =>
    have hy' : ∀ d ∈ y, isPlain d = true := fun d hd => hy d (by simp [hd])
    rw [walkFrom]
    by_cases hc : c = '/'
    · obtain ⟨segments, hwalk, -, hall⟩ := ih (List.forall_mem_nil _) hy' _
      rw [if_pos (.inl hc), addSegment_of_isAlphanum (by simpa using hcurrent), hwalk]
      refine ⟨segments ++ [current.reverse], by simp, by simp, ?_⟩
      intro s hs
      obtain hs | hs := List.mem_append.1 hs
      · exact hall s hs
      · obtain rfl := List.mem_singleton.1 hs
        simpa using hcurrent
    · have halnum : c.isAlphanum = true := by simpa [isPlain, hc] using hy c (by simp)
      have hcurrent' : ∀ d ∈ c :: current, d.isAlphanum = true :=
        List.forall_mem_cons.2 ⟨halnum, hcurrent⟩
      rw [if_neg (by simp [hc, ne_of_isAlphanum halnum]), if_neg (by simp [ne_of_isAlphanum halnum])]
      exact ih hcurrent' hy' _

theorem isPlainDrive_of_isAlphanum {s : List Char} (h : ∀ c ∈ s, c.isAlphanum = true) :
    isPlainDrive s = false := by
  unfold isPlainDrive
  split
  · exact absurd (h ':' (by simp)) (by decide)
  · rfl

theorem startsAtDrive_walkFrom_of_isPlain {kind : SchemeKind} {y : List Char}
    (hy : ∀ c ∈ y, isPlain c = true) (done : List (List Char)) :
    StartsAtDrive (walkFrom kind done [] y).1 ↔ StartsAtDrive done := by
  obtain ⟨segments, hwalk, hne, hall⟩ :=
    walkFrom_of_isPlain (List.forall_mem_nil _) hy kind done
  rw [hwalk]
  by_cases hdone : done = []
  · rw [hdone, List.append_nil]
    refine iff_of_false ?_ not_startsAtDrive_nil
    rintro ⟨s, hs, hdrive⟩
    rw [isPlainDrive_of_isAlphanum (hall s (List.mem_of_getLast? hs))] at hdrive
    cases hdrive
  · rw [startsAtDrive_append hdone]

/-- **A slash and plain characters behind a path do not change whether it starts at a drive.** -/
theorem startsAtDrive_walkFrom_append {kind : SchemeKind} {y : List Char}
    (hy : ∀ c ∈ y, isPlain c = true) (done : List (List Char)) (current cs : List Char) :
    StartsAtDrive (walkFrom kind done current (cs ++ '/' :: y)).1 ↔
      StartsAtDrive (walkFrom kind done current cs).1 := by
  induction cs generalizing done current with
  | nil =>
    rw [List.nil_append, walkFrom_slash, startsAtDrive_walkFrom_of_isPlain hy, walkFrom,
      startsAtDrive_addSegment]
  | cons c cs ih =>
    rw [List.cons_append, walkFrom, walkFrom]
    split
    · exact ih ..
    · split
      · rfl
      · exact ih ..

/-- Nor do blanks in between bring a drive to light. -/
theorem not_startsAtDrive_walkFrom_append {kind : SchemeKind} {y t : List Char}
    (hy : ∀ c ∈ y, isPlain c = true) (ht : ∀ c ∈ t, c.toNat ≤ 0x20) (hne : t ≠ [])
    {done : List (List Char)} {current cs : List Char}
    (h : ¬ StartsAtDrive (walkFrom kind done current cs).1) :
    ¬ StartsAtDrive (walkFrom kind done current (cs ++ (t ++ '/' :: y))).1 := by
  induction cs generalizing done current with
  | nil =>
    have hends : ∀ c ∈ t, c ≠ '/' ∧ c ≠ '\\' ∧ c ≠ '?' ∧ c ≠ '#' := fun c hc =>
      ⟨ne_of_blank (ht c hc) (by decide), ne_of_blank (ht c hc) (by decide),
        ne_of_blank (ht c hc) (by decide), ne_of_blank (ht c hc) (by decide)⟩
    rw [List.nil_append, walkFrom_skip hends, walkFrom_slash,
      startsAtDrive_walkFrom_of_isPlain hy, List.reverse_append, List.reverse_reverse]
    exact not_startsAtDrive_addSegment_append ht hne h
  | cons c cs ih =>
    rw [walkFrom] at h
    rw [List.cons_append, walkFrom]
    split
    · rename_i hc
      rw [if_pos hc] at h
      exact ih h
    · rename_i hc
      rw [if_neg hc] at h
      split
      · rename_i hmark
        rwa [if_pos hmark] at h
      · rename_i hmark
        rw [if_neg hmark] at h
        exact ih h

end SignIn.Url
