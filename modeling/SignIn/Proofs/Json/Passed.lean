import SignIn.Proofs.Json.Tree

/-!
# Any value is passed

A value that nobody asked for is passed as a whole, whatever it is, as long as it is a JSON text.
The number of its turns is bounded by its length, so however deep it nests, this is no limit.

## Main results

* `skipNumber_magnitude` — numbers are passed.
* `Part.IsText.passed` — so are all parts of a text.
* `skipValue_part`, `skipValue_text` — a value is passed up to its end.
-/

namespace SignIn.Json

open SignIn.Text

/-! ### Numbers -/

/-- No digit stands at the front. -/
def StartsNoDigit (bs : Bytes) : Prop := ∀ b ∈ bs.head?, isDigit b = false

theorem dropWhile_digits {ds rest : Bytes} (h : ∀ b ∈ ds, isDigit b = true)
    (hrest : StartsNoDigit rest) : (ds ++ rest).dropWhile isDigit = rest := by
  rw [List.dropWhile_append_of_pos h]
  cases rest with
  | nil => rfl
  | cons b rest =>
    have hb : isDigit b = false := hrest b rfl
    rw [List.dropWhile_cons_of_neg (by simp [hb])]

theorem Ends.startsNoDigit {rest : Bytes} (h : Ends rest) : StartsNoDigit rest :=
  fun b hb => (h b hb).1

/-- A letter of an exponent, or a point, is no digit. -/
theorem startsNoDigit_cons {b : UInt8} (h : isDigit b = false) (rest : Bytes) :
    StartsNoDigit (b :: rest) := by
  intro c hc
  obtain rfl := Option.some.inj hc
  exact h

theorem skipExponentIfAny_of_ends {rest : Bytes} (h : Ends rest) :
    skipExponentIfAny rest = .ok rest := by
  unfold skipExponentIfAny
  split
  · exact absurd rfl (h 0x65 rfl).2.2.1
  · exact absurd rfl (h 0x45 rfl).2.2.2
  · rfl

theorem skipExponent_digits {sign ds rest : Bytes}
    (hsign : sign = [] ∨ sign = [0x2B] ∨ sign = [0x2D]) (h : IsDigits ds) (hrest : Ends rest) :
    skipExponent (sign ++ ds ++ rest) = .ok rest := by
  obtain ⟨hne, hds⟩ := h
  obtain ⟨d, ds, rfl⟩ := List.exists_cons_of_ne_nil hne
  have hd : isDigit d = true := hds d List.mem_cons_self
  have hdrop : (ds ++ rest).dropWhile isDigit = rest :=
    dropWhile_digits (fun b hb => hds b (List.mem_cons_of_mem _ hb)) hrest.startsNoDigit
  have hnot (b : UInt8) (hb : isDigit b = false) : d ≠ b := by
    rintro rfl
    rw [hd] at hb
    cases hb
  obtain rfl | rfl | rfl := hsign
  · rw [List.nil_append, List.cons_append,
      skipExponent_unsigned (hnot _ (by decide)) (hnot _ (by decide)), if_pos hd, hdrop]
  · simp only [List.cons_append, List.nil_append, skipExponent, if_pos hd, hdrop]
  · simp only [List.cons_append, List.nil_append, skipExponent, if_pos hd, hdrop]

theorem skipExponentIfAny_exponent {exponent rest : Bytes} (h : IsExponent exponent)
    (hrest : Ends rest) : skipExponentIfAny (exponent ++ rest) = .ok rest := by
  cases h with
  | none => exact skipExponentIfAny_of_ends hrest
  | digits hletter hsign h =>
    have hskip := skipExponent_digits hsign h hrest
    obtain rfl | rfl := hletter
    · exact hskip
    · exact hskip

/-- Neither an exponent nor what stands behind it starts with a digit or a point. -/
theorem IsExponent.head {exponent rest : Bytes} (h : IsExponent exponent) (hrest : Ends rest) :
    ∀ b ∈ (exponent ++ rest).head?, isDigit b = false ∧ b ≠ 0x2E := by
  intro b hb
  cases h with
  | none => exact ⟨(hrest b hb).1, (hrest b hb).2.1⟩
  | digits hletter =>
    obtain rfl := Option.some.inj hb
    obtain rfl | rfl := hletter <;> decide

theorem IsFraction.startsNoDigit {fraction exponent rest : Bytes} (hfraction : IsFraction fraction)
    (hexponent : IsExponent exponent) (hrest : Ends rest) :
    StartsNoDigit (fraction ++ (exponent ++ rest)) := by
  cases hfraction with
  | none => exact fun b hb => (hexponent.head hrest b hb).1
  | digits => exact startsNoDigit_cons (by decide) _

theorem skipAfterWhole_parts {fraction exponent rest : Bytes} (hfraction : IsFraction fraction)
    (hexponent : IsExponent exponent) (hrest : Ends rest) :
    skipAfterWhole (fraction ++ (exponent ++ rest)) = .ok rest := by
  cases hfraction with
  | none =>
    unfold skipAfterWhole
    rw [List.nil_append]
    split
    · rename_i heq
      exact absurd rfl (hexponent.head hrest 0x2E (by rw [heq]; rfl)).2
    · exact skipExponentIfAny_exponent hexponent hrest
  | @digits ds h =>
    obtain ⟨hne, hds⟩ := h
    have hdrop : (ds ++ (exponent ++ rest)).dropWhile isDigit = exponent ++ rest :=
      dropWhile_digits hds fun b hb => (hexponent.head hrest b hb).1
    obtain ⟨d, ds, rfl⟩ := List.exists_cons_of_ne_nil hne
    have hd : isDigit d = true := hds d List.mem_cons_self
    have hhead : (d :: ds ++ (exponent ++ rest)).head?.any isDigit = true := hd
    rw [List.cons_append]
    unfold skipAfterWhole
    split
    · rename_i heq
      rw [← (List.cons.inj heq).2, if_pos hhead, hdrop]
      exact skipExponentIfAny_exponent hexponent hrest
    · rename_i hno
      exact absurd rfl (hno _)

/-- **A number is passed.** -/
theorem skipNumber_magnitude {bs rest : Bytes} (h : IsMagnitude bs) (hrest : Ends rest) :
    skipNumber (bs ++ rest) = .ok rest := by
  obtain ⟨hwhole, hfraction, hexponent⟩ := h
  rename_i whole fraction exponent
  have hnext := hfraction.startsNoDigit hexponent hrest
  have hafter := skipAfterWhole_parts hfraction hexponent hrest
  rw [List.append_assoc, List.append_assoc]
  generalize fraction ++ (exponent ++ rest) = tail at hnext hafter
  cases hwhole with
  | zero =>
    have hhead : tail.head?.any isDigit = false := by
      cases tail with
      | nil => rfl
      | cons b tail => exact hnext b rfl
    rw [List.singleton_append, skipNumber, if_pos rfl, hhead, if_neg Bool.false_ne_true, hafter]
  | digits h hne =>
    obtain ⟨hnil, hds⟩ := h
    obtain ⟨d, ds, rfl⟩ := List.exists_cons_of_ne_nil hnil
    have hd : isDigit d = true := hds d List.mem_cons_self
    have hzero : d ≠ 0x30 := fun hd => hne (congrArg some hd)
    rw [List.cons_append, skipNumber, if_neg hzero, if_pos hd,
      dropWhile_digits (fun b hb => hds b (List.mem_cons_of_mem _ hb)) hnext, hafter]

/-! ### What texts start with -/

/-- The first byte of a value: no blank, no closing bracket, and an `n` only for `null`. -/
structure StartsValue (isNull : Prop) (b : UInt8) : Prop where
  /-- It is no blank. -/
  noBlank : isBlankByte b = false
  /-- It closes no list. -/
  noBracket : b ≠ 0x5D
  /-- Only `null` starts with an `n`. -/
  null : b = 0x6E → isNull

theorem IsMagnitude.head {bs : Bytes} (h : IsMagnitude bs) :
    ∃ b tail, bs = b :: tail ∧ isDigit b = true := by
  obtain ⟨hwhole, hfraction, hexponent⟩ := h
  cases hwhole with
  | zero => exact ⟨_, _, rfl, by decide⟩
  | digits h =>
    obtain ⟨hne, hds⟩ := h
    obtain ⟨d, ds, rfl⟩ := List.exists_cons_of_ne_nil hne
    exact ⟨d, _, rfl, hds d List.mem_cons_self⟩

/-- A digit is none of the bytes that mean something else. -/
theorem ne_of_isDigit {b c : UInt8} (hb : isDigit b = true) (hc : isDigit c = false) : b ≠ c := by
  rintro rfl
  rw [hb] at hc
  cases hc

theorem isBlankByte_of_isDigit {b : UInt8} (h : isDigit b = true) : isBlankByte b = false := by
  have hne (c : UInt8) (hc : isDigit c = false) : (b == c) = false :=
    beq_false_of_ne (ne_of_isDigit h hc)
  rw [isBlankByte, hne 0x20 (by decide), hne 0x0A (by decide), hne 0x09 (by decide),
    hne 0x0D (by decide)]
  rfl

theorem Part.IsText.head {t : Tree} {text : Bytes} (h : (Part.value t).IsText text) :
    ∃ b tail, text = b :: tail ∧ StartsValue (t = .null) b := by
  cases h with
  | null => exact ⟨_, _, rfl, by decide, by decide, fun _ => rfl⟩
  | number h =>
    cases h with
    | positive h =>
      obtain ⟨b, tail, rfl, hb⟩ := h.head
      exact ⟨b, tail, rfl, isBlankByte_of_isDigit hb, ne_of_isDigit hb (by decide),
        fun hn => absurd hn (ne_of_isDigit hb (by decide))⟩
    | negative => exact ⟨_, _, rfl, by decide, by decide, fun h => absurd h (by decide)⟩
  | _ => exact ⟨_, _, rfl, by decide, by decide, fun h => absurd h (by decide)⟩

theorem Piece.IsText.head {d : Document} {text : Bytes} (h : (Piece.value d).IsText text) :
    ∃ b tail, text = b :: tail ∧ StartsValue (d = .null) b := by
  obtain ⟨t, ht, hnull⟩ := h.exists_part
  obtain ⟨b, tail, rfl, hb⟩ := ht.head
  exact ⟨b, tail, rfl, hb.noBlank, hb.noBracket, fun h => hnull (hb.null h)⟩

/-- A text is not empty. -/
theorem Document.IsText.ne_nil {d : Document} {bytes : Bytes} (h : d.IsText bytes) :
    bytes ≠ [] := by
  obtain ⟨gap, text, gap', -, -, htext, rfl⟩ := h
  obtain ⟨b, tail, rfl, -⟩ := htext.head
  simp

/-! ### Containers -/

/-- A bracket or a comma is part of no number. -/
theorem Ends.of_mark {b : UInt8} (h : b = 0x5D ∨ b = 0x7D ∨ b = 0x2C) (rest : Bytes) :
    Ends (b :: rest) := by
  simp only [Ends, List.head?_cons, Option.mem_some_iff, forall_eq']
  obtain rfl | rfl | rfl := h <;> decide

theorem Separates.ends {front : Bytes} (h : Separates false front) (rest : Bytes) :
    Ends (front ++ rest) := by
  rw [Separates, if_neg Bool.false_ne_true] at h
  obtain ⟨gap, gap', hgap, -, rfl⟩ := h
  rw [List.append_assoc]
  exact (Ends.of_mark (.inr (.inr rfl)) _).append_gap hgap

/-- What stands behind a part of a container is no part of a number. -/
theorem Part.IsText.ends_items {ts : List Tree} {text : Bytes}
    (h : (Part.items false ts).IsText text) (rest : Bytes) : Ends (text ++ rest) := by
  cases h with
  | closeList hgap =>
    rw [List.append_assoc]
    exact (Ends.of_mark (.inl rfl) _).append_gap hgap
  | item hfront =>
    rw [List.append_assoc]
    exact hfront.ends _

theorem Part.IsText.ends_members {ms : List (Bytes × Tree)} {text : Bytes}
    (h : (Part.members false ms).IsText text) (rest : Bytes) : Ends (text ++ rest) := by
  cases h with
  | closeObject hgap =>
    rw [List.append_assoc]
    exact (Ends.of_mark (.inr (.inl rfl)) _).append_gap hgap
  | member hfront =>
    rw [List.append_assoc]
    exact hfront.ends _

theorem Piece.IsText.ends_items {ds : List Document} {text : Bytes}
    (h : (Piece.items false ds).IsText text) (rest : Bytes) : Ends (text ++ rest) := by
  obtain ⟨ts, hts⟩ := h.exists_part
  exact hts.ends_items rest

theorem Piece.IsText.ends_members {ms : List (String × Document)} {text : Bytes}
    (h : (Piece.members false ms).IsText text) (rest : Bytes) : Ends (text ++ rest) := by
  obtain ⟨ts, hts⟩ := h.exists_part
  exact hts.ends_members rest

/-- Behind what separates it, a part of a container is found. -/
theorem Separates.opens {first : Bool} {front : Bytes} (h : Separates first front) {b : UInt8}
    (hblank : isBlankByte b = false) {close : UInt8} (hclose : b ≠ close) (rest : Bytes) :
    ∃ gap, IsGap gap ∧ Opens close first (front ++ b :: rest) (gap ++ b :: rest) := by
  cases first with
  | true =>
    rw [Separates, if_pos rfl] at h
    exact ⟨[], isGap_nil, skipBlanks_gap h hblank rest, b, rfl, hclose⟩
  | false =>
    rw [Separates, if_neg Bool.false_ne_true] at h
    obtain ⟨gap, gap', hgap, hgap', rfl⟩ := h
    refine ⟨gap', hgap', ?_⟩
    rw [Opens, if_neg Bool.false_ne_true, List.append_assoc]
    exact skipBlanks_gap hgap (by decide) _

/-- The name of a member is passed, with its colon. -/
theorem skipName_text {name gap gap' : Bytes} (hname : IsBody name)
    (hgap : IsGap gap) (hgap' : IsGap gap') (rest : Bytes) :
    skipName (gap ++ 0x22 :: (name ++ 0x22 :: (gap' ++ 0x3A :: rest))) = .ok rest := by
  rw [skipName, skipBlanks_gap hgap (by decide)]
  dsimp only
  rw [if_pos rfl, skipString_body hname]
  exact colon_eq_ok_iff.2 ⟨gap', hgap', rfl⟩

/-- What passing a part of a text comes to, with as many turns as it has bytes, or more. -/
def Part.Passed (text : Bytes) : Part → Prop
  | .value _ => ∀ fuel gap rest, text.length ≤ fuel → IsGap gap → Ends rest →
    skipNested fuel (gap ++ (text ++ rest)) = .ok rest
  | .items first _ => ∀ fuel n rest, text.length ≤ fuel → text.length ≤ n →
    Skips 0x5D (skipNested fuel) n first (text ++ rest) rest
  | .members first _ => ∀ fuel n rest, text.length ≤ fuel → text.length ≤ n →
    Skips 0x7D (fun bs => skipName bs >>= skipNested fuel) n first (text ++ rest) rest

/-- Blanks before a value are passed with it. -/
theorem skipNested_gap {gap : Bytes} (hgap : IsGap gap) {b : UInt8} (hb : isBlankByte b = false)
    (fuel : Nat) (rest : Bytes) :
    skipNested (fuel + 1) (gap ++ b :: rest) = skipNested (fuel + 1) (b :: rest) := by
  have hnone : skipBlanks (b :: rest) = b :: rest := skipBlanks_gap isGap_nil hb rest
  rw [skipNested, skipNested, skipBlanks_gap hgap hb, hnone]

/-- It is enough to pass a value without blanks before it. -/
theorem Part.passed_value {t : Tree} {text : Bytes} (htext : (Part.value t).IsText text)
    (h : ∀ fuel rest, text.length ≤ fuel + 1 → Ends rest →
      skipNested (fuel + 1) (text ++ rest) = .ok rest) : (Part.value t).Passed text := by
  intro fuel gap rest hfuel hgap hrest
  obtain ⟨b, tail, rfl, hb⟩ := htext.head
  obtain ⟨fuel, rfl⟩ : ∃ n, fuel = n + 1 := by
    rw [List.length_cons] at hfuel
    exact ⟨fuel - 1, by omega⟩
  rw [List.cons_append, skipNested_gap hgap hb.noBlank]
  exact h fuel rest hfuel hrest

theorem skipNested_numeral {bs rest : Bytes} (h : IsNumeral bs) (hrest : Ends rest) (fuel : Nat) :
    skipNested (fuel + 1) (bs ++ rest) = .ok rest := by
  cases h with
  | positive h =>
    obtain ⟨b, tail, rfl, hb⟩ := h.head
    have hne (c : UInt8) (hc : isDigit c = false) : ¬ b = c := ne_of_isDigit hb hc
    have hskip := skipNumber_magnitude h hrest
    have hnone : skipBlanks (b :: (tail ++ rest)) = b :: (tail ++ rest) :=
      skipBlanks_gap isGap_nil (isBlankByte_of_isDigit hb) _
    rw [List.cons_append] at hskip ⊢
    rw [skipNested, hnone]
    dsimp only
    rw [if_neg (hne _ (by decide)), if_neg (hne _ (by decide)), if_neg (hne _ (by decide)),
      if_neg (hne _ (by decide)), if_pos hb]
    exact hskip
  | negative h => exact skipNumber_magnitude h hrest

/-- **Every part of a text is passed.**  By induction on the text; a part of a container is
shorter than the container, which is why the turns suffice. -/
theorem Part.IsText.passed {part : Part} {text : Bytes} (h : part.IsText text) :
    part.Passed text := by
  induction h with
  | null => exact Part.passed_value .null fun fuel rest _ _ => rfl
  | yes => exact Part.passed_value .yes fun fuel rest _ _ => rfl
  | no => exact Part.passed_value .no fun fuel rest _ _ => rfl
  | number h =>
    exact Part.passed_value (.number h) fun fuel rest _ hrest => skipNested_numeral h hrest fuel
  | string h =>
    refine Part.passed_value (.string h) fun fuel rest _ _ => ?_
    have hskip := skipString_body h rest
    rw [List.cons_append, List.append_assoc]
    exact hskip
  | array h ih =>
    refine Part.passed_value (.array h) fun fuel rest hfuel _ => ?_
    rw [List.length_cons] at hfuel
    exact skipElements_eq_ok_iff.2 (ih fuel (fuel + 1) rest (by omega) (by omega))
  | object h ih =>
    refine Part.passed_value (.object h) fun fuel rest hfuel _ => ?_
    rw [List.length_cons] at hfuel
    exact skipMembers_eq_ok_iff.2 (ih fuel (fuel + 1) rest (by omega) (by omega))
  | closeList hgap =>
    intro fuel n rest _ hn
    rw [List.length_append, List.length_singleton] at hn
    obtain ⟨n, rfl⟩ : ∃ k, n = k + 1 := ⟨n - 1, by omega⟩
    rw [List.append_assoc]
    exact .inl (skipBlanks_gap hgap (by decide) rest)
  | closeObject hgap =>
    intro fuel n rest _ hn
    rw [List.length_append, List.length_singleton] at hn
    obtain ⟨n, rfl⟩ : ∃ k, n = k + 1 := ⟨n - 1, by omega⟩
    rw [List.append_assoc]
    exact .inl (skipBlanks_gap hgap (by decide) rest)
  | @item first front text more t ts hfront htext hmore ih ihmore =>
    intro fuel n rest hfuel hn
    have hends := hmore.ends_items rest
    obtain ⟨b, tail, rfl, hb⟩ := htext.head
    simp only [List.length_append, List.length_cons] at hfuel hn
    obtain ⟨n, rfl⟩ : ∃ k, n = k + 1 := ⟨n - 1, by omega⟩
    obtain ⟨gap, hgap, hopens⟩ := hfront.opens hb.noBlank hb.noBracket (tail ++ (more ++ rest))
    have hpart := ih fuel gap (more ++ rest) (by rw [List.length_cons]; omega) hgap hends
    rw [List.append_assoc, List.append_assoc, List.cons_append]
    exact .inr ⟨_, hopens, _, hpart, ihmore fuel n rest (by omega) (by omega)⟩
  | @member first front name gap gap' text more t ms hfront hname hgap hgap' htext hmore ih
      ihmore =>
    intro fuel n rest hfuel hn
    have hends := hmore.ends_members rest
    simp only [List.length_append, List.length_cons] at hfuel hn
    obtain ⟨n, rfl⟩ : ∃ k, n = k + 1 := ⟨n - 1, by omega⟩
    obtain ⟨start, hstart, hopens⟩ := hfront.opens (b := 0x22) (by decide)
      (show _ ≠ (0x7D : UInt8) by decide)
      (name ++ 0x22 :: (gap ++ 0x3A :: (gap' ++ (text ++ (more ++ rest)))))
    have hpart := ih fuel gap' (more ++ rest) (by omega) hgap' hends
    have hmember := bind_eq_ok_iff.2 ⟨_, skipName_text hname hstart hgap
      (gap' ++ (text ++ (more ++ rest))), hpart⟩
    refine .inr ⟨_, ?_, _, hmember, ihmore fuel n rest (by omega) (by omega)⟩
    simp only [List.append_assoc, List.cons_append]
    exact hopens

/-- **A value is passed up to its end**, whatever it is. -/
theorem skipValue_part {t : Tree} {text : Bytes} (h : (Part.value t).IsText text)
    {gap rest : Bytes} (hgap : IsGap gap) (hrest : Ends rest) :
    skipValue (gap ++ (text ++ rest)) = .ok rest := by
  refine h.passed _ gap rest ?_ hgap hrest
  rw [List.length_append, List.length_append]
  omega

theorem skipValue_text {d : Document} {text : Bytes} (h : (Piece.value d).IsText text)
    {gap rest : Bytes} (hgap : IsGap gap) (hrest : Ends rest) :
    skipValue (gap ++ (text ++ rest)) = .ok rest := by
  obtain ⟨t, ht, -⟩ := h.exists_part
  exact skipValue_part ht hgap hrest

end SignIn.Json
