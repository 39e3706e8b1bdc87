import SignIn.Proofs.Json.Passed

/-!
# Numbers and what stands behind them

What a number is read as depends on the number alone.  What stands behind it has no say, as long as
it cannot go on with the number: every stage of the reader takes the digits that are its own and
leaves the rest as it is, or it fails whatever the rest is.

## Main definitions

* `Gives` — a reading comes to the same result, or fails, whatever stands behind what is read.
* `Steady` — there is something that a reading gives.
* `magnitude?`, `numeral?` — the number that is read from digits alone.

## Main results

* `steady_number` — a number is read whatever stands behind it.
* `gives_magnitude` — and so it is read as if nothing did.
-/

namespace SignIn.Json

open SignIn.Text SignIn.Number

variable {α β : Type}

/-- What is read is always the same, or nothing, whatever stands behind it; and the rest is left as
it is. -/
def Gives (read : Bytes → Except Fault (α × Bytes)) (o : Option α) : Prop :=
  ∀ rest, Ends rest → (read rest).toOption = o.map (·, rest)

/-- Something is always read, or always nothing. -/
def Steady (read : Bytes → Except Fault (α × Bytes)) : Prop := ∃ o, Gives read o

theorem Steady.congr {read read' : Bytes → Except Fault (α × Bytes)} (h : Steady read')
    (heq : ∀ rest, Ends rest → read rest = read' rest) : Steady read := by
  obtain ⟨o, ho⟩ := h
  exact ⟨o, fun rest hrest => by rw [heq rest hrest, ho rest hrest]⟩

theorem steady_ok (a : α) : Steady fun rest => .ok (a, rest) := ⟨some a, fun _ _ => rfl⟩

theorem steady_error (f : Bytes → Fault) :
    Steady fun rest => (.error (f rest) : Except Fault (α × Bytes)) := ⟨none, fun _ _ => rfl⟩

/-! ### Digits -/

theorem not_isDigit_of_starts {b : UInt8} {rest : Bytes} (h : StartsNoDigit (b :: rest)) :
    ¬ isDigit b = true := by
  rw [h b rfl]
  exact Bool.false_ne_true

/-- Digits are gathered up to where they end; those that do not fit are left. -/
theorem gather_append {ds : Bytes} (hds : ∀ b ∈ ds, isDigit b = true) (s : Nat) :
    ∃ s' n left, (∀ b ∈ left, isDigit b = true) ∧
      ∀ rest, StartsNoDigit rest → gather s (ds ++ rest) = (s', n, left ++ rest) := by
  induction ds generalizing s with
  | nil =>
    refine ⟨s, 0, [], List.forall_mem_nil _, fun rest hrest => ?_⟩
    cases rest with
    | nil => rfl
    | cons b rest =>
      rw [List.nil_append, gather, if_neg fun h => not_isDigit_of_starts hrest h.1]
  | cons d ds ih =>
    by_cases hd : isDigit d ∧ s * 10 + digitValue d ≤ maxWord
    · obtain ⟨s', n, left, hleft, hgather⟩ :=
        ih (fun b hb => hds b (List.mem_cons_of_mem _ hb)) (s * 10 + digitValue d)
      refine ⟨s', n + 1, left, hleft, fun rest hrest => ?_⟩
      rw [List.cons_append, gather, if_pos hd, hgather rest hrest]
    · refine ⟨s, 0, d :: ds, hds, fun rest _ => ?_⟩
      rw [List.cons_append, gather, if_neg hd]

/-- The digits of an exponent are read up to where they end, or until it is too great. -/
theorem exponentDigits_append {ds : Bytes} (hds : ∀ b ∈ ds, isDigit b = true) (e : Nat) :
    (∃ e', ∀ rest, StartsNoDigit rest → exponentDigits e (ds ++ rest) = (some e', rest)) ∨
      ∃ left, (∀ b ∈ left, isDigit b = true) ∧
        ∀ rest, exponentDigits e (ds ++ rest) = (none, left ++ rest) := by
  induction ds generalizing e with
  | nil =>
    refine .inl ⟨e, fun rest hrest => ?_⟩
    cases rest with
    | nil => rfl
    | cons b rest => rw [List.nil_append, exponentDigits, if_neg (not_isDigit_of_starts hrest)]
  | cons d ds ih =>
    have hd : isDigit d = true := hds d List.mem_cons_self
    have hds : ∀ b ∈ ds, isDigit b = true := fun b hb => hds b (List.mem_cons_of_mem _ hb)
    have hstep (rest : Bytes) : exponentDigits e (d :: ds ++ rest) =
        if e * 10 + digitValue d ≤ maxExponent then
          exponentDigits (e * 10 + digitValue d) (ds ++ rest)
        else (none, ds ++ rest) := by
      rw [List.cons_append, exponentDigits, if_pos hd]
    by_cases hfits : e * 10 + digitValue d ≤ maxExponent
    · simp only [hstep, if_pos hfits]
      exact ih hds _
    · simp only [hstep, if_neg hfits]
      exact .inr ⟨ds, hds, fun _ => rfl⟩

/-! ### Exponents -/

theorem steady_scaled (negative : Bool) (s : Nat) (e : Int) : Steady (scaled negative s e) := by
  unfold scaled
  cases Binary64.ofDecimal? negative (UInt64.ofNat s) e with
  | none => exact steady_error _
  | some x => exact steady_ok _

theorem steady_exponentValue (negative : Bool) (s : Nat) (shift : Int) (up : Bool) {ds : Bytes}
    (h : IsDigits ds) : Steady fun rest => exponentValue negative s shift up (ds ++ rest) := by
  obtain ⟨hne, hds⟩ := h
  obtain ⟨d, ds, rfl⟩ := List.exists_cons_of_ne_nil hne
  have hd : isDigit d = true := hds d List.mem_cons_self
  simp only [List.cons_append, exponentValue, if_pos hd]
  rcases exponentDigits_append (fun b hb => hds b (List.mem_cons_of_mem _ hb)) (digitValue d)
    with ⟨e, he⟩ | ⟨left, hleft, he⟩
  · refine (steady_scaled negative s (if up then shift + e else shift - e)).congr
      fun rest hrest => ?_
    rw [he rest hrest.startsNoDigit]
    rfl
  · -- an exponent that is too great makes the number too great, or zero
    simp only [he, afterExponent]
    split
    · exact steady_error _
    · refine (steady_scaled negative 0 0).congr fun rest hrest => ?_
      rw [dropWhile_digits hleft hrest.startsNoDigit]

theorem steady_exponentPart (negative : Bool) (s : Nat) (shift : Int) {sign ds : Bytes}
    (hsign : sign = [] ∨ sign = [0x2B] ∨ sign = [0x2D]) (h : IsDigits ds) :
    Steady fun rest => exponentPart negative s shift (sign ++ ds ++ rest) := by
  obtain rfl | rfl | rfl := hsign
  · refine (steady_exponentValue negative s shift true h).congr fun rest _ => ?_
    obtain ⟨hne, hds⟩ := h
    obtain ⟨d, ds, rfl⟩ := List.exists_cons_of_ne_nil hne
    have hd : isDigit d = true := hds d List.mem_cons_self
    exact exponentPart_unsigned (ne_of_isDigit hd (by decide)) (ne_of_isDigit hd (by decide))
      negative s shift (ds ++ rest)
  · exact (steady_exponentValue negative s shift true h).congr fun rest _ =>
      exponentPart_plus negative s shift (ds ++ rest)
  · exact (steady_exponentValue negative s shift false h).congr fun rest _ =>
      exponentPart_minus negative s shift (ds ++ rest)

theorem steady_exponentOrEnd (negative : Bool) (s : Nat) (shift : Int) {exponent : Bytes}
    (h : IsExponent exponent) :
    Steady fun rest => exponentOrEnd negative s shift (exponent ++ rest) := by
  cases h with
  | none =>
    refine (steady_scaled negative s shift).congr fun rest hrest => ?_
    exact exponentOrEnd_of_ne (fun h => (hrest _ h).2.2.1 rfl) (fun h => (hrest _ h).2.2.2 rfl) _ _ _
  | digits hletter hsign h =>
    obtain rfl | rfl := hletter
    · exact steady_exponentPart negative s shift hsign h
    · exact steady_exponentPart negative s shift hsign h

/-! ### Fractions -/

theorem steady_fractionPart (negative : Bool) (s : Nat) (shift : Int) {ds exponent : Bytes}
    (h : IsDigits ds) (hexponent : IsExponent exponent) :
    Steady fun rest => fractionPart negative s shift (ds ++ (exponent ++ rest)) := by
  obtain ⟨s', n, left, hleft, hgather⟩ := gather_append h.2 s
  refine (steady_exponentOrEnd negative s' (shift - n) hexponent).congr fun rest hrest => ?_
  have hnext : StartsNoDigit (exponent ++ rest) := fun b hb => (hexponent.head hrest b hb).1
  obtain ⟨hne, hds⟩ := h
  obtain ⟨d, ds, rfl⟩ := List.exists_cons_of_ne_nil hne
  have hd : isDigit d = true := hds d List.mem_cons_self
  have hcut := hgather _ hnext
  rw [List.cons_append] at hcut ⊢
  rw [fractionPart, if_pos hd, hcut]
  dsimp only
  rw [dropWhile_digits hleft hnext]

/-- Where neither a point nor an exponent follows, the number is whole. -/
theorem afterWhole_of_ends {rest : Bytes} (h : Ends rest) (negative : Bool) (s : Nat) :
    afterWhole negative s rest = .ok (wholeNumeral negative s, rest) := by
  refine afterWhole.eq_4 negative s rest ?_ ?_ ?_ <;> rintro tail rfl
  · exact (h 0x2E rfl).2.1 rfl
  · exact (h 0x65 rfl).2.2.1 rfl
  · exact (h 0x45 rfl).2.2.2 rfl

theorem steady_afterWhole (negative : Bool) (s : Nat) {fraction exponent : Bytes}
    (hfraction : IsFraction fraction) (hexponent : IsExponent exponent) :
    Steady fun rest => afterWhole negative s (fraction ++ (exponent ++ rest)) := by
  cases hfraction with
  | digits h => exact steady_fractionPart negative s 0 h hexponent
  | none =>
    cases hexponent with
    | none =>
      exact (steady_ok (wholeNumeral negative s)).congr fun rest hrest =>
        afterWhole_of_ends hrest negative s
    | digits hletter hsign h =>
      obtain rfl | rfl := hletter
      · exact steady_exponentPart negative s 0 hsign h
      · exact steady_exponentPart negative s 0 hsign h

theorem steady_afterLongWhole (negative : Bool) (s : Nat) {left fraction exponent : Bytes}
    (hleft : ∀ b ∈ left, isDigit b = true) (hfraction : IsFraction fraction)
    (hexponent : IsExponent exponent) :
    Steady fun rest => afterLongWhole negative s (left ++ (fraction ++ (exponent ++ rest))) := by
  -- the digits that are left only count
  have hcut (rest : Bytes) (hrest : Ends rest) :
      (left ++ (fraction ++ (exponent ++ rest))).dropWhile isDigit =
          fraction ++ (exponent ++ rest) ∧
        (left ++ (fraction ++ (exponent ++ rest))).takeWhile isDigit = left := by
    have hdrop := dropWhile_digits hleft (hfraction.startsNoDigit hexponent hrest)
    have hboth := List.takeWhile_append_dropWhile (p := isDigit)
      (l := left ++ (fraction ++ (exponent ++ rest)))
    rw [hdrop] at hboth
    exact ⟨hdrop, List.append_cancel_right hboth⟩
  cases hfraction with
  | digits h =>
    refine (steady_fractionPart negative s left.length h hexponent).congr fun rest hrest => ?_
    obtain ⟨hdrop, htake⟩ := hcut rest hrest
    rw [afterLongWhole, hdrop, htake]
    rfl
  | none =>
    refine (steady_exponentOrEnd negative s left.length hexponent).congr fun rest hrest => ?_
    obtain ⟨hdrop, htake⟩ := hcut rest hrest
    rw [afterLongWhole, hdrop, htake, List.nil_append]
    split
    · rename_i tail heq
      exact absurd rfl (hexponent.head hrest 0x2E (by rw [heq]; rfl)).2
    · rfl

/-! ### Numbers -/

/-- A number whose digits all fit is read by what stands behind them. -/
theorem number_of_gather (negative : Bool) {d : UInt8} {bs tail : Bytes} {s n : Nat}
    (hzero : d ≠ 0x30) (hd : isDigit d = true) (hgather : gather 0 (d :: bs) = (s, n, tail))
    (hnext : StartsNoDigit tail) : number negative (d :: bs) = afterWhole negative s tail := by
  unfold number
  dsimp only
  rw [if_neg hzero, if_pos hd, hgather]
  cases tail with
  | nil => rfl
  | cons b tail => exact if_neg (not_isDigit_of_starts hnext)

/-- If there are more digits than fit, those that are left count as well. -/
theorem number_of_gather_long (negative : Bool) {d b : UInt8} {bs tail : Bytes} {s n : Nat}
    (hzero : d ≠ 0x30) (hd : isDigit d = true) (hgather : gather 0 (d :: bs) = (s, n, b :: tail))
    (hb : isDigit b = true) :
    number negative (d :: bs) = afterLongWhole negative s (b :: tail) := by
  unfold number
  dsimp only
  rw [if_neg hzero, if_pos hd, hgather]
  exact if_pos hb

/-- **A number is read whatever stands behind it.** -/
theorem steady_number (negative : Bool) {bs : Bytes} (h : IsMagnitude bs) :
    Steady fun rest => number negative (bs ++ rest) := by
  obtain ⟨hwhole, hfraction, hexponent⟩ := h
  rename_i whole fraction exponent
  have hmove (rest : Bytes) : whole ++ (fraction ++ exponent) ++ rest =
      whole ++ (fraction ++ (exponent ++ rest)) := by simp
  cases hwhole with
  | zero =>
    refine (steady_afterWhole negative 0 hfraction hexponent).congr fun rest hrest => ?_
    have hnext := hfraction.startsNoDigit hexponent hrest
    rw [hmove]
    generalize fraction ++ (exponent ++ rest) = tail at hnext
    cases tail with
    | nil => rfl
    | cons b tail =>
      simp only [List.singleton_append, number, if_true, if_neg (not_isDigit_of_starts hnext)]
  | digits h hne =>
    obtain ⟨s, n, left, hleft, hgather⟩ := gather_append h.2 0
    obtain ⟨hnil, hds⟩ := h
    obtain ⟨d, ds, rfl⟩ := List.exists_cons_of_ne_nil hnil
    have hd : isDigit d = true := hds d List.mem_cons_self
    have hzero : d ≠ 0x30 := fun hd => hne (congrArg some hd)
    rcases left with _ | ⟨b, left⟩
    · refine (steady_afterWhole negative s hfraction hexponent).congr fun rest hrest => ?_
      have hnext := hfraction.startsNoDigit hexponent hrest
      rw [hmove]
      exact number_of_gather negative hzero hd (hgather _ hnext) hnext
    · refine (steady_afterLongWhole negative s hleft hfraction hexponent).congr
        fun rest hrest => ?_
      have hnext := hfraction.startsNoDigit hexponent hrest
      rw [hmove]
      exact number_of_gather_long negative hzero hd (hgather _ hnext) (hleft b List.mem_cons_self)

/-- The number that is read from a magnitude alone, behind a minus or not. -/
def magnitude? (negative : Bool) (bs : Bytes) : Option Numeral :=
  (number negative bs).toOption.map Prod.fst

/-- A number is read as if nothing stood behind it. -/
theorem gives_magnitude (negative : Bool) {bs : Bytes} (h : IsMagnitude bs) :
    Gives (fun rest => number negative (bs ++ rest)) (magnitude? negative bs) := by
  obtain ⟨o, ho⟩ := steady_number negative h
  have halone : (number negative (bs ++ [])).toOption = _ := ho [] ends_nil
  rw [List.append_nil] at halone
  have hfst : Prod.fst ∘ (fun x : Numeral => (x, ([] : Bytes))) = id := rfl
  rw [magnitude?, halone, Option.map_map, hfst, Option.map_id]
  exact ho

/-- The number that is read from a numeral alone. -/
def numeral? : Bytes → Option Numeral
  | 0x2D :: bs => magnitude? true bs
  | bs => magnitude? false bs

end SignIn.Json
