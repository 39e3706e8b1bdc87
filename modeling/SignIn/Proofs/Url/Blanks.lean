import SignIn.Proofs.Url.Appended

/-!
# Blanks behind a host

Controls and spaces at the end of an address are dropped before it is read, and inside it they
count.  No host and no port ends in one, and a blank at the end of a name survives all that is
done to the name: percent-decoding, folding and composing.  So where blanks stand between the
end of an address and a part that is appended, the address with the part is read as before only
if its authority ends earlier.

## Main results

* `composed_append` — a character of ASCII behind a text stays there when the text is composed.
* `parseWebHost_of_blank` — no web host ends in a control or a space.
-/

namespace SignIn.Url

open SignIn.Text

/-! ### Bytes -/

theorem percentDecode_cons_of_ne {b : UInt8} (hb : b ≠ 0x25) (bs : Bytes) :
    percentDecode (b :: bs) = b :: percentDecode bs :=
  percentDecode.eq_3 _ _ fun _ _ _ h _ => hb h

theorem percentDecode_append {b : UInt8} (hb : b ≠ 0x25) (hx : hexDigit? b = none) (bs : Bytes) :
    percentDecode (bs ++ [b]) = percentDecode bs ++ [b] := by
  induction bs using percentDecode.induct with
  | case1 => rw [List.nil_append, percentDecode_cons_of_ne hb, percentDecode, List.nil_append]
  | case2 a c rest x y ha hc ih =>
    simp only [List.cons_append, percentDecode, ha, hc, ih]
  | case3 a c rest hn ih =>
    simp only [List.cons_append] at ih ⊢
    rw [percentDecode, percentDecode]
    split
    · rename_i x y ha hc
      exact absurd hc (hn x y ha)
    · rw [ih, List.cons_append]
  | case4 first rest hn ih =>
    by_cases hf : first = 0x25
    · -- a percent sign with less than two bytes behind it stands for itself
      subst hf
      rcases rest with _ | ⟨a, _ | ⟨c, rest⟩⟩
      · simp only [List.nil_append, List.cons_append, percentDecode, percentDecode_cons_of_ne hb]
      · simp only [List.cons_append, List.nil_append] at ih ⊢
        rw [percentDecode]
        simp only [hx]
        rw [ih]
        simp [percentDecode]
      · exact absurd rfl (hn a c rest rfl)
    · rw [List.cons_append, percentDecode_cons_of_ne hf, percentDecode_cons_of_ne hf, ih,
        List.cons_append]

/-- A byte of ASCII behind other bytes is no part of their sequences. -/
theorem front_append {b : UInt8} (hb : b < 0x80) (first : UInt8) (rest : Bytes) :
    (Utf8.front first (rest ++ [b])).1 = (Utf8.front first rest).1 ∧
      ((Utf8.front first rest).1.isSome →
        (Utf8.front first (rest ++ [b])).2 = (Utf8.front first rest).2 ++ [b]) := by
  have hn : b.toNat < 128 := UInt8.lt_iff_toNat_lt.1 hb
  have ht : Utf8.isTail b = false := by
    simp only [Utf8.isTail, Bool.and_eq_false_iff, decide_eq_false_iff_not, UInt8.le_iff_toNat_le]
    exact .inl (by simpa using hn)
  have hs (a : UInt8) : Utf8.isSecond a b = false := by
    have h1 : 128 ≤ (Utf8.secondRange a).1.toNat := by
      unfold Utf8.secondRange
      repeat' split
      all_goals decide
    simp only [Utf8.isSecond, Bool.and_eq_false_iff, decide_eq_false_iff_not, UInt8.le_iff_toNat_le]
    exact .inl (by omega)
  unfold Utf8.front
  rcases rest with _ | ⟨a, _ | ⟨c, _ | ⟨d, rest⟩⟩⟩ <;> simp [ht, hs] <;> repeat' split
  all_goals simp

theorem decodeChars?_append_byte {b : UInt8} (hb : b < 0x80) (bs : Bytes) :
    Utf8.decodeChars? (bs ++ [b]) =
      (Utf8.decodeChars? bs).map (· ++ [Char.ofNat b.toNat]) := by
  induction bs using Utf8.decodeChars?.induct with
  | case1 =>
    have hf : Utf8.front b [] = (some (Char.ofNat b.toNat), []) := if_pos hb
    rw [List.nil_append, Utf8.decodeChars?_of_front hf, Utf8.decodeChars?]
    rfl
  | case2 first rest c r hf _ ih =>
    obtain ⟨h₁, h₂⟩ := front_append hb first rest
    rw [hf] at h₁ h₂
    have hf' : Utf8.front first (rest ++ [b]) = (some c, r ++ [b]) := Prod.ext h₁ (h₂ rfl)
    rw [List.cons_append, Utf8.decodeChars?_of_front hf', Utf8.decodeChars?_of_front hf, ih,
      Option.map_map, Option.map_map]
    rfl
  | case3 first rest r hf =>
    have h₁ := (front_append hb first rest).1
    rw [hf] at h₁
    rw [List.cons_append, Utf8.decodeChars?_of_front_none h₁,
      Utf8.decodeChars?_of_front_none (by rw [hf]), Option.map_none]

/-! ### Composition -/

section Composition

variable {c : Char} (hc : isAscii c = true)

include hc

theorem decompose_append (cs : List Char) : decompose (cs ++ [c]) = decompose cs ++ [c] := by
  have hp (ds : List Char) : (ds ++ [c]).flatMap parts = ds.flatMap parts ++ [c] := by
    rw [List.flatMap_append, List.flatMap_singleton, parts_of_isAscii hc]
  simp only [decompose, Nat.repeat, hp]

theorem settle_append (d : Char) (cs : List Char) : settle d (cs ++ [c]) = settle d cs ++ [c] := by
  induction cs with
  | nil => simp [settle, combiningClass_of_isAscii hc]
  | cons e cs ih =>
    rw [List.cons_append, settle, settle, ih]
    split <;> rfl

theorem reorder_append (cs : List Char) : reorder (cs ++ [c]) = reorder cs ++ [c] := by
  induction cs with
  | nil => rfl
  | cons d cs ih =>
    rw [reorder, List.cons_append, List.foldr_cons]
    rw [reorder] at ih
    rw [ih, settle_append hc]
    rfl

theorem composeAfter_append (letter : Char) (kept : List Char) (last : Nat) (cs : List Char) :
    composeAfter letter kept last (cs ++ [c]) = composeAfter letter kept last cs ++ [c] := by
  induction cs generalizing letter kept last with
  | nil =>
    simp [composeAfter, compose?_of_isAscii letter hc, combiningClass_of_isAscii hc]
  | cons d cs ih =>
    rw [List.cons_append, composeAfter, composeAfter]
    split
    · exact ih ..
    · split
      · rw [ih, List.append_assoc]
      · exact ih ..

theorem compose_append (cs : List Char) : compose (cs ++ [c]) = compose cs ++ [c] := by
  induction cs with
  | nil => simp [compose, composeAfter, combiningClass_of_isAscii hc]
  | cons d cs ih =>
    rw [List.cons_append, compose, compose, composeAfter_append hc, ih]
    split <;> rfl

/-- A character of ASCII behind a text stays there. -/
theorem composed_append (cs : List Char) : composed (cs ++ [c]) = composed cs ++ [c] := by
  rw [composed, decompose_append hc, reorder_append hc, compose_append hc, composed]

end Composition

/-! ### Hosts -/

theorem ne_of_blank {c d : Char} (hc : c.toNat ≤ 0x20) (hd : 0x20 < d.toNat) : c ≠ d := by
  rintro rfl
  omega

theorem endsAuthority_of_blank (kind : SchemeKind) {c : Char} (hc : c.toNat ≤ 0x20) :
    endsAuthority kind c = false := by
  rw [Bool.eq_false_iff]
  intro he
  obtain rfl | rfl | rfl | rfl := eq_of_endsAuthority he <;> exact absurd hc (by decide)

theorem isDigit_of_blank {c : Char} (hc : c.toNat ≤ 0x20) : c.isDigit = false := by
  rw [Bool.eq_false_iff]
  intro hd
  have := isDigit_iff.1 hd
  omega

theorem parseBracketed_of_blank {c : Char} (hc : c.toNat ≤ 0x20) (cs : List Char) :
    parseBracketed (cs ++ [c]) = .error .invalidIpv6 := by
  refine if_neg ?_
  simpa using ne_of_blank hc (by decide)

theorem readLabels?_of_blank {c : Char} (hb : c.toNat ≤ 0x20) (cs : List Char) :
    readLabels? (cs ++ [c]) = none := by
  have hc : isAscii c = true := isAscii_iff.2 (by omega)
  have hone : [c].mapM fold? = some [[c]] := by
    rw [List.mapM_cons, fold?_of_isAscii hc (isUpper_eq_false_iff.2 (by omega))]
    rfl
  rw [readLabels?, List.mapM_append, hone]
  cases cs.mapM fold? with
  | none => rfl
  | some fs =>
    -- the blank is still there when the characters have been folded and composed
    have hany : (composed (fs ++ [[c]]).flatten).any isForbiddenInDomain = true := by
      rw [List.flatten_append, List.flatten_singleton, composed_append hc, List.any_append]
      simp [isForbiddenInDomain, hb]
    simp only [bind, Option.bind, pure, hany]
    rfl

/-- **No web host ends in a control or a space.** -/
theorem parseWebHost_of_blank {c : Char} (hb : c.toNat ≤ 0x20) (cs : List Char) (host : Host) :
    parseWebHost (cs ++ [c]) ≠ .ok host := by
  have hc : isAscii c = true := isAscii_iff.2 (by omega)
  unfold parseWebHost
  split
  · rename_i rest h
    cases cs with
    | nil => exact absurd (List.cons.inj h).1 (ne_of_blank hb (by decide))
    | cons d ds =>
      obtain rfl : ds ++ [c] = rest := (List.cons.inj h).2
      rw [parseBracketed_of_blank hb]
      intro h
      cases h
  · have hbyte : UInt8.ofNat c.toNat < 0x80 := by
      rw [UInt8.lt_iff_toNat_lt, toNat_byte_of_isAscii hc]
      exact isAscii_iff.1 hc
    have hle : (UInt8.ofNat c.toNat).toNat ≤ 0x20 := by rwa [toNat_byte_of_isAscii hc]
    have hpercent : UInt8.ofNat c.toNat ≠ 0x25 := by
      intro h
      rw [h] at hle
      exact absurd hle (by decide)
    have hhex : hexDigit? (UInt8.ofNat c.toNat) = none := by
      simp only [hexDigit?, UInt8.le_iff_toNat_le]
      rw [if_neg, if_neg, if_neg] <;> intro h <;> have := h.1 <;> simp at this <;> omega
    rw [List.flatMap_append, List.flatMap_singleton, utf8EncodeChar_of_isAscii hc,
      percentDecode_append hpercent hhex, decodeChars?_append_byte hbyte,
      toNat_byte_of_isAscii hc, Char.ofNat_toNat]
    cases Utf8.decodeChars? (percentDecode (cs.flatMap String.utf8EncodeChar)) with
    | none =>
      intro h
      cases h
    | some ds =>
      simp only [Option.map_some, domainToAscii, readLabels?_of_blank hb]
      intro h
      cases h

/-- A host of another scheme may end in a control, but is another one then. -/
theorem parseOtherHost_of_blank {c : Char} (hc : c.toNat ≤ 0x20) {cs ds : List Char} {host : Host}
    (h : parseOtherHost cs = .ok host) : parseOtherHost (cs ++ ds ++ [c]) ≠ .ok host := by
  unfold parseOtherHost at h ⊢
  split
  · rename_i rest heq
    cases hcs : cs ++ ds with
    | nil =>
      rw [hcs] at heq
      exact absurd (List.cons.inj heq).1 (ne_of_blank hc (by decide))
    | cons d es =>
      rw [hcs] at heq
      obtain rfl : es ++ [c] = rest := (List.cons.inj heq).2
      rw [parseBracketed_of_blank hc]
      intro h
      cases h
  · rename_i hfirst
    split
    · intro h
      cases h
    · split at h
      · exact (hfirst _ rfl).elim
      · split at h
        · cases h
        · rw [← h]
          -- the name has got longer
          intro heq
          have heq' := String.ofList_inj.1 (Host.name.inj (Except.ok.inj heq))
          rw [List.append_assoc, percentEncode_append, percentEncode_append,
            List.append_right_eq_self, List.append_eq_nil_iff] at heq'
          exact encodeChar_ne_nil controlSet c (by simpa [percentEncode] using heq'.2)

/-! ### Authorities -/

section Gap

variable {t : List Char} (ht : ∀ c ∈ t, c.toNat ≤ 0x20)

include ht

theorem exists_blank (hne : t ≠ []) : ∃ s c, t = s ++ [c] ∧ c.toNat ≤ 0x20 :=
  ⟨t.dropLast, t.getLast hne, (List.dropLast_concat_getLast hne).symm,
    ht _ (List.getLast_mem hne)⟩

/-- **Blanks behind a host change it**, or it is none then. -/
theorem parseHost_append_blanks (hne : t ≠ []) {kind : SchemeKind} {cs : List Char} {host : Host}
    (h : parseHost kind cs = .ok host) : parseHost kind (cs ++ t) ≠ .ok host := by
  obtain ⟨s, c, rfl, hc⟩ := exists_blank ht hne
  rw [← List.append_assoc]
  unfold parseHost at h ⊢
  split
  · rename_i hk
    rw [if_pos hk] at h
    exact parseOtherHost_of_blank hc h
  · rw [if_neg (by simp)]
    exact parseWebHost_of_blank hc (cs ++ s) host

/-- Blanks behind an authority do not move its at-sign. -/
theorem splitUser_append_blanks (kind : SchemeKind) (cs : List Char) :
    splitUser kind (cs ++ t) = ((splitUser kind cs).1, (splitUser kind cs).2 ++ t) := by
  unfold splitUser
  by_cases hopen : (cs.span (!endsAuthority kind ·)).2 = []
  · have hcs := forall_of_span hopen
    have hspan : (cs ++ t).span (!endsAuthority kind ·) = (cs ++ t, []) := by
      refine span_eq_self fun c hc => ?_
      obtain hc | hc := List.mem_append.1 hc
      · exact hcs c hc
      · rw [endsAuthority_of_blank kind (ht c hc)]
        rfl
    have hat : ∀ c ∈ t.reverse, (c != '@') = true := fun c hc =>
      bne_iff_ne.2 (ne_of_blank (ht c (List.mem_reverse.1 hc)) (by decide))
    rw [hspan, span_eq_self hcs]
    dsimp only
    rw [List.reverse_append, span_append_of_forall hat]
    rcases cs.reverse.span (· != '@') with ⟨host, _ | ⟨c, user⟩⟩ <;> simp
  · rw [span_append_of_ne_nil hopen]
    dsimp only
    split <;> simp

theorem spanHost_append_blanks {kind : SchemeKind} {inside : Bool} {cs : List Char}
    (h : (spanHost kind inside cs).2 = []) :
    spanHost kind inside (cs ++ t) = ((spanHost kind inside cs).1 ++ t, []) := by
  induction cs generalizing inside with
  | nil =>
    clear h
    dsimp only [spanHost, List.nil_append]
    induction t generalizing inside with
    | nil => rfl
    | cons c t ih =>
      have hc := ht c (by simp)
      rw [spanHost, if_neg]
      · simp only [ih fun d hd => ht d (by simp [hd])]
      · simp [endsAuthority_of_blank kind hc, ne_of_blank hc]
  | cons c cs ih =>
    rw [spanHost] at h
    rw [List.cons_append, spanHost, spanHost]
    split
    · rename_i hc
      rw [if_pos hc] at h
      cases h
    · rename_i hc
      rw [if_neg hc] at h
      simp only [ih h]
      rfl

theorem parsePort_append_blanks (hne : t ≠ []) {scheme : String} {cs : List Char}
    {port : Option Nat} (h : parsePort scheme cs = .ok (port, [])) (p : Option Nat × List Char) :
    parsePort scheme (cs ++ t) ≠ .ok p := by
  obtain ⟨port', rest⟩ := p
  intro h'
  have hcs := forall_of_span (parsePort_eq_ok_iff.1 h).2.2.2.symm
  obtain ⟨-, hstop, -, rfl⟩ := parsePort_eq_ok_iff.1 h'
  obtain ⟨c, s, rfl⟩ := List.exists_cons_of_ne_nil hne
  have hc := ht c (by simp)
  rw [span_append_of_forall hcs, List.span_eq_takeWhile_dropWhile,
    List.dropWhile_cons_of_neg (by simp [isDigit_of_blank hc])] at hstop
  simp [ne_of_blank hc] at hstop

/-- Where host and port end with the text, blanks behind it change the host, or there is none. -/
theorem parseHostAndPort_append_blanks (hne : t ≠ []) {scheme : String} {kind : SchemeKind}
    {cs rest : List Char} {host : Host} {port port' : Option Nat}
    (h : parseHostAndPort scheme kind cs = .ok (host, port, [])) :
    parseHostAndPort scheme kind (cs ++ t) ≠ .ok (host, port', rest) := by
  obtain ⟨hhost, hport⟩ := parseHostAndPort_eq_ok_iff.1 h
  intro h'
  obtain ⟨hhost', hport'⟩ := parseHostAndPort_eq_ok_iff.1 h'
  by_cases hbehind : (spanHost kind false cs).2 = []
  · rw [spanHost_append_blanks ht hbehind] at hhost'
    exact parseHost_append_blanks ht hne hhost hhost'
  · -- the blanks stand behind a port
    rw [spanHost_append_of_ne_nil hbehind] at hport'
    unfold parseColonPort at hport
    split at hport
    · rename_i digits heq
      split at hport
      · cases hport
      · rename_i hname
        rw [heq, List.cons_append, parseColonPort, if_neg hname] at hport'
        exact parsePort_append_blanks ht hne hport _ hport'
    · exact hbehind (Prod.mk.inj (Except.ok.inj hport)).2

theorem head?_append_blanks (kind : SchemeKind) {cs : List Char} :
    (cs ++ t).head?.any (endsAuthority kind) = cs.head?.any (endsAuthority kind) := by
  rcases cs with _ | ⟨c, cs⟩
  · rcases t with _ | ⟨c, t⟩
    · rfl
    · exact endsAuthority_of_blank kind (ht c (by simp))
  · rfl

/-- **An authority that ends with the text is another one with blanks behind it**, or none. -/
theorem parseAuthority_append_blanks (hne : t ≠ []) {scheme : String} {kind : SchemeKind}
    {cs rest : List Char} {a b : Authority} (h : parseAuthority scheme kind cs = .ok (a, []))
    (h' : parseAuthority scheme kind (cs ++ t) = .ok (b, rest)) : b.host ≠ a.host := by
  obtain ⟨-, hp, -, -⟩ := parseAuthority_eq_ok_iff.1 h
  obtain ⟨-, hp', -, -⟩ := parseAuthority_eq_ok_iff.1 h'
  rw [splitUser_append_blanks ht] at hp'
  intro heq
  rw [heq] at hp'
  exact parseHostAndPort_append_blanks ht hne hp hp'

/-- An authority that ends earlier does not change. -/
theorem parseAuthority_append_blanks_of_ne_nil {scheme : String} {kind : SchemeKind}
    {cs rest : List Char} {a : Authority} (h : parseAuthority scheme kind cs = .ok (a, rest))
    (hrest : rest ≠ []) : parseAuthority scheme kind (cs ++ t) = .ok (a, rest ++ t) := by
  rw [parseAuthority_eq_ok_iff] at h ⊢
  rw [splitUser_append_blanks ht, head?_append_blanks ht]
  exact ⟨h.1, parseHostAndPort_append_of_ne_nil h.2.1 hrest t, h.2.2⟩

theorem isDrive_append_blanks (hne : t ≠ [])
    (cs : List Char) : isDrive (cs ++ t) = false := by
  obtain ⟨s, c, rfl, hc⟩ := exists_blank ht hne
  unfold isDrive
  split
  · rename_i a b heq
    have hb : b = c := by
      have := congrArg List.getLast? heq
      simpa using this.symm
    subst hb
    simp [ne_of_blank hc]
  · rfl

/-- Where the host of a file ends with the text, there is none with blanks behind it. -/
theorem parseFileHost_append_blanks (hne : t ≠ []) {cs : List Char}
    (hopen : ∀ c ∈ cs, fileHostChar c = true) (p : Host × List Char) :
    parseFileHost (cs ++ t) ≠ .ok p := by
  have hspan : (cs ++ t).span fileHostChar = (cs ++ t, []) := by
    refine span_eq_self fun c hc => ?_
    obtain hc | hc := List.mem_append.1 hc
    · exact hopen c hc
    · simp [fileHostChar, ne_of_blank (ht c hc)]
  unfold parseFileHost
  rw [hspan]
  dsimp only
  rw [if_neg (by simp [isDrive_append_blanks ht hne]), if_neg (by simp [hne]), Ne,
    bind_eq_ok_iff]
  rintro ⟨host', hh, -⟩
  obtain ⟨s, c, rfl, hc⟩ := exists_blank ht hne
  rw [← List.append_assoc] at hh
  exact parseWebHost_of_blank hc _ _ hh

end Gap

end SignIn.Url
