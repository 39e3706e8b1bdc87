import SignIn.Proofs.Url.Segments
import SignIn.Proofs.Url.Server

/-!
# Addresses with a part appended

A part is appended to an address behind one slash, after the slashes at the end of the address are
dropped.  What is read then starts with all that counts in the address, and more can count in it
than when the address stands alone: blanks at its end are no longer at the end.  Nothing else
changes, so the URL stays on its server unless blanks come to stand behind the host, or the part
comes to stand in the place of a host that is missing.

Each scheme reads its authority in its own way, but the argument is the same: where the authority
ends before the address does, what follows makes no difference; where it ends with the address,
the slash ends it next, and blanks in between change the host or the port.

## Main definitions

* `Stem` — an address, and what is left of it before a part.
* `SpoiledBy`, `AwaitsHost` — what goes wrong behind a scheme.
* `joined` — an address with a part appended.
* `TakesParts` — parts can be appended to an address.

## Main results

* `Stem.afterSlashes_isOn_iff`, `Stem.afterFileSlashes_isOn_iff` — authorities before a part.
* `joined_isOn_iff` — an address stays on its server exactly if it takes parts.
-/

namespace SignIn.Url

open SignIn.Text

/-! ### What stands before a part -/

/-- The controls and spaces at the end of a text that count inside one. -/
def endBlanks (s : String) : List Char :=
  ((s.toList.dropWhile (·.toNat ≤ 0x20)).reverse.takeWhile (·.toNat ≤ 0x20)).reverse.filter
    fun c => c != '\t' && c != '\n' && c != '\r'

theorem lt_of_isSlash {c : Char} (h : isSlash c = true) : 0x20 < c.toNat := by
  obtain rfl | rfl : c = '/' ∨ c = '\\' := by simpa [isSlash] using h
  all_goals decide

theorem le_of_mem_endBlanks {s : String} {c : Char} (h : c ∈ endBlanks s) : c.toNat ≤ 0x20 := by
  have hmem := List.mem_reverse.1 (List.mem_filter.1 h).1
  simpa using List.mem_takeWhile_imp hmem

/-- What is left of an address before a part that is appended: either it ends in slashes, which
are gone, or it does not, and the blanks at its end count. -/
inductive Stem (t : List Char) : List Char → List Char → Prop where
  /-- The address ends in slashes. -/
  | slashes (stem : List Char) (n : Nat) (h : t = []) :
    Stem t (stem ++ '/' :: List.replicate n '/') stem
  /-- The address does not end in a slash. -/
  | blanks (whole : List Char) : Stem t whole (whole ++ t)

theorem prepareFront_eq (s : String) : prepareFront s = prepare s ++ endBlanks s := by
  rw [prepareFront, prepare, endBlanks, ← List.filter_append, ← List.reverse_append,
    List.takeWhile_append_dropWhile, List.reverse_reverse]

theorem stem_prepare (s : String) :
    Stem (endBlanks s) (prepare s) (prepareFront (dropEnd (· == '/') s)) := by
  obtain ⟨n, hn⟩ : ∃ n, s.toList =
      (s.toList.reverse.dropWhile (· == '/')).reverse ++ List.replicate n '/' := by
    refine ⟨(s.toList.reverse.takeWhile (· == '/')).length, ?_⟩
    have hslash : s.toList.reverse.takeWhile (· == '/') =
        List.replicate (s.toList.reverse.takeWhile (· == '/')).length '/' :=
      List.eq_replicate_iff.2 ⟨rfl, fun c hc => by simpa using List.mem_takeWhile_imp hc⟩
    rw [← List.reverse_replicate, ← hslash, ← List.reverse_append,
      List.takeWhile_append_dropWhile, List.reverse_reverse]
  have hstem : (dropEnd (· == '/') s).toList = (s.toList.reverse.dropWhile (· == '/')).reverse := by
    simp [dropEnd]
  rw [← hstem] at hn
  cases n with
  | zero =>
    rw [List.replicate_zero, List.append_nil, String.toList_inj] at hn
    rw [← hn, prepareFront_eq]
    exact .blanks _
  | succ n =>
    -- the slash is no blank, so the blanks in front are dropped before it and none behind
    have hslashes : '/' :: List.replicate n '/' = (List.replicate n '/') ++ ['/'] := by
      rw [← List.replicate_succ, List.replicate_succ']
    have hdrop : s.toList.dropWhile (fun c => decide (c.toNat ≤ 0x20)) =
        (dropEnd (· == '/') s).toList.dropWhile (fun c => decide (c.toNat ≤ 0x20)) ++
          '/' :: List.replicate n '/' := by
      conv_lhs => rw [hn, List.replicate_succ]
      exact dropWhile_append_cons (by decide) _ _
    have hblanks : endBlanks s = [] := by
      rw [endBlanks, hdrop, hslashes]
      simp
    have hprepare : prepare s =
        prepareFront (dropEnd (· == '/') s) ++ '/' :: List.replicate n '/' := by
      rw [prepare, hdrop, hslashes]
      simp [prepareFront]
    rw [hprepare]
    exact .slashes _ n hblanks

/-- Address and stem name the same scheme. -/
theorem Stem.scheme_read {t whole stem rest : List Char} {scheme : String}
    (h : Stem t whole stem) (hs : splitScheme whole = some (scheme, rest)) :
    ∃ left, splitScheme stem = some (scheme, left) ∧ Stem t rest left := by
  cases h with
  | slashes stem n ht =>
    rw [splitScheme_append, Option.map_eq_some_iff] at hs
    obtain ⟨⟨scheme', left⟩, hs, heq⟩ := hs
    obtain ⟨rfl, rfl⟩ := Prod.mk.inj heq
    exact ⟨left, hs, .slashes left n ht⟩
  | blanks whole => exact ⟨rest ++ t, splitScheme_append_of_some hs t, .blanks rest⟩

/-- The two characters at the front of an address are those of its stem, unless slashes follow
them and are dropped. -/
theorem Stem.of_cons_cons {t rest stem : List Char} {c d : Char}
    (h : Stem t (c :: d :: rest) stem) :
    (∃ left, stem = c :: d :: left ∧ Stem t rest left) ∨
      t = [] ∧ ∃ n, rest = List.replicate n '/' := by
  generalize hw : c :: d :: rest = whole at h
  cases h with
  | slashes stem n ht =>
    rcases stem with _ | ⟨x, _ | ⟨y, stem⟩⟩
    · refine .inr ⟨ht, n - 1, ?_⟩
      cases n with
      | zero => simp at hw
      | succ n =>
        rw [List.replicate_succ] at hw
        simpa using (List.cons.inj (List.cons.inj hw).2).2
    · exact .inr ⟨ht, n, (List.cons.inj (List.cons.inj hw).2).2⟩
    · have hw' := (List.cons.inj hw).2
      obtain rfl : c = x := (List.cons.inj hw).1
      obtain rfl : d = y := (List.cons.inj hw').1
      obtain rfl : rest = stem ++ '/' :: List.replicate n '/' := (List.cons.inj hw').2
      exact .inl ⟨stem, rfl, .slashes stem n ht⟩
  | blanks whole =>
    subst hw
    exact .inl ⟨rest ++ t, rfl, .blanks rest⟩

/-- An address starts as its stem does, as far as this starts without blanks. -/
theorem Stem.whole_cons_cons {t whole left : List Char} {c d : Char}
    (h : Stem t whole (c :: d :: left)) (ht : ∀ e ∈ t, e.toNat ≤ 0x20) (hc : 0x20 < c.toNat)
    (hd : 0x20 < d.toNat) : ∃ rest, whole = c :: d :: rest ∧ Stem t rest left := by
  generalize hs : c :: d :: left = stem at h
  cases h with
  | slashes stem n ht =>
    subst hs
    exact ⟨left ++ '/' :: List.replicate n '/', rfl, .slashes left n ht⟩
  | blanks whole =>
    rcases whole with _ | ⟨x, _ | ⟨y, rest⟩⟩
    · have := ht c (by rw [← List.nil_append t, ← hs]; simp)
      omega
    · have hs' : d :: left = t := (List.cons.inj hs).2
      have := ht d (by simp [← hs'])
      omega
    · have hs' := (List.cons.inj hs).2
      obtain rfl : c = x := (List.cons.inj hs).1
      obtain rfl : d = y := (List.cons.inj hs').1
      obtain rfl : left = rest ++ t := (List.cons.inj hs').2
      exact ⟨rest, rfl, .blanks rest⟩

theorem Stem.dropSlashes {t whole stem : List Char} (h : Stem t whole stem)
    (hne : whole.dropWhile isSlash ≠ []) :
    Stem t (whole.dropWhile isSlash) (stem.dropWhile isSlash) ∧
      ∀ ds, (stem ++ ds).dropWhile isSlash = stem.dropWhile isSlash ++ ds := by
  have happend {cs : List Char} (hcs : cs.dropWhile isSlash ≠ []) (ds : List Char) :
      (cs ++ ds).dropWhile isSlash = cs.dropWhile isSlash ++ ds := by
    rw [List.dropWhile_append, if_neg (by simpa using hcs)]
  cases h with
  | slashes stem n ht =>
    have hstem : stem.dropWhile isSlash ≠ [] := by
      intro hnil
      refine hne (List.dropWhile_eq_nil_iff.2 fun c hc => ?_)
      obtain hc | hc := List.mem_append.1 hc
      · exact List.dropWhile_eq_nil_iff.1 hnil c hc
      · rw [← List.replicate_succ] at hc
        rw [List.eq_of_mem_replicate hc]
        rfl
    rw [happend hstem]
    exact ⟨.slashes _ n ht, happend hstem⟩
  | blanks whole =>
    rw [happend hne]
    refine ⟨.blanks _, fun ds => ?_⟩
    rw [List.append_assoc, happend hne, List.append_assoc]

/-! ### Authorities before a part -/

section Authority

variable {t whole stem : List Char} (hstem : Stem t whole stem) {scheme : String}
  {kind : SchemeKind}

include hstem

/-- With nothing lost at its end, an authority is read again before a part. -/
theorem Stem.authority_read (ht : t = []) {a : Authority} {rest : List Char}
    (h : parseAuthority scheme kind whole = .ok (a, rest))
    (hat : splitUser kind stem ≠ (some [], [])) (part : List Char) :
    ∃ behind, parseAuthority scheme kind (stem ++ '/' :: part) = .ok (a, behind) := by
  have hstem' : ∃ behind, parseAuthority scheme kind stem = .ok (a, behind) := by
    cases hstem with
    | slashes stem n =>
      rw [parseAuthority_append (endsAuthority_slash kind), if_neg hat, map_eq_ok_iff] at h
      obtain ⟨⟨a', behind⟩, h, heq⟩ := h
      obtain rfl : a' = a := (Prod.mk.inj heq).1
      exact ⟨behind, h⟩
    | blanks whole => exact ⟨rest, by rwa [ht, List.append_nil]⟩
  obtain ⟨behind, hb⟩ := hstem'
  rw [parseAuthority_append (endsAuthority_slash kind), if_neg hat, hb]
  exact ⟨_, rfl⟩

/-- **An authority is read again before a part**, unless it is just an at-sign, or it ends with the
address and blanks come in between. -/
theorem Stem.afterSlashes_isOn_iff (ht : ∀ c ∈ t, c.toNat ≤ 0x20) {u : Url}
    (h : afterSlashes scheme kind whole = .ok u) (part : List Char) :
    (∃ v, afterSlashes scheme kind (stem ++ '/' :: part) = .ok v ∧ v.IsOn u) ↔
      stem ≠ ['@'] ∧ (t = [] ∨ ¬ ∃ a, parseAuthority scheme kind whole = .ok (a, [])) := by
  obtain ⟨a, rest, ha, rfl⟩ := afterSlashes_eq_ok_iff.1 h
  -- it is enough to read the same authority
  have hsame (behind : List Char)
      (hb : parseAuthority scheme kind (stem ++ '/' :: part) = .ok (a, behind)) :
      ∃ v, afterSlashes scheme kind (stem ++ '/' :: part) = .ok v ∧ v.IsOn
        (withTail ⟨scheme, some a, .rooted (pathAfterAuthority kind rest).1, none, none⟩ kind
          (pathAfterAuthority kind rest).2) :=
    ⟨_, afterSlashes_eq_ok_iff.2 ⟨a, behind, hb, rfl⟩, .of_authority rfl rfl⟩
  by_cases hat : stem = ['@']
  · refine iff_of_false ?_ (fun hand => hand.1 hat)
    rintro ⟨v, hv, -⟩
    obtain ⟨b, behind, hb, -⟩ := afterSlashes_eq_ok_iff.1 hv
    rw [parseAuthority_append (endsAuthority_slash kind), if_pos (splitUser_eq_at.2 hat)] at hb
    cases hb
  have hat' : splitUser kind stem ≠ (some [], []) := fun h => hat (splitUser_eq_at.1 h)
  by_cases hnil : t = []
  · refine iff_of_true ?_ ⟨hat, .inl hnil⟩
    obtain ⟨behind, hb⟩ := hstem.authority_read hnil ha hat' part
    exact hsame behind hb
  · cases hstem with
    | slashes stem n ht => exact absurd ht hnil
    | blanks whole =>
      simp only [hnil, false_or, ne_eq, hat, not_false_eq_true, true_and]
      constructor
      · rintro ⟨v, hv, hon⟩ ⟨a', ha'⟩
        obtain ⟨b, behind, hb, rfl⟩ := afterSlashes_eq_ok_iff.1 hv
        obtain ⟨rfl, rfl⟩ := Prod.mk.inj (Except.ok.inj (ha.symm.trans ha'))
        rw [parseAuthority_append (endsAuthority_slash kind), if_neg hat', map_eq_ok_iff] at hb
        obtain ⟨⟨b', behind'⟩, hb', heq⟩ := hb
        obtain rfl : b' = b := (Prod.mk.inj heq).1
        exact parseAuthority_append_blanks ht hnil ha hb' (hon.host_eq rfl rfl)
      · intro hends
        have hrest : rest ≠ [] := by
          rintro rfl
          exact hends ⟨a, ha⟩
        have hb := parseAuthority_append_blanks_of_ne_nil ht ha hrest
        refine hsame (rest ++ t ++ '/' :: part) ?_
        rw [parseAuthority_append (endsAuthority_slash kind), if_neg hat', hb]
        rfl

end Authority

/-! ### Files before a part -/

/-- Whether blanks behind the path of a file keep it from starting at a drive, which drops the
host. -/
def LosesDrive (t cs : List Char) : Prop :=
  ∃ host rest, parseFileHost cs = .ok (host, rest) ∧ host ≠ .name "" ∧ LeadsToDrive rest ∧
    ¬ LeadsToDrive (rest ++ t)

section File

variable {t whole stem : List Char} (hstem : Stem t whole stem) {part : List Char}
  (hpart : ∀ c ∈ part, isPlain c = true)

include hstem hpart

/-- With nothing lost at its end, the host of a file is read again before a part. -/
theorem Stem.file_read (ht : t = []) {u : Url} (h : afterFileSlashes whole = .ok u) :
    ∃ v, afterFileSlashes (stem ++ '/' :: part) = .ok v ∧ v.IsOn u := by
  obtain ⟨host, rest, hh⟩ := host_of_afterFileSlashes h
  obtain ⟨behind, hb, hdrive⟩ : ∃ behind, parseFileHost stem = .ok (host, behind) ∧
      (LeadsToDrive behind ↔ LeadsToDrive rest) := by
    cases hstem with
    | slashes stem n =>
      rw [parseFileHost_append (endsAuthority_slash .file), map_eq_ok_iff] at hh
      obtain ⟨⟨host', behind⟩, hh, heq⟩ := hh
      obtain ⟨rfl, rfl⟩ := Prod.mk.inj heq
      refine ⟨behind, hh, (leadsToDrive_append (fun c hc => ?_) behind).symm⟩
      rw [List.eq_of_mem_replicate hc]
      rfl
    | blanks whole => exact ⟨rest, by rw [ht, List.append_nil]; exact hh, Iff.rfl⟩
  have hv : parseFileHost (stem ++ '/' :: part) = .ok (host, behind ++ '/' :: part) := by
    rw [parseFileHost_append (endsAuthority_slash .file), hb]
    rfl
  obtain ⟨v, hv, hon⟩ := afterFileSlashes_isOn h hh hv
  exact ⟨v, hv, hon.2 (.inr (by rw [leadsToDrive_append hpart, hdrive]))⟩

/-- **The host of a file is read again before a part**, unless it ends with the address or the
address with a drive, and blanks come in between. -/
theorem Stem.afterFileSlashes_isOn_iff (ht : ∀ c ∈ t, c.toNat ≤ 0x20) {u : Url}
    (h : afterFileSlashes whole = .ok u) :
    (∃ v, afterFileSlashes (stem ++ '/' :: part) = .ok v ∧ v.IsOn u) ↔
      t = [] ∨ ¬ ((∀ c ∈ whole, fileHostChar c = true) ∨ LosesDrive t whole) := by
  by_cases hnil : t = []
  · exact iff_of_true (hstem.file_read hpart hnil h) (.inl hnil)
  obtain ⟨host, rest, hh⟩ := host_of_afterFileSlashes h
  cases hstem with
  | slashes stem n ht => exact absurd ht hnil
  | blanks whole =>
    simp only [hnil, false_or]
    by_cases hopen : ∀ c ∈ whole, fileHostChar c = true
    · refine iff_of_false ?_ (fun hnot => hnot (.inl hopen))
      rintro ⟨v, hv, -⟩
      obtain ⟨host', rest', hv'⟩ := host_of_afterFileSlashes hv
      rw [parseFileHost_append (endsAuthority_slash .file), map_eq_ok_iff] at hv'
      obtain ⟨p, hp, -⟩ := hv'
      exact parseFileHost_append_blanks ht hnil hopen p hp
    · -- the host has ended, so only the drive is at stake
      have hne : (whole.span fileHostChar).2 ≠ [] := fun hnil => hopen (forall_of_span hnil)
      have hv : parseFileHost (whole ++ t ++ '/' :: part) =
          .ok (host, rest ++ t ++ '/' :: part) := by
        rw [List.append_assoc, parseFileHost_of_span (span_append_of_ne_nil hne _), hh,
          List.append_assoc]
        rfl
      obtain ⟨v, hv, hon⟩ := afterFileSlashes_isOn h hh hv
      have hloses : LosesDrive t whole ↔
          host ≠ .name "" ∧ LeadsToDrive rest ∧ ¬ LeadsToDrive (rest ++ t) := by
        constructor
        · rintro ⟨host', rest', hh', hloses⟩
          obtain ⟨rfl, rfl⟩ := Prod.mk.inj (Except.ok.inj (hh.symm.trans hh'))
          exact hloses
        · exact fun hloses => ⟨host, rest, hh, hloses⟩
      have hgains (hname : host ≠ .name "") (hdrive : ¬ LeadsToDrive rest) :
          ¬ LeadsToDrive (rest ++ t) := by
        obtain ⟨-, -, -, -, rfl⟩ := (parseFileHost_eq_ok_iff hname).1 hh
        have := not_leadsToDrive_append hpart ht hnil hne hdrive
        rwa [← List.append_assoc, leadsToDrive_append hpart] at this
      rw [leadsToDrive_append hpart] at hon
      simp only [hv, Except.ok.injEq, exists_eq_left', hon, hloses, hopen, false_or]
      by_cases hname : host = .name ""
      · exact iff_of_true (.inl hname) fun hloses => hloses.1 hname
      · rw [or_iff_right hname]
        constructor
        · rintro hsame ⟨-, hdrive, hlost⟩
          exact hlost (hsame.2 hdrive)
        · intro hkeeps
          constructor
          · intro hdrive
            by_contra hnot
            exact hgains hname hnot hdrive
          · intro hdrive
            by_contra hlost
            exact hkeeps ⟨hname, hdrive, hlost⟩

end File

/-! ### Schemes before a part -/

/-- Whether blanks behind what follows a scheme spoil it: they come to stand behind the host or the
port of a URL, or keep the path of a file from starting at a drive. -/
def SpoiledBy (scheme : String) (t cs : List Char) : Prop :=
  match SchemeKind.of scheme with
  | .web => ∃ a, parseAuthority scheme .web (cs.dropWhile isSlash) = .ok (a, [])
  | .other => ∃ rest a, cs = '/' :: '/' :: rest ∧ parseAuthority scheme .other rest = .ok (a, [])
  | .file => ∃ c d rest, cs = c :: d :: rest ∧ isSlash c = true ∧ isSlash d = true ∧
      ((∀ e ∈ rest, fileHostChar e = true) ∨ LosesDrive t rest)

/-- Whether what follows a scheme and a slash comes to stand in the place of the host. -/
def AwaitsHost (scheme : String) (cs : List Char) : Prop :=
  match SchemeKind.of scheme with
  | .web => False
  | .other => cs = ['/'] ∨ cs = ['/', '/', '@']
  | .file => ∃ c, cs = [c] ∧ isSlash c = true

/-- What requests append to an address: plain characters that start with a word. -/
structure IsEndpoint (part : List Char) : Prop where
  plain : ∀ c ∈ part, isPlain c = true
  starts : ∃ word rest, part = word ++ rest ∧ word ≠ [] ∧ (∀ c ∈ word, c.isLower = true) ∧
    word ≠ "localhost".toList ∧ (rest = [] ∨ ∃ x, rest = '/' :: x)

theorem IsEndpoint.authority {part : List Char} (h : IsEndpoint part) (scheme : String)
    (kind : SchemeKind) :
    ∃ a rest, parseAuthority scheme kind part = .ok (a, rest) ∧ a.host ≠ .name "" := by
  obtain ⟨word, rest, rfl, hne, hlower, -, hrest⟩ := h.starts
  have hword := parseAuthority_of_isLower hlower hne scheme kind
  have hname : Host.name (String.ofList word) ≠ .name "" := by simpa using hne
  obtain rfl | ⟨x, rfl⟩ := hrest
  · rw [List.append_nil]
    exact ⟨_, _, hword, hname⟩
  · rw [parseAuthority_append (endsAuthority_slash kind), hword,
      if_neg (splitUser_ne_of_host hword hname)]
    exact ⟨_, _, rfl, hname⟩

theorem IsEndpoint.file {part : List Char} (h : IsEndpoint part) :
    ∃ u a, afterFileSlashes part = .ok u ∧ u.authority = some a ∧ a.host ≠ .name "" := by
  obtain ⟨word, rest, hpart, hne, hlower, hlocal, hrest⟩ := h.starts
  have hword : parseFileHost word = .ok (.name (String.ofList word), []) := by
    rw [parseFileHost_of_isLower hlower hne, if_neg hlocal]
  have hname : Host.name (String.ofList word) ≠ .name "" := by simpa using hne
  have hh : parseFileHost part = .ok (.name (String.ofList word), rest) := by
    obtain rfl | ⟨x, rfl⟩ := hrest
    · rw [hpart, List.append_nil, hword]
    · rw [hpart, parseFileHost_append (endsAuthority_slash .file), hword]
      rfl
  have hdrive : ¬ LeadsToDrive rest := by
    obtain rfl | ⟨x, rfl⟩ := hrest
    · exact not_leadsToDrive_nil
    · have hx : ∀ c ∈ x, isPlain c = true := fun c hc => h.plain c (by simp [hpart, hc])
      rw [← List.nil_append ('/' :: x), leadsToDrive_append hx]
      exact not_leadsToDrive_nil
  obtain ⟨u, hu, -, -, hkeep⟩ := afterFileSlashes_of_host hh
  exact ⟨u, _, hu, hkeep (not_or.2 ⟨hname, hdrive⟩), hname⟩

theorem IsEndpoint.head {part : List Char} (h : IsEndpoint part) :
    ∃ c rest, part = c :: rest ∧ isSlash c = false := by
  obtain ⟨word, rest, rfl, hne, hlower, -⟩ := h.starts
  obtain ⟨c, word, rfl⟩ := List.exists_cons_of_ne_nil hne
  refine ⟨c, word ++ rest, rfl, ?_⟩
  simpa [isSlash] using not_slash_of_isLower (hlower c (by simp))

/-- Two slashes at the front of a stem and a part are those of the stem, unless it is just one. -/
theorem IsEndpoint.stem_of_slashes {part stem rest : List Char} {c d : Char} (h : IsEndpoint part)
    (hd : isSlash d = true) (hrest : stem ++ '/' :: part = c :: d :: rest) :
    stem = [c] ∨ ∃ left, stem = c :: d :: left := by
  rcases stem with _ | ⟨x, _ | ⟨y, stem⟩⟩
  · -- the second one would be the head of the part
    obtain ⟨e, part, rfl, he⟩ := h.head
    obtain rfl : e = d := (List.cons.inj (List.cons.inj hrest).2).1
    exact absurd hd (by simp [he])
  · exact .inl (by rw [(List.cons.inj hrest).1])
  · have hrest' := (List.cons.inj hrest).2
    exact .inr ⟨stem, by rw [(List.cons.inj hrest).1, (List.cons.inj hrest').1]⟩

/-! Without two slashes at the front of its stem, an address has no host: where they stand at its
own front, nothing but slashes follows them. -/

theorem Stem.host?_of_other {t whole stem : List Char} (hstem : Stem t whole stem) {scheme : String}
    {u : Url} (h : parseOther scheme whole = .ok u) (hs : ¬ ∃ left, stem = '/' :: '/' :: left) :
    u.host? = none := by
  by_cases hw : ∃ rest, whole = '/' :: '/' :: rest
  · obtain ⟨rest, rfl⟩ := hw
    obtain ⟨left, hleft, -⟩ | ⟨-, n, rfl⟩ := hstem.of_cons_cons
    · exact absurd ⟨left, hleft⟩ hs
    · obtain ⟨a, behind, ha, rfl⟩ := afterSlashes_eq_ok_iff.1 h
      rw [host?_of_authority (a := a) rfl, if_pos (host_of_slashes ha)]
  · obtain ⟨u', hu, -, ha⟩ := parseOther_of_no_authority scheme fun rest hrest => hw ⟨rest, hrest⟩
    obtain rfl : u' = u := Except.ok.inj (hu.symm.trans h)
    simp only [host?, ha]

theorem Stem.host?_of_file {t whole stem : List Char} (hstem : Stem t whole stem) {u : Url}
    (h : parseFile none whole = .ok u)
    (hs : ¬ ∃ c d left, stem = c :: d :: left ∧ isSlash c = true ∧ isSlash d = true) :
    u.host? = none := by
  by_cases hw : ∃ c d rest, whole = c :: d :: rest ∧ isSlash c = true ∧ isSlash d = true
  · obtain ⟨c, d, rest, rfl, hc, hd⟩ := hw
    rw [parseFile_slashes hc hd] at h
    obtain ⟨left, hleft, -⟩ | ⟨-, n, rfl⟩ := hstem.of_cons_cons
    · exact absurd ⟨c, d, left, hleft, hc, hd⟩ hs
    · have hh : parseFileHost (List.replicate n '/') =
          .ok (.name "", List.replicate n '/') := by cases n <;> rfl
      obtain ⟨u', hu, -, hdrop, -⟩ := afterFileSlashes_of_host hh
      obtain rfl : u' = u := Except.ok.inj (hu.symm.trans h)
      rw [host?_of_authority (hdrop (.inl rfl))]
      exact if_pos rfl
  · obtain ⟨u', hu, -, ha⟩ := parseFile_of_no_authority
      fun c d rest hrest hcd => hw ⟨c, d, rest, hrest, hcd.1, hcd.2⟩
    obtain rfl : u' = u := Except.ok.inj (hu.symm.trans h)
    rw [host?_of_authority ha]
    exact if_pos rfl

section Scheme

variable {t whole stem : List Char} (hstem : Stem t whole stem) {part : List Char}
  {scheme : String} (ht : ∀ c ∈ t, c.toNat ≤ 0x20) {u : Url}
  (h : parseScheme none scheme whole = .ok u)

include hstem ht

theorem Stem.ne_at {kind : SchemeKind} {a : Authority} {rest : List Char}
    (ha : parseAuthority scheme kind whole = .ok (a, rest)) (hname : a.host ≠ .name "") :
    stem ≠ ['@'] := by
  intro hat
  cases hstem with
  | slashes stem n =>
    rw [parseAuthority_append (endsAuthority_slash kind), if_pos (splitUser_eq_at.2 hat)] at ha
    cases ha
  | blanks whole =>
    obtain ⟨-, rfl⟩ | ⟨rfl, -⟩ := List.append_eq_singleton_iff.1 hat
    · exact absurd (ht '@' (by simp)) (by decide)
    · exact splitUser_ne_of_host ha hname (splitUser_eq_at.2 rfl)

include h

theorem Stem.web_isOn_iff (hk : SchemeKind.of scheme = .web) :
    (∃ v, parseScheme none scheme (stem ++ '/' :: part) = .ok v ∧ v.IsOn u) ↔
      ¬ AwaitsHost scheme stem ∧ (t = [] ∨ ¬ SpoiledBy scheme t whole) := by
  simp only [parseScheme_web hk, SpoiledBy, AwaitsHost, hk, not_false_eq_true, true_and] at h ⊢
  obtain ⟨a, rest, ha, -⟩ := afterSlashes_eq_ok_iff.1 h
  obtain ⟨hstem', happend⟩ := hstem.dropSlashes (dropWhile_ne_nil_of_web ha)
  rw [happend, hstem'.afterSlashes_isOn_iff ht h part]
  exact and_iff_right (hstem'.ne_at ht ha (host_ne_of_web ha))

theorem Stem.other_isOn_iff (hk : SchemeKind.of scheme = .other) (hpart : IsEndpoint part) :
    (∃ v, parseScheme none scheme (stem ++ '/' :: part) = .ok v ∧ v.IsOn u) ↔
      ¬ AwaitsHost scheme stem ∧ (t = [] ∨ ¬ SpoiledBy scheme t whole) := by
  have hport := port?_eq_none h
  simp only [parseScheme_other hk, SpoiledBy, AwaitsHost, hk, not_or] at h ⊢
  by_cases hs : ∃ left, stem = '/' :: '/' :: left
  · -- the authority of the address is read again
    obtain ⟨left, rfl⟩ := hs
    obtain ⟨rest, rfl, hrest⟩ := hstem.whole_cons_cons ht (by decide) (by decide)
    rw [List.cons_append, List.cons_append]
    refine (hrest.afterSlashes_isOn_iff ht h part).trans ?_
    simp
  · -- there is no authority
    have hu := hstem.host?_of_other h hs
    by_cases hone : stem = ['/']
    · refine iff_of_false ?_ (fun hand => hand.1.1 hone)
      rintro ⟨v, hv, hon⟩
      subst hone
      obtain ⟨a, rest, ha, hname⟩ := hpart.authority scheme .other
      obtain ⟨b, behind, hb, rfl⟩ := afterSlashes_eq_ok_iff.1 hv
      obtain ⟨rfl, rfl⟩ := Prod.mk.inj (Except.ok.inj (ha.symm.trans hb))
      have := hon.host
      rw [hu, host?_of_authority (a := a) rfl, if_neg hname] at this
      cases this
    · obtain ⟨v, hv, hvs, hva⟩ := parseOther_of_no_authority scheme fun rest
          (hrest : stem ++ '/' :: part = '/' :: '/' :: rest) =>
        (hpart.stem_of_slashes rfl hrest).elim hone hs
      refine iff_of_true ⟨v, hv, ?_⟩ ⟨⟨hone, fun hat => hs ⟨_, hat⟩⟩, ?_⟩
      · obtain ⟨hus, hup⟩ := hport hu
        refine ⟨hvs.trans hus.symm, ?_, ?_⟩
        · rw [hu]
          simp only [host?, hva]
        · rw [hup, port?, hva]
          rfl
      · by_contra hspoiled
        obtain ⟨hnil, hends⟩ := not_or.1 hspoiled
        obtain ⟨rest, a, rfl, -⟩ := not_not.1 hends
        obtain ⟨left, hleft, -⟩ | ⟨hnil', -⟩ := hstem.of_cons_cons
        · exact hs ⟨left, hleft⟩
        · exact hnil hnil'

theorem Stem.file_isOn_iff (hk : SchemeKind.of scheme = .file) (hpart : IsEndpoint part) :
    (∃ v, parseScheme none scheme (stem ++ '/' :: part) = .ok v ∧ v.IsOn u) ↔
      ¬ AwaitsHost scheme stem ∧ (t = [] ∨ ¬ SpoiledBy scheme t whole) := by
  have hport := port?_eq_none h
  simp only [parseScheme_file hk, SpoiledBy, AwaitsHost, hk] at h ⊢
  by_cases hs : ∃ c d left, stem = c :: d :: left ∧ isSlash c = true ∧ isSlash d = true
  · -- the host of the address is read again
    obtain ⟨c, d, left, rfl, hc, hd⟩ := hs
    obtain ⟨rest, rfl, hrest⟩ := hstem.whole_cons_cons ht (lt_of_isSlash hc) (lt_of_isSlash hd)
    rw [parseFile_slashes hc hd] at h
    simp only [List.cons_append, parseFile_slashes hc hd]
    refine (hrest.afterFileSlashes_isOn_iff hpart.plain ht h).trans ?_
    simp [hc, hd]
  · -- there is no host
    have hu := hstem.host?_of_file h hs
    by_cases hone : ∃ c, stem = [c] ∧ isSlash c = true
    · refine iff_of_false ?_ (fun hand => hand.1 hone)
      rintro ⟨v, hv, hon⟩
      obtain ⟨c, rfl, hc⟩ := hone
      rw [List.singleton_append, parseFile_slashes hc rfl] at hv
      obtain ⟨v', a, hv', ha, hname⟩ := hpart.file
      obtain rfl : v' = v := Except.ok.inj (hv'.symm.trans hv)
      have := hon.host
      rw [hu, host?_of_authority ha, if_neg hname] at this
      cases this
    · obtain ⟨v, hv, hvs, hva⟩ := parseFile_of_no_authority fun c d rest
          (hrest : stem ++ '/' :: part = c :: d :: rest) hcd => by
        obtain hone' | ⟨left, hleft⟩ := hpart.stem_of_slashes hcd.2 hrest
        · exact hone ⟨c, hone', hcd.1⟩
        · exact hs ⟨c, d, left, hleft, hcd.1, hcd.2⟩
      refine iff_of_true ⟨v, hv, ?_⟩ ⟨hone, ?_⟩
      · obtain ⟨hus, hup⟩ := hport hu
        refine ⟨(hvs.trans (scheme_eq_file hk).symm).trans hus.symm, ?_, ?_⟩
        · rw [hu, host?_of_authority hva]
          exact if_pos rfl
        · rw [hup, port?, hva]
          rfl
      · by_contra hspoiled
        obtain ⟨hnil, hends⟩ := not_or.1 hspoiled
        obtain ⟨c, d, rest, rfl, hc, hd, -⟩ := not_not.1 hends
        obtain ⟨left, hleft, -⟩ | ⟨hnil', -⟩ := hstem.of_cons_cons
        · exact hs ⟨c, d, left, hleft, hc, hd⟩
        · exact hnil hnil'

end Scheme

/-! ### Whole addresses -/

/-- An address with a part appended, after the slashes at its end are dropped. -/
def joined (s part : String) : String := dropEnd (· == '/') s ++ "/" ++ part

/-- Whether an address takes parts: neither do the blanks at its end spoil it, nor does a part come
to stand in the place of the host. -/
def TakesParts (s : String) : Prop :=
  ∃ scheme rest left, splitScheme (prepare s) = some (scheme, rest) ∧
    splitScheme (prepareFront (dropEnd (· == '/') s)) = some (scheme, left) ∧
    ¬ AwaitsHost scheme left ∧ (endBlanks s = [] ∨ ¬ SpoiledBy scheme (endBlanks s) rest)

theorem lt_of_isPlain {c : Char} (h : isPlain c = true) : 0x20 < c.toNat := by
  rw [isPlain, Bool.or_eq_true, beq_iff_eq] at h
  obtain h | rfl := h
  · have := toNat_of_isAlphanum h
    omega
  · decide

theorem parse_joined_of_stem {s part : String} {scheme : String} {left : List Char} {v : Url}
    (hpart : ∀ c ∈ part.toList, isPlain c = true)
    (hs : splitScheme (prepareFront (dropEnd (· == '/') s)) = some (scheme, left)) :
    parse (joined s part) = .ok v ↔ parseScheme none scheme (left ++ '/' :: part.toList) = .ok v := by
  obtain ⟨x, hx, hplain⟩ := prepare_append (dropEnd (· == '/') s) part
  obtain rfl := hplain fun c hc => lt_of_isPlain (hpart c hc)
  simp only [parse, joined, hx, parseChars, splitScheme_append, hs, Option.map_some]

/-- **An address stays on its server with a part appended exactly if it takes parts.** -/
theorem joined_isOn_iff {s part : String} {u : Url} (h : parse s = .ok u)
    (hpart : IsEndpoint part.toList) :
    (∃ v, parse (joined s part) = .ok v ∧ v.IsOn u) ↔ TakesParts s := by
  obtain ⟨scheme, rest, hs, hu⟩ := parse_eq_ok_iff.1 h
  obtain ⟨left, hleft, hstem⟩ := (stem_prepare s).scheme_read hs
  have hblank : ∀ c ∈ endBlanks s, c.toNat ≤ 0x20 := fun c hc => le_of_mem_endBlanks hc
  have htakes : TakesParts s ↔ ¬ AwaitsHost scheme left ∧
      (endBlanks s = [] ∨ ¬ SpoiledBy scheme (endBlanks s) rest) := by
    simp only [TakesParts, hs, hleft, Option.some.injEq, Prod.mk.injEq]
    constructor
    · rintro ⟨_, _, _, ⟨rfl, rfl⟩, ⟨-, rfl⟩, htakes⟩
      exact htakes
    · exact fun htakes => ⟨scheme, rest, left, ⟨rfl, rfl⟩, ⟨rfl, rfl⟩, htakes⟩
  simp only [parse_joined_of_stem hpart.plain hleft, htakes]
  cases hk : SchemeKind.of scheme with
  | file => exact hstem.file_isOn_iff hblank hu hk hpart
  | web => exact hstem.web_isOn_iff hblank hu hk
  | other => exact hstem.other_isOn_iff hblank hu hk hpart

section Whole

variable {s scheme : String}

/-- A web address takes parts if it ends in no blanks that count. -/
theorem takesParts_of_web {rest : List Char} (hs : splitScheme (prepare s) = some (scheme, rest))
    (hk : SchemeKind.of scheme = .web) (hblanks : endBlanks s = []) : TakesParts s := by
  obtain ⟨left, hleft, -⟩ := (stem_prepare s).scheme_read hs
  exact ⟨scheme, rest, left, hs, hleft, by simp [AwaitsHost, hk], .inl hblanks⟩

theorem not_takesParts_of_spoiledBy {rest : List Char}
    (hs : splitScheme (prepare s) = some (scheme, rest)) (hblanks : endBlanks s ≠ [])
    (hspoiled : SpoiledBy scheme (endBlanks s) rest) : ¬ TakesParts s := by
  rintro ⟨scheme', rest', left, hs', -, -, htakes⟩
  obtain ⟨rfl, rfl⟩ := Prod.mk.inj (Option.some.inj (hs.symm.trans hs'))
  obtain hnil | hnot := htakes
  · exact hblanks hnil
  · exact hnot hspoiled

/-- The URL whose host is a word, and which may have a query and a fragment. -/
def ofWord (scheme : String) (word rest : List Char) : Url :=
  withTail ⟨scheme, some ⟨"", "", .name (String.ofList word), none⟩, .rooted [""], none, none⟩
    .web rest

variable {word : List Char} (hk : SchemeKind.of scheme = .web)
  (hword : ∀ c ∈ word, c.isLower = true) (hne : word ≠ [])

include hword hne

theorem dropWhile_slashes_word (rest : List Char) :
    ('/' :: '/' :: (word ++ rest)).dropWhile isSlash = word ++ rest := by
  obtain ⟨c, word, rfl⟩ := List.exists_cons_of_ne_nil hne
  have hc : isSlash c = false := by
    simpa [isSlash] using not_slash_of_isLower (hword c List.mem_cons_self)
  rw [List.dropWhile_cons_of_pos rfl, List.dropWhile_cons_of_pos rfl, List.cons_append,
    List.dropWhile_cons_of_neg (by simp [hc])]

include hk

/-- A web address whose host is a word is a URL. -/
theorem parse_of_word {rest : List Char}
    (hs : splitScheme (prepare s) = some (scheme, '/' :: '/' :: (word ++ rest)))
    (hrest : EndsPath rest) : parse s = .ok (ofWord scheme word rest) := by
  have hone := parseAuthority_of_isLower hword hne scheme .web
  have hauthority : parseAuthority scheme .web (word ++ rest) =
      .ok (⟨"", "", .name (String.ofList word), none⟩, rest) := by
    cases rest with
    | nil => rw [List.append_nil, hone]
    | cons c rest =>
      have hc : endsAuthority .web c = true := by
        obtain rfl | rfl : c = '?' ∨ c = '#' := hrest c rfl
        all_goals decide
      rw [parseAuthority_append hc, hone, if_neg (splitUser_ne_of_host hone (by simpa using hne))]
      rfl
  refine parse_eq_ok_iff.2 ⟨scheme, _, hs, ?_⟩
  rw [parseScheme_web hk, dropWhile_slashes_word hword hne, afterSlashes_eq_ok_iff]
  refine ⟨_, rest, hauthority, ?_⟩
  rw [pathAfterAuthority_of_endsPath hrest]
  rfl

/-- Blanks behind a host that is a word spoil the address. -/
theorem not_takesParts_of_word (hs : splitScheme (prepare s) = some (scheme, '/' :: '/' :: word))
    (hblanks : endBlanks s ≠ []) : ¬ TakesParts s := by
  refine not_takesParts_of_spoiledBy hs hblanks ?_
  have hslashes := dropWhile_slashes_word hword hne []
  rw [List.append_nil] at hslashes
  simp only [SpoiledBy, hk]
  rw [hslashes]
  exact ⟨_, parseAuthority_of_isLower hword hne scheme .web⟩

end Whole

end SignIn.Url
