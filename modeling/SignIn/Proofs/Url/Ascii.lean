import Mathlib.Data.Option.Basic
import SignIn.Proofs.Text.Blank
import SignIn.Proofs.Text.Utf8
import SignIn.Proofs.Url.Encoded
import SignIn.Url.Domain

/-!
# ASCII in domain names

The tables for folding, composing and directions say nothing about ASCII, apart from its
capitals.  So a name in ASCII without capitals, none of whose labels is a form of another one, is
read as it stands.  A name in small letters is a host under every scheme.

## Main definitions

* `IsPlainName` — a domain name that is read as it stands.

## Main results

* `fold?_of_isAscii` — a character of ASCII folds to itself, unless it is a capital.
* `composed_of_isAscii` — composition leaves ASCII alone.
* `parseWebHost_of_isPlainName` — a plain name is read as it stands.
* `parseWebHost_of_isLower`, `parseOtherHost_of_isLower` — small letters make a host.
-/

namespace SignIn.Url

open SignIn.Text

theorem isAscii_iff {c : Char} : isAscii c = true ↔ c.toNat < 0x80 := by simp [isAscii]

/-- A table that starts above ASCII has nothing for a character of ASCII. -/
theorem find?_eq_none_of_above {α : Type} {table : Array α} {f : α → Nat} {p : α → Bool}
    (h : table.toList.all (0x80 ≤ f ·) = true) {c : Char} (hc : isAscii c = true)
    (hp : ∀ r, p r = true → f r ≤ c.toNat) : table.find? p = none := by
  rw [Array.find?_eq_none]
  intro r hr hpr
  have h₁ := List.all_eq_true.1 h r hr.val
  have h₂ := hp r hpr
  have h₃ := isAscii_iff.1 hc
  simp only [decide_eq_true_eq] at h₁
  omega

/-! ### Bytes -/

/-- A character of ASCII is one byte. -/
theorem utf8EncodeChar_of_isAscii {c : Char} (hc : isAscii c = true) :
    String.utf8EncodeChar c = [UInt8.ofNat c.toNat] :=
  Utf8.encoded_of_lt (isAscii_iff.1 hc)

theorem toNat_byte_of_isAscii {c : Char} (hc : isAscii c = true) :
    (UInt8.ofNat c.toNat).toNat = c.toNat := by
  have hn := isAscii_iff.1 hc
  exact Utf8.toNat_byte (by omega)

/-- The byte of a character of ASCII is read back as the character. -/
theorem decodeChars?_of_isAscii {c : Char} (hc : isAscii c = true) (rest : Bytes) :
    Utf8.decodeChars? (UInt8.ofNat c.toNat :: rest) = (Utf8.decodeChars? rest).map (c :: ·) := by
  have hf := Utf8.front_one (isAscii_iff.1 hc) rest
  rw [Utf8.decodeChars?_of_front hf, Char.ofNat_toNat]

/-! ### Folding -/

theorem within_of_isAscii {ranges : Array (Nat × Nat)}
    (h : ranges.toList.all (0x80 ≤ ·.1) = true) {c : Char} (hc : isAscii c = true) :
    within ranges c.toNat = false := by
  have := find?_eq_none_of_above h hc (p := fun r => r.1 ≤ c.toNat && c.toNat ≤ r.2) (by grind)
  rw [within, Array.any_eq_false']
  simpa [Array.find?_eq_none] using this

theorem shifts_above {r : Nat × Nat × Nat × Nat} (hr : r ∈ shifts) :
    0x80 ≤ r.1 ∨ 0x41 ≤ r.1 ∧ r.2.1 ≤ 0x5A := by
  have hall : shifts.toList.all (fun r => 0x80 ≤ r.1 || 0x41 ≤ r.1 && r.2.1 ≤ 0x5A) = true := by
    decide +kernel
  simpa using List.all_eq_true.1 hall r hr.val

theorem isUpper_eq_false_iff {c : Char} :
    c.isUpper = false ↔ ¬ (0x41 ≤ c.toNat ∧ c.toNat ≤ 0x5A) :=
  decide_eq_false_iff_not

theorem find?_shifts_of_isAscii {c : Char} (hc : isAscii c = true) (hu : c.isUpper = false) :
    (shifts.find? fun r => r.1 ≤ c.toNat && c.toNat ≤ r.2.1 &&
      (c.toNat - r.1) % r.2.2.1 == 0) = none := by
  have hn := isAscii_iff.1 hc
  have hcap := isUpper_eq_false_iff.1 hu
  rw [Array.find?_eq_none]
  intro r hr hp
  simp only [Bool.and_eq_true, decide_eq_true_eq] at hp
  -- the only row within ASCII is the one of the capitals
  rcases shifts_above hr with h | h <;> omega

theorem spellings_above {p : Nat × List Char} (hp : p ∈ spellings) : 0x80 ≤ p.1 := by
  have hrows : spellingRows.toList.all (0x80 ≤ ·.1) = true := by decide +kernel
  simp only [spellings, Array.mem_flatMap, Array.mem_mapIdx] at hp
  obtain ⟨row, hrow, i, hi, rfl⟩ := hp
  have := List.all_eq_true.1 hrows row hrow.val
  simp only [decide_eq_true_eq] at this
  dsimp only
  omega

theorem find?_spellings_of_isAscii {c : Char} (hc : isAscii c = true) :
    spellings.find? (·.1 == c.toNat) = none := by
  have hn := isAscii_iff.1 hc
  rw [Array.find?_eq_none]
  intro p hp hpc
  have := spellings_above hp
  simp only [beq_iff_eq] at hpc
  omega

/-- A character of ASCII folds to itself, unless it is a capital. -/
theorem fold?_of_isAscii {c : Char} (hc : isAscii c = true) (hu : c.isUpper = false) :
    fold? c = some [c] := by
  have hr : within refused c.toNat = false := within_of_isAscii (by decide +kernel) hc
  have hd : within dropped c.toNat = false := within_of_isAscii (by decide +kernel) hc
  unfold fold?
  dsimp only
  rw [hr, hd, if_neg Bool.false_ne_true, if_neg Bool.false_ne_true,
    find?_shifts_of_isAscii hc hu, find?_spellings_of_isAscii hc]

/-! ### Composition -/

theorem combiningClass_of_isAscii {c : Char} (hc : isAscii c = true) : combiningClass c = 0 := by
  have : (combiningClasses.find? fun r => r.1 ≤ c.toNat && c.toNat ≤ r.2.1) = none :=
    find?_eq_none_of_above (f := (·.1)) (by decide +kernel) hc (by grind)
  unfold combiningClass
  rw [this]

/-- Whether the second of two characters in each word is above ASCII. -/
def compositesAbove (cs : List Char) : Bool :=
  (splitOn ' ' cs).all fun word =>
    match word with
    | [_, composite] => 0x80 ≤ composite.toNat
    | _ => true

/-- The check of a table row by row reads each text as the list of its characters. -/
theorem compositesAbove_cons {n : Nat} {cs : List Char} {rows : List (Nat × String)}
    (hn : 0x80 ≤ (Char.ofNat n).toNat) (hcs : compositesAbove cs = true)
    (h : ∀ row ∈ rows, 0x80 ≤ (Char.ofNat row.1).toNat ∧ compositesAbove row.2.toList = true) :
    ∀ row ∈ (n, String.ofList cs) :: rows,
      0x80 ≤ (Char.ofNat row.1).toNat ∧ compositesAbove row.2.toList = true := by
  simpa [hn, hcs] using h

set_option maxRecDepth 10000 in
theorem compositionRows_above : ∀ row ∈ compositionRows.toList,
    0x80 ≤ (Char.ofNat row.1).toNat ∧ compositesAbove row.2.toList = true := by
  simp only [compositionRows]
  -- one row at a time, since the kernel cannot take in the whole table at once
  repeat refine compositesAbove_cons (by decide +kernel) (by decide +kernel) ?_
  simp

theorem compositions_above {p : Char × Char × Char} (hp : p ∈ compositions) :
    0x80 ≤ p.2.1.toNat ∧ 0x80 ≤ p.2.2.toNat := by
  simp only [compositions, Array.mem_flatMap, Array.mem_filterMap, List.mem_toArray] at hp
  obtain ⟨row, hrow, word, hword, hp⟩ := hp
  obtain ⟨hn, hcs⟩ := compositionRows_above row hrow.val
  have := List.all_eq_true.1 hcs word hword
  split at hp
  · simp only [decide_eq_true_eq] at this
    obtain rfl : _ = p := by simpa using hp
    exact ⟨hn, this⟩
  · simp at hp

theorem parts_of_isAscii {c : Char} (hc : isAscii c = true) : parts c = [c] := by
  have hn := isAscii_iff.1 hc
  have hf : compositions.find? (·.2.2 == c) = none := by
    rw [Array.find?_eq_none]
    intro p hp hpc
    have := (compositions_above hp).2
    rw [beq_iff_eq.1 hpc] at this
    omega
  unfold parts
  rw [if_neg (by omega), hf]

theorem flatMap_parts_of_isAscii {cs : List Char} (h : ∀ c ∈ cs, isAscii c = true) :
    cs.flatMap parts = cs := by
  induction cs with
  | nil => rfl
  | cons c cs ih =>
    rw [List.flatMap_cons, parts_of_isAscii (h c (by simp)), ih fun d hd => h d (by simp [hd]),
      List.singleton_append]

theorem decompose_of_isAscii {cs : List Char} (h : ∀ c ∈ cs, isAscii c = true) :
    decompose cs = cs := by
  simp only [decompose, Nat.repeat, flatMap_parts_of_isAscii h]

theorem reorder_of_isAscii {cs : List Char} (h : ∀ c ∈ cs, isAscii c = true) :
    reorder cs = cs := by
  unfold reorder
  induction cs with
  | nil => rfl
  | cons c cs ih =>
    rw [List.foldr_cons, ih fun d hd => h d (by simp [hd])]
    cases cs with
    | nil => rfl
    | cons d ds => simp [settle, combiningClass_of_isAscii (h d (by simp))]

theorem compose?_of_isAscii (first : Char) {second : Char} (h : isAscii second = true) :
    compose? first second = none := by
  have hn := isAscii_iff.1 h
  have hf : (compositions.find? fun p => p.1 == first && p.2.1 == second) = none := by
    rw [Array.find?_eq_none]
    intro p hp hpc
    simp only [Bool.and_eq_true, beq_iff_eq] at hpc
    have := (compositions_above hp).1
    rw [hpc.2] at this
    omega
  rw [compose?, hf, Option.map_none, Option.none_or]
  -- nor are there jamo in ASCII
  simp only [composeHangul?]
  rw [if_neg (by omega), if_neg (by omega)]

theorem composeAfter_of_isAscii (letter : Char) {cs : List Char}
    (h : ∀ c ∈ cs, isAscii c = true) : composeAfter letter [] 0 cs = letter :: cs := by
  induction cs generalizing letter with
  | nil => rfl
  | cons c cs ih =>
    have hc := h c (by simp)
    rw [composeAfter]
    simp only [compose?_of_isAscii letter hc, combiningClass_of_isAscii hc, ite_self, if_true]
    rw [ih c fun d hd => h d (by simp [hd]), List.reverse_nil, List.singleton_append]

/-- Composition leaves ASCII alone. -/
theorem composed_of_isAscii {cs : List Char} (h : ∀ c ∈ cs, isAscii c = true) :
    composed cs = cs := by
  rw [composed, decompose_of_isAscii h, reorder_of_isAscii h]
  cases cs with
  | nil => rfl
  | cons c cs =>
    rw [compose, if_pos (combiningClass_of_isAscii (h c (by simp))),
      composeAfter_of_isAscii c fun d hd => h d (by simp [hd])]

/-! ### Direction -/

/-- No character of ASCII is written from right to left. -/
theorem directionOf_of_isAscii {c : Char} (hc : isAscii c = true) :
    directionOf c ≠ .right ∧ directionOf c ≠ .arabicDigit := by
  have hall : directions.toList.all (fun r =>
      0x80 ≤ r.1 || r.2.2 != .right && r.2.2 != .arabicDigit) = true := by decide +kernel
  unfold directionOf
  split
  · rename_i r hr
    have hmem := List.all_eq_true.1 hall r (Array.mem_of_find?_eq_some hr).val
    have hle := Array.find?_some hr
    have hn := isAscii_iff.1 hc
    simp only [Bool.and_eq_true, decide_eq_true_eq] at hle
    simp only [Bool.or_eq_true, Bool.and_eq_true, decide_eq_true_eq, bne_iff_ne] at hmem
    exact hmem.resolve_left (by omega)
  · split <;> decide

/-! ### Labels -/

theorem mem_of_mem_splitOn {sep : Char} {cs part : List Char} (h : part ∈ splitOn sep cs) :
    ∀ c ∈ part, c ∈ cs := by
  induction cs generalizing part with
  | nil =>
    obtain rfl := List.mem_singleton.1 h
    exact List.forall_mem_nil _
  | cons d cs ih =>
    rw [splitOn] at h
    split at h
    · obtain rfl | h := List.mem_cons.1 h
      · exact List.forall_mem_nil _
      · exact fun c hc => List.mem_cons_of_mem _ (ih h c hc)
    · split at h
      · obtain rfl := List.mem_singleton.1 h
        exact fun c hc => List.mem_cons.2 (.inl (List.mem_singleton.1 hc))
      · rename_i first parts heq
        rw [heq] at ih
        obtain rfl | h := List.mem_cons.1 h
        · refine List.forall_mem_cons.2 ⟨List.mem_cons_self, fun c hc => ?_⟩
          exact List.mem_cons_of_mem _ (ih List.mem_cons_self c hc)
        · exact fun c hc => List.mem_cons_of_mem _ (ih (List.mem_cons_of_mem _ h) c hc)

theorem mem_intercalate {α : Type} {sep : List α} {parts : List (List α)} {c : α}
    (h : c ∈ sep.intercalate parts) : c ∈ sep ∨ ∃ part ∈ parts, c ∈ part := by
  induction parts with
  | nil => cases h
  | cons part parts ih =>
    cases parts with
    | nil => exact .inr ⟨part, by simp, by simpa [List.intercalate] using h⟩
    | cons other parts =>
      rw [List.intercalate_cons_cons, List.mem_append, List.mem_append] at h
      obtain (h | h) | h := h
      · exact .inr ⟨part, by simp, h⟩
      · exact .inl h
      · exact (ih h).imp_right fun ⟨p, hp, hc⟩ => ⟨p, by simp [hp], hc⟩

theorem splitOn_of_not_mem {sep : Char} {cs : List Char} (h : sep ∉ cs) : splitOn sep cs = [cs] := by
  induction cs with
  | nil => rfl
  | cons c cs ih =>
    have hc : c ≠ sep := fun heq => h (by simp [heq])
    rw [splitOn, if_neg hc, ih fun hmem => h (List.mem_cons_of_mem _ hmem)]

theorem splitOn_ne_nil (sep : Char) (cs : List Char) : splitOn sep cs ≠ [] := by
  cases cs with
  | nil => exact List.cons_ne_nil _ _
  | cons c cs =>
    rw [splitOn]
    split
    · exact List.cons_ne_nil _ _
    · split <;> exact List.cons_ne_nil _ _

/-- Parts that have been split are put together again. -/
theorem intercalate_splitOn (sep : Char) (cs : List Char) :
    [sep].intercalate (splitOn sep cs) = cs := by
  induction cs with
  | nil => rfl
  | cons c cs ih =>
    obtain ⟨part, parts, hparts⟩ := List.exists_cons_of_ne_nil (splitOn_ne_nil sep cs)
    rw [hparts] at ih
    rw [splitOn, hparts]
    split
    · rename_i hc
      rw [List.intercalate_cons_cons, ih, hc]
      rfl
    · cases parts with
      | nil =>
        rw [List.intercalate_singleton] at ih ⊢
        rw [ih]
      | cons next parts =>
        rw [List.intercalate_cons_cons] at ih ⊢
        rw [← ih]
        rfl

/-! ### Plain names -/

/-- A character of ASCII that no domain name changes or refuses. -/
structure IsNameChar (c : Char) : Prop where
  /-- It is in ASCII. -/
  ascii : isAscii c = true
  /-- It is no capital. -/
  small : c.isUpper = false
  /-- It does not break a URL apart. -/
  allowed : isForbiddenInDomain c = false

theorem of_isForbiddenInDomain {c : Char} (h : isForbiddenInDomain c = false) :
    0x20 < c.toNat ∧ ∀ d ∈ "%#/:<>?@[\\]^|".toList, c ≠ d := by
  simp only [isForbiddenInDomain, Bool.or_eq_false_iff, decide_eq_false_iff_not,
    List.contains_eq_mem] at h
  refine ⟨by omega, ?_⟩
  rintro d hd rfl
  exact h.2 hd

/-- A domain name that is read as it stands: its labels are in ASCII and are no forms of others. -/
structure IsPlainName (cs : List Char) : Prop where
  /-- Its characters are those of names. -/
  char : ∀ c ∈ cs, IsNameChar c
  /-- No label is a form of another one. -/
  label : ∀ l ∈ splitOn '.' cs, ¬ "xn--".toList <+: l

section Name

variable {cs : List Char}

/-- The bytes of a name are read back as its characters. -/
theorem decodeChars?_percentDecode (h : ∀ c ∈ cs, IsNameChar c) :
    Utf8.decodeChars? (percentDecode (cs.flatMap String.utf8EncodeChar)) = some cs := by
  induction cs with
  | nil => rw [List.flatMap_nil, percentDecode, Utf8.decodeChars?]
  | cons c cs ih =>
    obtain ⟨hc, hcs⟩ := List.forall_mem_cons.1 h
    have hb : UInt8.ofNat c.toNat ≠ 0x25 := by
      intro hb
      have hn := congrArg UInt8.toNat hb
      rw [toNat_byte_of_isAscii hc.ascii] at hn
      exact (of_isForbiddenInDomain hc.allowed).2 '%' (by decide) (Char.toNat_inj.1 hn)
    rw [List.flatMap_cons, utf8EncodeChar_of_isAscii hc.ascii, List.singleton_append,
      percentDecode.eq_3 _ _ fun _ _ _ he _ => hb he, decodeChars?_of_isAscii hc.ascii, ih hcs,
      Option.map_some]

theorem mapM_fold? (h : ∀ c ∈ cs, IsNameChar c) :
    cs.mapM fold? = some (cs.map fun c => [c]) := by
  induction cs with
  | nil => rfl
  | cons c cs ih =>
    obtain ⟨hc, hcs⟩ := List.forall_mem_cons.1 h
    rw [List.mapM_cons, fold?_of_isAscii hc.ascii hc.small, ih hcs]
    rfl

theorem ofFolded?_of_isAscii (h : ∀ c ∈ cs, isAscii c = true) (hform : ¬ "xn--".toList <+: cs) :
    Label.ofFolded? cs = some ⟨cs, cs⟩ := by
  unfold Label.ofFolded?
  split
  · exact absurd ⟨_, rfl⟩ hform
  · rw [if_pos (List.all_eq_true.2 h)]

theorem mapM_ofFolded? {labels : List (List Char)} (h : ∀ l ∈ labels, ∀ c ∈ l, isAscii c = true)
    (hform : ∀ l ∈ labels, ¬ "xn--".toList <+: l) :
    labels.mapM Label.ofFolded? = some (labels.map fun l => ⟨l, l⟩) := by
  induction labels with
  | nil => rfl
  | cons l labels ih =>
    obtain ⟨hl, hlabels⟩ := List.forall_mem_cons.1 h
    obtain ⟨hf, hforms⟩ := List.forall_mem_cons.1 hform
    rw [List.mapM_cons, ofFolded?_of_isAscii hl hf, ih hlabels hforms]
    rfl

theorem IsPlainName.readLabels? (h : IsPlainName cs) :
    readLabels? cs = some ((splitOn '.' cs).map fun l => ⟨l, l⟩) := by
  have hascii : ∀ c ∈ cs, isAscii c = true := fun c hc => (h.char c hc).ascii
  have hlabel : ∀ l ∈ splitOn '.' cs, ∀ c ∈ l, isAscii c = true :=
    fun l hl c hc => hascii c (mem_of_mem_splitOn hl c hc)
  have hf : composed (cs.map fun c => [c]).flatten = cs := by
    rw [← List.flatMap_def, List.flatMap_singleton', composed_of_isAscii hascii]
  have hd : cs.any isForbiddenInDomain = false :=
    List.any_eq_false.2 fun c hc => by simp [(h.char c hc).allowed]
  have hl : (splitOn '.' (composed (cs.map fun c => [c]).flatten)).mapM Label.ofFolded? =
      some ((splitOn '.' cs).map fun l => ⟨l, l⟩) := by
    rw [hf]
    exact mapM_ofFolded? hlabel h.label
  have hr : (((splitOn '.' cs).map fun l => Label.mk l l).any (hasRightToLeft ·.shown)) = false := by
    rw [List.any_map, List.any_eq_false]
    intro l hl
    simp only [Function.comp_apply, hasRightToLeft, Bool.not_eq_true, List.any_eq_false]
    intro c hc
    simpa using directionOf_of_isAscii (hlabel l hl c hc)
  refine Option.bind_eq_some_iff.2 ⟨_, mapM_fold? h.char, Option.bind_eq_some_iff.2
    ⟨(), (Option.guard_eq_some' _).2 ?_, Option.bind_eq_some_iff.2 ⟨_, hl,
      Option.bind_eq_some_iff.2 ⟨(), (Option.guard_eq_some' _).2 ?_, rfl⟩⟩⟩⟩
  · rw [hf, hd]
    rfl
  · rw [hr]
    rfl

theorem IsPlainName.domainToAscii (h : IsPlainName cs) : domainToAscii cs = .ok cs := by
  have hmap : ((splitOn '.' cs).map fun l => Label.mk l l).map Label.written = splitOn '.' cs := by
    rw [List.map_map]
    exact List.map_id _
  rw [Url.domainToAscii, h.readLabels?]
  dsimp only
  rw [hmap, intercalate_splitOn]

/-- **A plain name is read as it stands**, as an address of four bytes if it ends in a number. -/
theorem parseWebHost_of_isPlainName (h : IsPlainName cs) (hne : cs ≠ []) :
    parseWebHost cs = if endsInNumber cs then (parseIpv4 cs).map .ipv4
      else .ok (.name (String.ofList cs)) := by
  have hempty : cs.isEmpty = false := by simpa using hne
  unfold parseWebHost
  split
  · exact absurd (h.char '[' List.mem_cons_self).allowed (by decide)
  · rw [decodeChars?_percentDecode h.char]
    simp only [h.domainToAscii, bind, Except.bind, hempty]
    rw [if_neg Bool.false_ne_true]
    split
    · cases parseIpv4 cs <;> rfl
    · rfl

end Name

/-! ### Small letters -/

theorem isLower_iff {c : Char} : c.isLower = true ↔ 0x61 ≤ c.toNat ∧ c.toNat ≤ 0x7A := by
  have hlower : c.isLower = (decide ('a'.val ≤ c.val) && decide (c.val ≤ 'z'.val)) := rfl
  rw [hlower, Bool.and_eq_true, decide_eq_true_eq, decide_eq_true_eq]
  exact Iff.rfl

theorem isAscii_of_isLower {c : Char} (h : c.isLower = true) : isAscii c = true := by
  have := isLower_iff.1 h
  exact isAscii_iff.2 (by omega)

theorem isUpper_of_isLower {c : Char} (h : c.isLower = true) : c.isUpper = false := by
  have := isLower_iff.1 h
  exact isUpper_eq_false_iff.2 (by omega)

theorem ne_of_isLower {c d : Char} (h : c.isLower = true) (hd : d.isLower = false) : c ≠ d := by
  rintro rfl
  simp [h] at hd

theorem contains_of_isLower {s : String} (hs : s.toList.all (!Char.isLower ·) = true) {c : Char}
    (h : c.isLower = true) : s.toList.contains c = false := by
  rw [List.contains_eq_mem, decide_eq_false_iff_not]
  intro hc
  simpa [h] using List.all_eq_true.1 hs c hc

theorem isForbiddenInDomain_of_isLower {c : Char} (h : c.isLower = true) :
    isForbiddenInDomain c = false := by
  have hn := isLower_iff.1 h
  rw [isForbiddenInDomain, contains_of_isLower (by decide) h, Bool.or_false,
    Bool.or_eq_false_iff, decide_eq_false_iff_not, beq_eq_false_iff_ne]
  omega

theorem isForbiddenInHost_of_isLower {c : Char} (h : c.isLower = true) :
    isForbiddenInHost c = false :=
  contains_of_isLower (by decide) h

theorem isKept_controlSet_of_isLower {c : Char} (h : c.isLower = true) :
    isKept controlSet c = true := by
  have hn := isLower_iff.1 h
  rw [isKept_iff, controlSet, isControl, Bool.or_eq_false_iff, decide_eq_false_iff_not,
    beq_eq_false_iff_ne]
  omega

theorem digitIn?_of_isLower {c : Char} (h : c.isLower = true) : digitIn? 10 c = none := by
  have hn := isLower_iff.1 h
  simp only [digitIn?]
  rw [if_neg (by omega), if_neg (by omega)]
  split
  · simp only [Option.filter_some, ite_eq_right_iff, decide_eq_true_eq]
    omega
  · rfl

section Letters

variable {cs : List Char} (h : ∀ c ∈ cs, c.isLower = true)

include h

theorem not_mem_of_isLower {d : Char} (hd : d.isLower = false) : d ∉ cs :=
  fun hc => ne_of_isLower (h d hc) hd rfl

theorem isPlainName_of_isLower : IsPlainName cs := by
  refine ⟨fun c hc => ⟨isAscii_of_isLower (h c hc), isUpper_of_isLower (h c hc),
    isForbiddenInDomain_of_isLower (h c hc)⟩, fun l hl hform => ?_⟩
  rw [splitOn_of_not_mem (not_mem_of_isLower h (by decide))] at hl
  obtain rfl := List.mem_singleton.1 hl
  exact not_mem_of_isLower h (by decide) (hform.subset (show '-' ∈ "xn--".toList by decide))

theorem dottedParts_of_isLower (hne : cs ≠ []) : dottedParts cs = [cs] := by
  have hdot : '.' ∉ cs := not_mem_of_isLower h (by decide)
  simp [dottedParts, splitOn_of_not_mem hdot, hne]

theorem ipv4Number?_of_isLower (hne : cs ≠ []) : ipv4Number? cs = none := by
  have h0 : '0' ∉ cs := not_mem_of_isLower h (by decide)
  unfold ipv4Number?
  split
  · exact absurd rfl hne
  · exact absurd (List.mem_cons_self ..) h0
  · exact absurd (List.mem_cons_self ..) h0
  · exact absurd (List.mem_cons_self ..) h0
  · obtain ⟨c, cs, rfl⟩ := List.exists_cons_of_ne_nil hne
    simp [numberIn?, digitIn?_of_isLower (h c (by simp))]

theorem endsInNumber_of_isLower (hne : cs ≠ []) : endsInNumber cs = false := by
  obtain ⟨c, hc⟩ := List.exists_mem_of_ne_nil cs hne
  have hd : cs.all Char.isDigit = false := by
    rw [List.all_eq_false]
    have := isLower_iff.1 (h c hc)
    refine ⟨c, hc, fun hdigit => ?_⟩
    have := isDigit_iff.1 hdigit
    omega
  simp [endsInNumber, dottedParts_of_isLower h hne, hd, ipv4Number?_of_isLower h hne]

/-- Small letters are a host under a web scheme. -/
theorem parseWebHost_of_isLower (hne : cs ≠ []) :
    parseWebHost cs = .ok (.name (String.ofList cs)) := by
  rw [parseWebHost_of_isPlainName (isPlainName_of_isLower h) hne, endsInNumber_of_isLower h hne,
    if_neg Bool.false_ne_true]

/-- Small letters are a host under any other scheme. -/
theorem parseOtherHost_of_isLower : parseOtherHost cs = .ok (.name (String.ofList cs)) := by
  unfold parseOtherHost
  split
  · exact absurd (h '[' (by simp)) (by decide)
  · have hf : ¬ cs.any isForbiddenInHost = true := by
      rw [Bool.not_eq_true, List.any_eq_false]
      intro c hc
      rw [isForbiddenInHost_of_isLower (h c hc)]
      decide
    rw [if_neg hf, percentEncode_of_isKept fun c hc => isKept_controlSet_of_isLower (h c hc)]

end Letters

end SignIn.Url
