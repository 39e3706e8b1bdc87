import SignIn.Url.Percent

/-!
# What encoding keeps

The parts of a URL are kept encoded, and encoding what has been encoded changes nothing: what it
writes are the characters that stand for themselves, and codes, which are made of such characters.
No part admits controls and spaces.

## Main definitions

* `isKept` — a character stands for itself in a part of a URL.

## Main results

* `percentEncode_of_isKept`, `isKept_of_mem_percentEncode` — what has been encoded is kept.
* `lt_of_isKept` — no control and no space is kept.
-/

namespace SignIn.Url

theorem percentEncode_append (set : EncodeSet) (cs ds : List Char) :
    percentEncode set (cs ++ ds) = percentEncode set cs ++ percentEncode set ds :=
  List.flatMap_append

theorem encodeChar_ne_nil (set : EncodeSet) (c : Char) : encodeChar set c ≠ [] := by
  unfold encodeChar
  split
  · obtain ⟨b, bs, h⟩ := List.exists_cons_of_ne_nil (l := String.utf8EncodeChar c) (by simp)
    simp [h, encodeByte]
  · exact List.cons_ne_nil _ _

/-! ### Kept characters -/

/-- Whether a character stands for itself in a part of a URL. -/
def isKept (set : EncodeSet) (c : Char) : Bool := !set c && decide (c.toNat < 0x80)

theorem isKept_iff {set : EncodeSet} {c : Char} :
    isKept set c = true ↔ set c = false ∧ c.toNat < 0x80 := by
  rw [isKept, Bool.and_eq_true, Bool.not_eq_true', decide_eq_true_eq]

theorem percentEncode_of_isKept {set : EncodeSet} {cs : List Char}
    (h : ∀ c ∈ cs, isKept set c = true) : percentEncode set cs = cs := by
  induction cs with
  | nil => rfl
  | cons c cs ih =>
    obtain ⟨hset, hlt⟩ := isKept_iff.1 (h c (by simp))
    have hone : encodeChar set c = [c] := if_neg (by simp [hset]; omega)
    rw [percentEncode, List.flatMap_cons, hone, ← percentEncode, ih fun d hd => h d (by simp [hd]),
      List.singleton_append]

/-- What encoding writes: the characters that are kept, and the codes of the others. -/
theorem mem_percentEncode {set : EncodeSet} {cs : List Char} {c : Char}
    (h : c ∈ percentEncode set cs) :
    (c ∈ cs ∧ isKept set c = true) ∨ c = '%' ∨ ∃ n < 16, c = upperHex n := by
  obtain ⟨d, hd, hc⟩ := List.mem_flatMap.1 h
  unfold encodeChar at hc
  split at hc
  · obtain ⟨b, -, hb⟩ := List.mem_flatMap.1 hc
    have hlt : b.toNat < 256 := b.toNat_lt
    simp only [encodeByte, List.mem_cons, List.not_mem_nil, or_false] at hb
    obtain rfl | rfl | rfl := hb
    · exact .inr (.inl rfl)
    · exact .inr (.inr ⟨_, by omega, rfl⟩)
    · exact .inr (.inr ⟨_, by omega, rfl⟩)
  · rename_i hset
    obtain rfl := List.mem_singleton.1 hc
    simp only [Bool.or_eq_true, decide_eq_true_eq, not_or, Bool.not_eq_true] at hset
    exact .inl ⟨hd, isKept_iff.2 ⟨hset.1, by omega⟩⟩

/-- Whether the codes of characters are kept, so that encoding ends after one time. -/
def KeepsCodes (set : EncodeSet) : Prop :=
  isKept set '%' = true ∧ ∀ n < 16, isKept set (upperHex n) = true

instance (set : EncodeSet) : Decidable (KeepsCodes set) := inferInstanceAs (Decidable (_ ∧ _))

/-- **What has been encoded is kept.** -/
theorem isKept_of_mem_percentEncode {set : EncodeSet} (hset : KeepsCodes set) {cs : List Char} :
    ∀ c ∈ percentEncode set cs, isKept set c = true := by
  intro c hc
  obtain ⟨-, hkept⟩ | rfl | ⟨n, hn, rfl⟩ := mem_percentEncode hc
  · exact hkept
  · exact hset.1
  · exact hset.2 n hn

theorem lt_of_isKept {set : EncodeSet} (hset : ∀ c, c.toNat ≤ 0x20 → set c = true) {c : Char}
    (h : isKept set c = true) : 0x20 < c.toNat := by
  refine Nat.lt_of_not_le fun hc => ?_
  rw [isKept, hset c hc] at h
  cases h

/-! ### Controls and spaces -/

theorem controlSet_or_space {c : Char} (hc : c.toNat ≤ 0x20) :
    (controlSet c || c == ' ') = true := by
  by_cases h : c.toNat = 0x20
  · rw [show c = ' ' from Char.toNat_inj.1 h]
    rfl
  · have : c.toNat < 0x20 := by omega
    simp [controlSet, isControl, this]

theorem fragmentSet_of_blank {c : Char} (hc : c.toNat ≤ 0x20) : fragmentSet c = true := by
  rw [fragmentSet, controlSet_or_space hc]
  rfl

theorem pathSet_of_blank {c : Char} (hc : c.toNat ≤ 0x20) : pathSet c = true := by
  rw [pathSet, fragmentSet_of_blank hc]
  rfl

theorem userSet_of_blank {c : Char} (hc : c.toNat ≤ 0x20) : userSet c = true := by
  rw [userSet, pathSet_of_blank hc]
  rfl

theorem specialQuerySet_of_blank {c : Char} (hc : c.toNat ≤ 0x20) : specialQuerySet c = true := by
  rw [specialQuerySet, querySet, controlSet_or_space hc]
  rfl

end SignIn.Url
