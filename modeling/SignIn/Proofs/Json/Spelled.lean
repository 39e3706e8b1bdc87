import SignIn.Proofs.Json.Grammar

/-!
# Strings are read exactly as they are spelled

A string is read as a text only if it spells the text.  What is read are bytes, and only a whole
string is looked at as a text; so the bytes of one character may have been read one by one.  No
escape stands for a part of a character, though, and this is why the characters can be told apart
in the string as well.

## Main results

* `spelled_of_stringBytes` — what was read was spelled, also behind a character that was begun.
* `string_eq_ok_iff_spelled` — **a string is read as a text exactly if it spells the text.**
-/

namespace SignIn.Json

open SignIn.Text

/-- A byte that stands for itself and starts a character stands for no quote, no backslash and no
control. -/
theorem spells_of_plain {b : UInt8} {c : Char} {tail : Bytes} (hb : 0x20 ≤ b.toNat)
    (hq : b ≠ 0x22) (hs : b ≠ 0x5C) (hc : String.utf8EncodeChar c = b :: tail) :
    Spells c (b :: tail) := by
  by_cases hlt : c.toNat < 128
  · rw [Utf8.encoded_of_lt hlt] at hc
    have hn : b.toNat = c.toNat := by
      rw [← (List.cons.inj hc).1]
      exact Utf8.toNat_byte (by omega)
    rw [← hc, ← Utf8.encoded_of_lt hlt]
    refine .plain (by omega) ?_ ?_
    · rintro rfl
      exact hq (UInt8.toNat_inj.1 hn)
    · rintro rfl
      exact hs (UInt8.toNat_inj.1 hn)
  · rw [← hc]
    refine .plain (by omega) ?_ ?_ <;> rintro rfl <;> exact hlt (by decide)

/-- An escape spells a character of its own: it never goes on with one that was begun. -/
theorem spelled_of_escape {c : Char} {front bs rest tail : Bytes} {cs : List Char}
    (hspells : Spells c front) (htail : ∀ b ∈ tail, Utf8.isTail b = true)
    (ih : ∀ cs', stringBytes bs = .ok (Utf8.bytes cs', rest) →
      ∃ spelled, SpellsAll cs' spelled ∧ bs = spelled ++ 0x22 :: rest)
    (h : prepend (String.utf8EncodeChar c) (stringBytes bs) = .ok (tail ++ Utf8.bytes cs, rest)) :
    ∃ spelled, SpellsAll cs spelled ∧ front ++ bs = tail ++ (spelled ++ 0x22 :: rest) := by
  obtain ⟨more, hmore, hbytes⟩ := prepend_eq_ok_iff.1 h
  obtain ⟨b, others, hc, hb, -⟩ := Utf8.encoded_eq_cons c
  rcases tail with _ | ⟨t, tail⟩
  · obtain ⟨cs', rfl, rfl⟩ := Utf8.eq_cons_of_bytes hbytes.symm
    obtain ⟨spelled, hspelled, rfl⟩ := ih cs' hmore
    exact ⟨front ++ spelled, .cons hspells hspelled, by simp⟩
  · -- the first byte of a character is none of a tail
    rw [hc] at hbytes
    have ht := htail t List.mem_cons_self
    rw [← (List.cons.inj hbytes).1, hb] at ht
    cases ht

/-- What was read was spelled, behind the tail of a character that was begun. -/
theorem spelled_of_stringBytes {bs rest tail : Bytes} {cs : List Char}
    (htail : ∀ b ∈ tail, Utf8.isTail b = true)
    (h : stringBytes bs = .ok (tail ++ Utf8.bytes cs, rest)) :
    ∃ spelled, SpellsAll cs spelled ∧ bs = tail ++ (spelled ++ 0x22 :: rest) := by
  fun_induction stringBytes bs generalizing tail cs with
  | case2 bs =>
    -- the closing quote
    obtain ⟨hnil, rfl⟩ := Prod.mk.inj (Except.ok.inj h)
    obtain ⟨rfl, hcs⟩ := List.append_eq_nil_iff.1 hnil.symm
    obtain rfl := Utf8.bytes_eq_nil_iff.1 hcs
    exact ⟨[], .nil, rfl⟩
  | case7 a b c d n hn _ hhigh e f g l bs m hm hlow ih =>
    -- two halves of a surrogate pair
    exact spelled_of_escape (.pair hn hhigh hm hlow) htail (fun cs' => ih (List.forall_mem_nil _)) h
  | case13 a b c d bs n hn hlow hhigh ih =>
    -- four digits that are no half of a pair
    exact spelled_of_escape (.unit hn (by omega)) htail (fun cs' => ih (List.forall_mem_nil _)) h
  | case16 b bs _ hu e he ih =>
    -- a short escape
    rw [← (shortEscape?_eq_some he).2] at h
    exact spelled_of_escape (.short he) htail (fun cs' => ih (List.forall_mem_nil _)) h
  | case19 b bs hq _ _ hend hother hb ih =>
    -- a byte that stands for itself
    have hs := ne_of_no_escape hend hother
    obtain ⟨more, hmore, hbytes⟩ := prepend_eq_ok_iff.1 h
    rcases tail with _ | ⟨t, tail⟩
    · -- the byte starts a character
      rcases cs with _ | ⟨c, cs⟩
      · cases hbytes
      obtain ⟨b', others, hc, -, hothers⟩ := Utf8.encoded_eq_cons c
      rw [List.nil_append, Utf8.bytes_cons, hc] at hbytes
      obtain ⟨rfl, rfl⟩ := List.cons.inj hbytes
      obtain ⟨spelled, hspelled, rfl⟩ := ih hothers hmore
      refine ⟨b :: others ++ spelled, .cons (spells_of_plain ?_ hq hs hc) hspelled, by simp⟩
      exact Nat.not_lt.1 fun h => hb (UInt8.lt_iff_toNat_lt.2 h)
    · -- the byte goes on with the character that was begun
      obtain ⟨rfl, rfl⟩ := List.cons.inj hbytes
      obtain ⟨spelled, hspelled, rfl⟩ :=
        ih (fun b hb => htail b (List.mem_cons_of_mem _ hb)) hmore
      exact ⟨spelled, hspelled, rfl⟩
  | _ => cases h

/-- **A string is read as a text exactly if it spells the text.** -/
theorem string_eq_ok_iff_spelled {bs rest : Bytes} {s : String} :
    string bs = .ok (s, rest) ↔ ∃ body, SpellsAll s.toList body ∧ bs = body ++ 0x22 :: rest := by
  constructor
  · intro h
    obtain ⟨body, hbody, hs⟩ := string_eq_ok_iff.1 h
    rw [Utf8.decode?_eq_some_iff.1 hs, Utf8.encode_eq_bytes] at hbody
    have hnone : ∀ b ∈ ([] : Bytes), Utf8.isTail b = true := List.forall_mem_nil _
    exact spelled_of_stringBytes hnone hbody
  · rintro ⟨body, hbody, rfl⟩
    exact string_spelled hbody rest

end SignIn.Json
