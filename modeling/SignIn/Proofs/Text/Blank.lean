import Mathlib.Data.List.DropRight
import SignIn.Text.Blank

/-!
# Blanks around a text

What stands around a text that has no blanks is stripped, and digits are no blanks.  A text that
neither starts nor ends with a blank is left as it is.  The end of a line is stripped, too.

## Main results

* `strip_surrounded` — the text is left.
* `exists_strip` — what is stripped stands around what is left.
* `strip_eq_self_iff` — only the ends count.
* `isBlank_of_isDigit` — a digit is no blank.
* `trim_withoutLineEnd` — whether a line has its end is of no consequence.
-/

namespace SignIn.Text

/-- What starts with a character that stays is left as it is. -/
theorem dropWhile_append_of_forall {p : Char → Bool} {cs : List Char} (hne : cs ≠ [])
    (hcs : ∀ c ∈ cs, p c = false) (rest : List Char) :
    (cs ++ rest).dropWhile p = cs ++ rest := by
  cases cs with
  | nil => exact absurd rfl hne
  | cons c cs =>
    have hc : ¬ p c = true := by simp [hcs c List.mem_cons_self]
    rw [List.cons_append, List.dropWhile_cons_of_neg hc]

/-- What stands around a text is stripped, and nothing of the text itself. -/
theorem strip_surrounded {p : Char → Bool} {before cs after : List Char}
    (hbefore : ∀ c ∈ before, p c = true) (hafter : ∀ c ∈ after, p c = true)
    (hne : cs ≠ []) (hcs : ∀ c ∈ cs, p c = false) :
    strip p (before ++ cs ++ after) = cs := by
  have hafter' : ∀ c ∈ after.reverse, p c = true := by
    intro c hc
    exact hafter c (List.mem_reverse.1 hc)
  have hcs' : ∀ c ∈ cs.reverse, p c = false := by
    intro c hc
    exact hcs c (List.mem_reverse.1 hc)
  have hreverse : cs.reverse.dropWhile p = cs.reverse := by
    have hne' : cs.reverse ≠ [] := by simpa using hne
    simpa using dropWhile_append_of_forall hne' hcs' []
  unfold strip
  rw [List.append_assoc, List.dropWhile_append_of_pos hbefore,
    dropWhile_append_of_forall hne hcs, List.reverse_append,
    List.dropWhile_append_of_pos hafter', hreverse, List.reverse_reverse]

/-- What is stripped stands around what is left. -/
theorem exists_strip (p : Char → Bool) (cs : List Char) :
    ∃ before after, cs = before ++ strip p cs ++ after ∧
      (∀ c ∈ before, p c = true) ∧ ∀ c ∈ after, p c = true := by
  refine ⟨cs.takeWhile p, ((cs.dropWhile p).reverse.takeWhile p).reverse, ?_,
    fun c hc => List.mem_takeWhile_imp hc,
    fun c hc => List.mem_takeWhile_imp (List.mem_reverse.1 hc)⟩
  rw [strip, List.append_assoc, ← List.reverse_append, List.takeWhile_append_dropWhile,
    List.reverse_reverse, List.takeWhile_append_dropWhile]

/-- What is stripped anyway may be dropped from the end before. -/
theorem strip_append {p : Char → Bool} {after : List Char} (h : ∀ c ∈ after, p c = true)
    (cs : List Char) : strip p (cs ++ after) = strip p cs := by
  have hafter : ∀ c ∈ after.reverse, p c = true := by
    intro c hc
    exact h c (List.mem_reverse.1 hc)
  unfold strip
  rw [List.dropWhile_append]
  split
  · rename_i hnil
    rw [List.isEmpty_iff.1 hnil, List.dropWhile_eq_nil_iff.2 h]
  · rw [List.reverse_append, List.dropWhile_append_of_pos hafter]

/-- What has nothing to drop at either end is left as it is, and nothing else is. -/
theorem strip_eq_self_iff {p : Char → Bool} {cs : List Char} :
    strip p cs = cs ↔ (∀ c ∈ cs.head?, ¬ p c) ∧ ∀ c ∈ cs.getLast?, ¬ p c := by
  have hfront : cs.dropWhile p = cs ↔ ∀ c ∈ cs.head?, ¬ p c := by
    rw [List.dropWhile_eq_self_iff]
    cases cs <;> simp
  have hback : cs.rdropWhile p = cs ↔ ∀ c ∈ cs.getLast?, ¬ p c := by
    rw [List.rdropWhile_eq_self_iff]
    exact ⟨fun h c hc => List.getLast_of_mem_getLast? hc ▸ h _,
      fun h hne => h _ (List.getLast?_eq_some_getLast hne)⟩
  rw [← hfront, ← hback]
  constructor
  · intro h
    have hlength : cs.length ≤ (cs.dropWhile p).length := by
      calc cs.length = ((cs.dropWhile p).rdropWhile p).length := congrArg List.length h.symm
        _ ≤ (cs.dropWhile p).length := (List.rdropWhile_prefix p _).length_le
    have hfront : cs.dropWhile p = cs := (List.dropWhile_suffix p).eq_of_length_le hlength
    exact ⟨hfront, by rwa [strip, hfront] at h⟩
  · rintro ⟨hfront, hback⟩
    rw [strip, hfront]
    exact hback

theorem trim_eq_self_iff {s : String} : trim s = s ↔ strip isBlank s.toList = s.toList := by
  rw [← String.toList_inj, trim, String.toList_ofList]

/-- The end of a line counts as a blank. -/
theorem trim_withoutLineEnd (line : String) : trim (withoutLineEnd line) = trim line := by
  have hblank : ∀ c ∈ (line.toList.reverse.takeWhile isLineEnd).reverse, isBlank c = true := by
    intro c hc
    have hend : c = '\r' ∨ c = '\n' := by
      simpa [isLineEnd] using List.mem_takeWhile_imp (List.mem_reverse.1 hc)
    obtain rfl | rfl := hend <;> rfl
  have hline : line.toList = (line.toList.reverse.dropWhile isLineEnd).reverse ++
      (line.toList.reverse.takeWhile isLineEnd).reverse := by
    rw [← List.reverse_append, List.takeWhile_append_dropWhile, List.reverse_reverse]
  rw [trim, trim, withoutLineEnd, dropEnd, String.toList_ofList]
  conv_rhs => rw [hline, strip_append hblank]

theorem isDigit_iff {c : Char} : c.isDigit = true ↔ 0x30 ≤ c.toNat ∧ c.toNat ≤ 0x39 := by
  simp [Char.isDigit, UInt32.le_iff_toNat_le]

/-- A digit is no blank. -/
theorem isBlank_of_isDigit {c : Char} (h : c.isDigit = true) : isBlank c = false := by
  have hc := isDigit_iff.1 h
  simp only [isBlank, Bool.or_eq_false_iff, Bool.and_eq_false_iff, decide_eq_false_iff_not,
    beq_eq_false_iff_ne]
  omega

end SignIn.Text
