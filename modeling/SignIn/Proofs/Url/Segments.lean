import Mathlib.Data.List.DropRight
import SignIn.Proofs.Url.Path

/-!
# Written paths

The path of a web URL is kept as encoded segments that have no slash of either direction in them
and are no dot segments.  So when they are written behind slashes, the same segments are read
again, whether the text ends behind them or a query or a fragment follows.

## Main definitions

* `IsSegment`, `IsPath` — the segments that reading leaves.
* `pathChars` — segments, each behind a slash.

## Main results

* `isPath_walk` — reading a path leaves such segments.
* `pathAfterAuthority_pathChars` — **written segments are read again.**
* `rdropWhile_pathChars` — dropping the slashes at the end drops the empty segments there.
-/

namespace SignIn.Url

open SignIn.Text

/-! ### Segments -/

/-- A segment of a path as reading leaves it: encoded, without slashes, and no dot segment. -/
structure IsSegment (s : List Char) : Prop where
  /-- Its characters stand for themselves in a path. -/
  kept : ∀ c ∈ s, isKept pathSet c = true
  /-- No slash of either direction is among them. -/
  inner : ∀ c ∈ s, isSlash c = false
  /-- It does not name the current place. -/
  notSingle : isSingleDot s = false
  /-- It takes nothing back. -/
  notDouble : isDoubleDot s = false

theorem isSegment_nil : IsSegment [] :=
  ⟨List.forall_mem_nil _, List.forall_mem_nil _, by decide, by decide⟩

theorem isSegment_percentEncode {raw : List Char} (hraw : ∀ c ∈ raw, isSlash c = false)
    (h₁ : ¬ isSingleDot (percentEncode pathSet raw) = true)
    (h₂ : ¬ isDoubleDot (percentEncode pathSet raw) = true) :
    IsSegment (percentEncode pathSet raw) := by
  refine ⟨isKept_of_mem_percentEncode (by decide), fun c hc => ?_, by simpa using h₁,
    by simpa using h₂⟩
  obtain ⟨hmem, -⟩ | rfl | ⟨n, hn, rfl⟩ := mem_percentEncode hc
  · exact hraw c hmem
  · rfl
  · have hdigits : ∀ n < 16, isSlash (upperHex n) = false := by decide
    exact hdigits n hn

theorem isSegment_of_isAlphanum {s : List Char} (h : ∀ c ∈ s, c.isAlphanum = true) :
    IsSegment s := by
  obtain ⟨h₁, h₂⟩ := not_dots_of_isAlphanum h
  refine ⟨fun c hc => isKept_of_isAlphanum (h c hc), fun c hc => ?_, h₁, h₂⟩
  simp [isSlash, ne_of_isAlphanum (h c hc)]

theorem isSegment_of_mem_addSegment {done : List (List Char)} (hdone : ∀ s ∈ done, IsSegment s)
    {raw : List Char} (hraw : ∀ c ∈ raw, isSlash c = false) (slash : Bool) :
    ∀ s ∈ addSegment .web done raw slash, IsSegment s := by
  have hended {d : List (List Char)} (hd : ∀ s ∈ d, IsSegment s) :
      ∀ s ∈ if slash then d else [] :: d, IsSegment s := by
    split
    · exact hd
    · exact List.forall_mem_cons.2 ⟨isSegment_nil, hd⟩
  unfold addSegment
  dsimp only
  split
  · refine hended fun s hs => hdone s ?_
    cases done with
    | nil => exact hs
    | cons t done =>
      rw [takeBack] at hs
      split at hs
      · exact hs
      · exact List.mem_cons_of_mem _ hs
  · rename_i h₂
    split
    · exact hended hdone
    · rename_i h₁
      exact List.forall_mem_cons.2 ⟨isSegment_percentEncode hraw h₁ h₂, hdone⟩

theorem addSegment_of_isSegment {s : List Char} (h : IsSegment s) (done : List (List Char))
    (slash : Bool) : addSegment .web done s slash = s :: done := by
  unfold addSegment
  rw [percentEncode_of_isKept h.kept]
  dsimp only
  rw [h.notDouble, h.notSingle, if_neg Bool.false_ne_true, if_neg Bool.false_ne_true]

theorem endsSegment_iff {c : Char} :
    (c = '/' ∨ (c = '\\' ∧ SchemeKind.web.isSpecial = true)) ↔ isSlash c = true := by
  simp [isSlash, SchemeKind.isSpecial]

/-! ### Paths -/

/-- A path as reading leaves it under a web scheme: there always is a segment. -/
structure IsPath (segments : List String) : Prop where
  /-- There is a segment. -/
  ne_nil : segments ≠ []
  /-- Each is one as reading leaves it. -/
  segment : ∀ s ∈ segments, IsSegment s.toList

theorem isSegment_of_mem_walkFrom {done : List (List Char)} {current cs : List Char}
    (hdone : ∀ s ∈ done, IsSegment s) (hcurrent : ∀ c ∈ current, isSlash c = false) :
    ∀ s ∈ (walkFrom .web done current cs).1, IsSegment s := by
  have hreverse {cs : List Char} (h : ∀ c ∈ cs, isSlash c = false) :
      ∀ c ∈ cs.reverse, isSlash c = false := fun c hc => h c (List.mem_reverse.1 hc)
  induction cs generalizing done current with
  | nil => exact isSegment_of_mem_addSegment hdone (hreverse hcurrent) false
  | cons c cs ih =>
    rw [walkFrom]
    by_cases hc : isSlash c = true
    · rw [if_pos (endsSegment_iff.2 hc)]
      exact ih (isSegment_of_mem_addSegment hdone (hreverse hcurrent) true)
        (List.forall_mem_nil _)
    · rw [if_neg (endsSegment_iff.not.2 hc)]
      split
      · exact isSegment_of_mem_addSegment hdone (hreverse hcurrent) false
      · exact ih hdone (List.forall_mem_cons.2 ⟨by simpa using hc, hcurrent⟩)

theorem walkFrom_ne_nil (done : List (List Char)) (current cs : List Char) :
    (walkFrom .web done current cs).1 ≠ [] := by
  have hadd (done : List (List Char)) (raw : List Char) : addSegment .web done raw false ≠ [] := by
    obtain ⟨d, -, h⟩ | ⟨s, -, h⟩ := addSegment_cases .web done raw <;> rw [h] <;> simp
  induction cs generalizing done current with
  | nil => exact hadd _ _
  | cons c cs ih =>
    rw [walkFrom]
    split
    · exact ih _ _
    · split
      · exact hadd _ _
      · exact ih _ _

/-- **Reading a path leaves segments.** -/
theorem isPath_walk {before : List String} (hbefore : ∀ s ∈ before, IsSegment s.toList)
    (cs : List Char) : IsPath (walk .web before cs).1 := by
  constructor
  · simp only [walk, ne_eq, List.map_eq_nil_iff, List.reverse_eq_nil_iff]
    exact walkFrom_ne_nil _ _ _
  · intro s hs
    simp only [walk, List.mem_map, List.mem_reverse] at hs
    obtain ⟨cs, hcs, rfl⟩ := hs
    rw [String.toList_ofList]
    refine isSegment_of_mem_walkFrom ?_ (List.forall_mem_nil _) cs hcs
    simpa using hbefore

theorem isPath_pathAfterAuthority (cs : List Char) : IsPath (pathAfterAuthority .web cs).1 := by
  have hwalk (cs : List Char) : IsPath (walk .web [] cs).1 := isPath_walk (List.forall_mem_nil _) cs
  unfold pathAfterAuthority
  split
  · exact hwalk _
  · rw [if_pos (show SchemeKind.web.isSpecial = true from rfl)]
    split
    · exact hwalk _
    · exact hwalk _
  · exact ⟨List.cons_ne_nil _ _, List.forall_mem_singleton.2 isSegment_nil⟩

/-! ### Written paths -/

/-- Segments, each behind a slash. -/
def pathChars (segments : List String) : List Char := segments.flatMap fun s => '/' :: s.toList

@[simp] theorem pathChars_nil : pathChars [] = [] := rfl

@[simp] theorem pathChars_cons (s : String) (segments : List String) :
    pathChars (s :: segments) = '/' :: (s.toList ++ pathChars segments) := rfl

@[simp] theorem pathChars_append (segments others : List String) :
    pathChars (segments ++ others) = pathChars segments ++ pathChars others :=
  List.flatMap_append

theorem toList_text_rooted (segments : List String) :
    (Path.rooted segments).text.toList = pathChars segments := by
  rw [Path.text, String.toList_join, List.flatMap_map, pathChars]
  congr 1
  funext s
  rw [String.toList_append]
  rfl

/-- Nothing, or the query or the fragment. -/
def EndsPath (cs : List Char) : Prop := ∀ c ∈ cs.head?, c = '?' ∨ c = '#'

theorem endsPath_nil : EndsPath [] := by simp [EndsPath]

/-- Without a path there is one empty segment. -/
theorem pathAfterAuthority_of_endsPath {rest : List Char} (hrest : EndsPath rest) :
    pathAfterAuthority .web rest = ([""], rest) := by
  cases rest with
  | nil => rfl
  | cons c rest =>
    have hc : c = '?' ∨ c = '#' := hrest c rfl
    obtain rfl | rfl := hc <;> rfl

/-- Written segments are read again behind a slash. -/
theorem walkFrom_pathChars {s : String} {segments : List String} (hs : IsSegment s.toList)
    (hsegments : ∀ s ∈ segments, IsSegment s.toList) {rest : List Char} (hrest : EndsPath rest)
    (done : List (List Char)) :
    walkFrom .web done [] (s.toList ++ (pathChars segments ++ rest)) =
      ((segments.map String.toList).reverse ++ s.toList :: done, rest) := by
  have hends {s : List Char} (h : IsSegment s) :
      ∀ c ∈ s, c ≠ '/' ∧ c ≠ '\\' ∧ c ≠ '?' ∧ c ≠ '#' := by
    intro c hc
    have hinner := h.inner c hc
    have hkept := (isKept_iff.1 (h.kept c hc)).1
    simp only [isSlash, Bool.or_eq_false_iff, beq_eq_false_iff_ne] at hinner
    refine ⟨hinner.1, hinner.2, ?_, ?_⟩
    all_goals
      rintro rfl
      exact absurd hkept (by decide)
  induction segments generalizing s done with
  | nil =>
    rw [walkFrom_skip (hends hs), List.append_nil, pathChars_nil, List.nil_append]
    cases rest with
    | nil =>
      rw [walkFrom, List.reverse_reverse, addSegment_of_isSegment hs]
      rfl
    | cons c rest =>
      have hc : c = '?' ∨ c = '#' := hrest c rfl
      have hslash : ¬ (c = '/' ∨ (c = '\\' ∧ SchemeKind.web.isSpecial = true)) := by
        obtain rfl | rfl := hc <;> decide
      rw [walkFrom, if_neg hslash, if_pos hc, List.reverse_reverse, addSegment_of_isSegment hs]
      rfl
  | cons t segments ih =>
    obtain ⟨ht, hsegments⟩ := List.forall_mem_cons.1 hsegments
    rw [walkFrom_skip (hends hs), List.append_nil, pathChars_cons, List.cons_append, walkFrom_slash,
      List.reverse_reverse, addSegment_of_isSegment hs, List.append_assoc, ih ht hsegments]
    simp

/-- **Written segments are read again.** -/
theorem pathAfterAuthority_pathChars {segments : List String} (h : IsPath segments)
    {rest : List Char} (hrest : EndsPath rest) :
    pathAfterAuthority .web (pathChars segments ++ rest) = (segments, rest) := by
  obtain ⟨s, segments, rfl⟩ := List.exists_cons_of_ne_nil h.ne_nil
  obtain ⟨hs, hsegments⟩ := List.forall_mem_cons.1 h.segment
  rw [pathChars_cons, List.cons_append, pathAfterAuthority, List.append_assoc, walk, List.map_nil,
    List.reverse_nil, walkFrom_pathChars hs hsegments hrest]
  simp [Function.comp_def]

/-- Segments without the empty ones at the end. -/
def trimmed (segments : List String) : List String := segments.rdropWhile (· == "")

/-- Dropping the slashes at the end drops the empty segments there. -/
theorem rdropWhile_pathChars {front : List Char} (hfront : ∀ c ∈ front.getLast?, c ≠ '/')
    {segments : List String} (h : ∀ s ∈ segments, IsSegment s.toList) :
    (front ++ pathChars segments).rdropWhile (· == '/') = front ++ pathChars (trimmed segments) := by
  have hkeep {cs : List Char} (hcs : ∀ c ∈ cs.getLast?, c ≠ '/') :
      cs.rdropWhile (· == '/') = cs := by
    rcases List.eq_nil_or_concat' cs with rfl | ⟨cs, c, rfl⟩
    · rfl
    · have hc : c ≠ '/' := hcs c (by simp)
      exact List.rdropWhile_concat_neg (· == '/') cs c (by simpa using hc)
  induction segments using List.reverseRecOn with
  | nil => rw [trimmed, List.rdropWhile_nil, pathChars_nil, List.append_nil, hkeep hfront]
  | append_singleton segments s ih =>
    have hs : IsSegment s.toList := h s (by simp)
    rw [trimmed, List.rdropWhile_concat, pathChars_append, pathChars_cons, pathChars_nil,
      List.append_nil]
    by_cases hempty : s = ""
    · rw [if_pos (by simpa using hempty), hempty, ← List.append_assoc, String.toList_empty,
        List.rdropWhile_concat_pos _ _ _ rfl, ih fun t ht => h t (by simp [ht]), trimmed]
    · rw [if_neg (by simpa using hempty), hkeep]
      · simp
      · -- the last character is one of the segment
        have hne : s.toList ≠ [] := by simpa using hempty
        intro c hc
        rw [List.getLast?_append, List.getLast?_append, List.getLast?_cons,
          List.getLast?_eq_some_getLast hne] at hc
        obtain rfl : s.toList.getLast hne = c := by simpa using hc
        intro hslash
        have hinner := hs.inner _ (List.getLast_mem hne)
        rw [hslash] at hinner
        cases hinner

end SignIn.Url
