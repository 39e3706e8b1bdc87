import SignIn.Proofs.Json.LocalScan

/-!
# Reading values is local

Walks over lists and objects are local if their steps are, and so are the values and records that
are read by such walks.  What separates the parts of a container is described first, since that is
all there is to know about it.

A walk that may take more turns comes to the same: its bound only matters where it fails.

## Main definitions

* `Separates`, `Marks` — what stands before a part of a container, and before a mark.
* `Follows` — whatever one reading gives, another one gives too, up to a relation.
* `Skips` — the walk over the parts of a container that nobody asked for.

## Main results

* `nextElement_eq_true_iff`, `nextName_eq_some_iff`, `colon_eq_ok_iff` — separators.
* `foldElements_follows`, `foldMembers_follows` — walks from states that are related.
* `local_skipValue`, `local_anyValue` — values.
* `Layout.local_record` — records whose fields are read locally.
-/

namespace SignIn.Json

open SignIn.Text

variable {α β σ : Type}

/-! ### Separators -/

theorem skipBlanks_eq_cons_iff {bs rest : Bytes} {b : UInt8} :
    skipBlanks bs = b :: rest ↔
      isBlankByte b = false ∧ ∃ gap, IsGap gap ∧ bs = gap ++ b :: rest := by
  constructor
  · intro h
    refine ⟨isBlankByte_of_skipBlanks h, bs.takeWhile isBlankByte,
      List.all_eq_true.1 List.all_takeWhile, ?_⟩
    rw [← h]
    exact List.takeWhile_append_dropWhile.symm
  · rintro ⟨hb, gap, hgap, rfl⟩
    exact skipBlanks_gap hgap hb rest

/-- What stands before the first part of a container, or before another one. -/
def Separates (first : Bool) (front : Bytes) : Prop :=
  if first then IsGap front
  else ∃ gap gap', IsGap gap ∧ IsGap gap' ∧ front = gap ++ 0x2C :: gap'

/-- Another element stands behind what separates it from the one before. -/
theorem nextElement_eq_true_iff {first : Bool} {bs rest : Bytes} :
    nextElement first bs = .ok (true, rest) ↔
      ∃ front b tail, Separates first front ∧ isBlankByte b = false ∧ b ≠ 0x5D ∧
        rest = b :: tail ∧ bs = front ++ rest := by
  constructor
  · intro h
    unfold nextElement at h
    split at h
    · cases h
    rename_i b tail hskip
    obtain ⟨hb, gap, hgap, rfl⟩ := skipBlanks_eq_cons_iff.1 hskip
    split at h
    · cases h
    rename_i hclose
    split at h
    · rename_i hfirst
      obtain ⟨-, rfl⟩ := Prod.mk.inj (Except.ok.inj h)
      exact ⟨gap, b, tail, by rwa [Separates, if_pos hfirst], hb, hclose, rfl, rfl⟩
    rename_i hfirst
    split at h
    · rename_i hcomma
      split at h
      · cases h
      rename_i c tail' hskip'
      obtain ⟨hc, gap', hgap', rfl⟩ := skipBlanks_eq_cons_iff.1 hskip'
      split at h
      · cases h
      rename_i hend
      obtain ⟨-, rfl⟩ := Prod.mk.inj (Except.ok.inj h)
      refine ⟨gap ++ 0x2C :: gap', c, tail', ?_, hc, hend, rfl, by simp [hcomma]⟩
      rw [Separates, if_neg hfirst]
      exact ⟨gap, gap', hgap, hgap', rfl⟩
    · cases h
  · rintro ⟨front, b, tail, hfront, hb, hclose, rfl, rfl⟩
    cases first with
    | true =>
      rw [Separates, if_pos rfl] at hfront
      rw [nextElement, skipBlanks_gap hfront hb]
      dsimp only
      rw [if_neg hclose, if_pos rfl]
    | false =>
      rw [Separates, if_neg Bool.false_ne_true] at hfront
      obtain ⟨gap, gap', hgap, hgap', rfl⟩ := hfront
      rw [nextElement, List.append_assoc, List.cons_append, skipBlanks_gap hgap (by decide)]
      dsimp only
      rw [if_neg (by decide), if_neg Bool.false_ne_true, if_pos rfl, skipBlanks_gap hgap' hb]
      dsimp only
      rw [if_neg hclose]

theorem nextElement_eq_false_iff {first : Bool} {bs rest : Bytes} :
    nextElement first bs = .ok (false, rest) ↔
      ∃ gap tail, IsGap gap ∧ rest = 0x5D :: tail ∧ bs = gap ++ rest := by
  constructor
  · intro h
    unfold nextElement at h
    split at h
    · cases h
    rename_i b tail hskip
    obtain ⟨hb, gap, hgap, rfl⟩ := skipBlanks_eq_cons_iff.1 hskip
    split at h
    · rename_i hclose
      obtain ⟨-, rfl⟩ := Prod.mk.inj (Except.ok.inj h)
      exact ⟨gap, tail, hgap, by rw [hclose], rfl⟩
    · repeat' split at h
      all_goals cases h
  · rintro ⟨gap, tail, hgap, rfl, rfl⟩
    rw [nextElement, skipBlanks_gap hgap (by decide)]
    dsimp only
    rw [if_pos rfl]

/-- Behind what separates it from the member before, a name starts with a quote. -/
theorem nextName_quote {first : Bool} {front : Bytes} (hfront : Separates first front)
    (text : Bytes) :
    nextName first (front ++ 0x22 :: text) = (string text).map fun p => (some p.1, p.2) := by
  cases first with
  | true =>
    rw [Separates, if_pos rfl] at hfront
    rw [nextName, skipBlanks_gap hfront (by decide)]
    dsimp only
    rw [if_neg (by decide), if_pos rfl, if_pos rfl]
  | false =>
    rw [Separates, if_neg Bool.false_ne_true] at hfront
    obtain ⟨gap, gap', hgap, hgap', rfl⟩ := hfront
    rw [nextName, List.append_assoc, List.cons_append, skipBlanks_gap hgap (by decide)]
    dsimp only
    rw [if_neg (by decide), if_neg Bool.false_ne_true, if_pos rfl,
      skipBlanks_gap hgap' (by decide)]
    dsimp only
    rw [if_pos rfl]

/-- Another name stands behind what separates it from the member before. -/
theorem nextName_eq_some_iff {first : Bool} {bs rest : Bytes} {name : String} :
    nextName first bs = .ok (some name, rest) ↔
      ∃ front text, Separates first front ∧ string text = .ok (name, rest) ∧
        bs = front ++ 0x22 :: text := by
  have hname {r : Except Fault (String × Bytes)} :
      (r.map fun p => (some p.1, p.2)) = .ok (some name, rest) ↔ r = .ok (name, rest) := by
    cases r <;> simp [Except.map, Prod.ext_iff]
  constructor
  · intro h
    unfold nextName at h
    split at h
    · cases h
    rename_i b tail hskip
    obtain ⟨hb, gap, hgap, rfl⟩ := skipBlanks_eq_cons_iff.1 hskip
    split at h
    · cases h
    split at h
    · rename_i hfirst
      split at h
      · rename_i hquote
        exact ⟨gap, tail, by rwa [Separates, if_pos hfirst], hname.1 h, by rw [hquote]⟩
      · cases h
    rename_i hfirst
    split at h
    · rename_i hcomma
      split at h
      · cases h
      rename_i c tail' hskip'
      obtain ⟨hc, gap', hgap', rfl⟩ := skipBlanks_eq_cons_iff.1 hskip'
      split at h
      · rename_i hquote
        refine ⟨gap ++ 0x2C :: gap', tail', ?_, hname.1 h, by simp [hcomma, hquote]⟩
        rw [Separates, if_neg hfirst]
        exact ⟨gap, gap', hgap, hgap', rfl⟩
      · split at h <;> cases h
    · cases h
  · rintro ⟨front, text, hfront, hstring, rfl⟩
    rw [nextName_quote hfront]
    exact hname.2 hstring

theorem nextName_eq_none_iff {first : Bool} {bs rest : Bytes} :
    nextName first bs = .ok (none, rest) ↔
      ∃ gap tail, IsGap gap ∧ rest = 0x7D :: tail ∧ bs = gap ++ rest := by
  have hname {r : Except Fault (String × Bytes)} :
      (r.map fun p => (some p.1, p.2)) ≠ .ok (none, rest) := by
    cases r <;> simp [Except.map]
  constructor
  · intro h
    unfold nextName at h
    split at h
    · cases h
    rename_i b tail hskip
    obtain ⟨hb, gap, hgap, rfl⟩ := skipBlanks_eq_cons_iff.1 hskip
    split at h
    · rename_i hclose
      obtain ⟨-, rfl⟩ := Prod.mk.inj (Except.ok.inj h)
      exact ⟨gap, tail, hgap, by rw [hclose], rfl⟩
    · -- anything else is a name or a fault
      repeat' split at h
      all_goals first | cases h | exact (hname h).elim
  · rintro ⟨gap, tail, hgap, rfl, rfl⟩
    rw [nextName, skipBlanks_gap hgap (by decide)]
    dsimp only
    rw [if_pos rfl]

/-- Nothing but blanks stands before a mark. -/
def Marks (b : UInt8) (bs rest : Bytes) : Prop := ∃ gap, IsGap gap ∧ bs = gap ++ b :: rest

theorem marks_iff {b : UInt8} (hb : isBlankByte b = false) {bs rest : Bytes} :
    Marks b bs rest ↔ skipBlanks bs = b :: rest := by
  rw [skipBlanks_eq_cons_iff, and_iff_right hb]
  rfl

theorem colon_eq_ok_iff {bs rest : Bytes} : colon bs = .ok rest ↔ Marks 0x3A bs rest := by
  rw [marks_iff (by decide), colon]
  split
  · simp_all
  · split <;> simp_all

theorem closeList_eq_ok_iff {bs rest : Bytes} : closeList bs = .ok rest ↔ Marks 0x5D bs rest := by
  rw [marks_iff (by decide), closeList]
  dsimp only
  repeat' split
  all_goals simp_all

theorem closeObject_eq_ok_iff {bs rest : Bytes} :
    closeObject bs = .ok rest ↔ Marks 0x7D bs rest := by
  rw [marks_iff (by decide), closeObject]
  repeat' split
  all_goals simp_all

/-! ### Separators are local -/

theorem local_marks (b : UInt8) : Local (Marks b) := by
  rintro _ rest ⟨gap, hgap, rfl⟩
  refine ⟨gap ++ [b], by simp, fun rest' _ => ⟨gap, hgap, by simp⟩⟩

theorem local_colon : LocalPass colon := (local_marks 0x3A).congr fun _ _ => colon_eq_ok_iff

theorem local_nextElement (first : Bool) : LocalRead (nextElement first) := by
  intro more bs rest h
  cases more with
  | true =>
    obtain ⟨front, b, tail, hfront, hb, hclose, rfl, rfl⟩ := nextElement_eq_true_iff.1 h
    refine ⟨front, rfl, fun rest' hr => ?_⟩
    obtain ⟨tail', rfl⟩ := hr.exists_cons
    exact nextElement_eq_true_iff.2 ⟨front, b, tail', hfront, hb, hclose, rfl, rfl⟩
  | false =>
    obtain ⟨gap, tail, hgap, rfl, rfl⟩ := nextElement_eq_false_iff.1 h
    refine ⟨gap, rfl, fun rest' hr => ?_⟩
    obtain ⟨tail', rfl⟩ := hr.exists_cons
    exact nextElement_eq_false_iff.2 ⟨gap, tail', hgap, rfl, rfl⟩

theorem local_nextName (first : Bool) : LocalRead (nextName first) := by
  intro name bs rest h
  cases name with
  | some name =>
    obtain ⟨front, text, hfront, hstring, rfl⟩ := nextName_eq_some_iff.1 h
    have hlocal := (local_string name text rest hstring).append
      (P := fun bs rest => nextName first bs = .ok (some name, rest)) (front ++ [0x22])
      fun bs rest hbs => nextName_eq_some_iff.2 ⟨front, bs, hfront, hbs, by simp⟩
    rwa [List.append_assoc] at hlocal
  | none =>
    obtain ⟨gap, tail, hgap, rfl, rfl⟩ := nextName_eq_none_iff.1 h
    refine ⟨gap, rfl, fun rest' hr => ?_⟩
    obtain ⟨tail', rfl⟩ := hr.exists_cons
    exact nextName_eq_none_iff.2 ⟨gap, tail', hgap, rfl, rfl⟩

theorem settleList_eq_ok_iff {r : Except Fault (α × Bytes)} {a : α} {rest : Bytes} :
    settleList r = .ok (a, rest) ↔ ∃ mid, r = .ok (a, mid) ∧ closeList mid = .ok rest := by
  rcases r with f | ⟨a', mid⟩
  · cases f <;> simp [settleList]
  · simp [settleList, map_eq_ok_iff, and_comm]

theorem settleObject_eq_ok_iff {r : Except Fault (α × Bytes)} {a : α} {rest : Bytes} :
    settleObject r = .ok (a, rest) ↔ ∃ mid, r = .ok (a, mid) ∧ closeObject mid = .ok rest := by
  rcases r with f | ⟨a', mid⟩
  · cases f <;> simp [settleObject]
  · simp [settleObject, map_eq_ok_iff, and_comm]

section

variable {r : Bytes → Except Fault (α × Bytes)}

theorem LocalRead.settleList (hr : LocalRead r) : LocalRead fun bs => settleList (r bs) :=
  fun a => ((hr a).comp (local_marks 0x5D)).congr fun _ _ => by
    simp only [settleList_eq_ok_iff, closeList_eq_ok_iff]

theorem LocalRead.settleObject (hr : LocalRead r) : LocalRead fun bs => settleObject (r bs) :=
  fun a => ((hr a).comp (local_marks 0x7D)).congr fun _ _ => by
    simp only [settleObject_eq_ok_iff, closeObject_eq_ok_iff]

end

/-! ### Walks -/

/-- A walk over a list takes the element that comes next. -/
theorem foldElements_of_next {step : σ → Bytes → Except Fault (σ × Bytes)} {first : Bool}
    {bs mid : Bytes} (h : nextElement first bs = .ok (true, mid)) (n : Nat) (s : σ) :
    foldElements step (n + 1) first s bs =
      step s mid >>= fun r => foldElements step n false r.1 r.2 := by
  rw [foldElements, h]
  rfl

/-- A walk over an object takes the member that comes next. -/
theorem foldMembers_of_next {step : σ → String → Bytes → Except Fault (σ × Bytes)} {first : Bool}
    {bs mid : Bytes} {name : String} (h : nextName first bs = .ok (some name, mid)) (n : Nat)
    (s : σ) :
    foldMembers step (n + 1) first s bs =
      step s name mid >>= fun r => foldMembers step n false r.1 r.2 := by
  rw [foldMembers, h]
  rfl

/-- A walk over a list ends before its bracket. -/
theorem foldElements_close {step : σ → Bytes → Except Fault (σ × Bytes)} {gap : Bytes}
    (hgap : IsGap gap) {n : Nat} (hn : 0 < n) (first : Bool) (s : σ) (rest : Bytes) :
    foldElements step n first s (gap ++ [0x5D] ++ rest) = .ok (s, 0x5D :: rest) := by
  obtain ⟨n, rfl⟩ := Nat.exists_eq_succ_of_ne_zero (Nat.ne_of_gt hn)
  have hnext : nextElement first (gap ++ [0x5D] ++ rest) = .ok (false, 0x5D :: rest) :=
    nextElement_eq_false_iff.2 ⟨gap, rest, hgap, rfl, by simp⟩
  rw [foldElements, hnext]
  rfl

/-- A walk over an object ends before its bracket. -/
theorem foldMembers_close {step : σ → String → Bytes → Except Fault (σ × Bytes)} {gap : Bytes}
    (hgap : IsGap gap) {n : Nat} (hn : 0 < n) (first : Bool) (s : σ) (rest : Bytes) :
    foldMembers step n first s (gap ++ [0x7D] ++ rest) = .ok (s, 0x7D :: rest) := by
  obtain ⟨n, rfl⟩ := Nat.exists_eq_succ_of_ne_zero (Nat.ne_of_gt hn)
  have hnext : nextName first (gap ++ [0x7D] ++ rest) = .ok (none, 0x7D :: rest) :=
    nextName_eq_none_iff.2 ⟨gap, rest, hgap, rfl, by simp⟩
  rw [foldMembers, hnext]
  rfl

/-- Whatever the first reading gives, the second one gives too, up to a relation. -/
def Follows (R : α → α → Prop) (x x' : Except Fault (α × Bytes)) : Prop :=
  ∀ a rest, x = .ok (a, rest) → ∃ a', R a a' ∧ x' = .ok (a', rest)

section

variable {R : σ → σ → Prop}

/-- A walk that may take more turns comes to the same, up to a relation that its steps keep. -/
theorem foldElements_follows {step : σ → Bytes → Except Fault (σ × Bytes)}
    (hstep : ∀ s s' bs, R s s' → Follows R (step s bs) (step s' bs)) {m n : Nat} (hmn : m ≤ n)
    (first : Bool) {s s' : σ} (hs : R s s') (bs : Bytes) :
    Follows R (foldElements step m first s bs) (foldElements step n first s' bs) := by
  induction m generalizing n first s s' bs with
  | zero => exact nofun
  | succ m ih =>
    obtain ⟨n, rfl⟩ : ∃ k, n = k + 1 := ⟨n - 1, by omega⟩
    intro t rest h
    obtain ⟨⟨more, mid⟩, hnext, h⟩ := bind_eq_ok_iff.1 h
    rw [foldElements, hnext]
    cases more with
    | false =>
      obtain ⟨rfl, rfl⟩ := Prod.mk.inj (Except.ok.inj h)
      exact ⟨s', hs, rfl⟩
    | true =>
      obtain ⟨⟨s₁, bs₁⟩, hs₁, h⟩ := bind_eq_ok_iff.1 h
      obtain ⟨s₁', hR, hs₁'⟩ := hstep s s' mid hs s₁ bs₁ hs₁
      obtain ⟨t', ht, h'⟩ := ih (Nat.le_of_succ_le_succ hmn) false hR bs₁ t rest h
      refine ⟨t', ht, bind_eq_ok_iff.2 ⟨(true, mid), rfl, bind_eq_ok_iff.2 ⟨_, hs₁', h'⟩⟩⟩

theorem foldMembers_follows {step : σ → String → Bytes → Except Fault (σ × Bytes)}
    (hstep : ∀ s s' name bs, R s s' → Follows R (step s name bs) (step s' name bs)) {m n : Nat}
    (hmn : m ≤ n) (first : Bool) {s s' : σ} (hs : R s s') (bs : Bytes) :
    Follows R (foldMembers step m first s bs) (foldMembers step n first s' bs) := by
  induction m generalizing n first s s' bs with
  | zero => exact nofun
  | succ m ih =>
    obtain ⟨n, rfl⟩ : ∃ k, n = k + 1 := ⟨n - 1, by omega⟩
    intro t rest h
    obtain ⟨⟨name, mid⟩, hnext, h⟩ := bind_eq_ok_iff.1 h
    rw [foldMembers, hnext]
    cases name with
    | none =>
      obtain ⟨rfl, rfl⟩ := Prod.mk.inj (Except.ok.inj h)
      exact ⟨s', hs, rfl⟩
    | some name =>
      obtain ⟨⟨s₁, bs₁⟩, hs₁, h⟩ := bind_eq_ok_iff.1 h
      obtain ⟨s₁', hR, hs₁'⟩ := hstep s s' name mid hs s₁ bs₁ hs₁
      obtain ⟨t', ht, h'⟩ := ih (Nat.le_of_succ_le_succ hmn) false hR bs₁ t rest h
      refine ⟨t', ht, bind_eq_ok_iff.2 ⟨(some name, mid), rfl, bind_eq_ok_iff.2 ⟨_, hs₁', h'⟩⟩⟩

end

theorem Follows.refl (x : Except Fault (α × Bytes)) : Follows Eq x x := fun a _ h => ⟨a, rfl, h⟩

theorem foldElements_mono {step : σ → Bytes → Except Fault (σ × Bytes)} {m n : Nat} (hmn : m ≤ n)
    {first : Bool} {s t : σ} {bs rest : Bytes}
    (h : foldElements step m first s bs = .ok (t, rest)) :
    foldElements step n first s bs = .ok (t, rest) := by
  obtain ⟨_, rfl, h'⟩ := foldElements_follows (R := Eq)
    (fun _ _ _ hs => hs ▸ .refl _) hmn first rfl bs t rest h
  exact h'

theorem foldMembers_mono {step : σ → String → Bytes → Except Fault (σ × Bytes)} {m n : Nat}
    (hmn : m ≤ n) {first : Bool} {s t : σ} {bs rest : Bytes}
    (h : foldMembers step m first s bs = .ok (t, rest)) :
    foldMembers step n first s bs = .ok (t, rest) := by
  obtain ⟨_, rfl, h'⟩ := foldMembers_follows (R := Eq)
    (fun _ _ _ _ hs => hs ▸ .refl _) hmn first rfl bs t rest h
  exact h'

theorem local_foldElements {step : σ → Bytes → Except Fault (σ × Bytes)}
    (hstep : ∀ s, LocalRead (step s)) (s : σ) :
    LocalRead fun bs => foldElements step (bs.length + 1) true s bs := by
  have h (n : Nat) (first : Bool) (s : σ) : LocalRead (foldElements step n first s) := by
    induction n generalizing first s with
    | zero => exact fun _ => .of_not fun _ _ => nofun
    | succ n ih =>
      refine (local_nextElement first).bind fun more => ?_
      cases more with
      | true => exact (hstep s).bind fun s => ih false s
      | false => exact .ok s
  exact fun t => Local.of_length (fun n => h n true s t) fun _ _ _ _ hmn => foldElements_mono hmn

theorem local_foldMembers {step : σ → String → Bytes → Except Fault (σ × Bytes)}
    (hstep : ∀ s name, LocalRead (step s name)) (s : σ) :
    LocalRead fun bs => foldMembers step (bs.length + 1) true s bs := by
  have h (n : Nat) (first : Bool) (s : σ) : LocalRead (foldMembers step n first s) := by
    induction n generalizing first s with
    | zero => exact fun _ => .of_not fun _ _ => nofun
    | succ n ih =>
      refine (local_nextName first).bind fun name => ?_
      cases name with
      | some name => exact (hstep s name).bind fun s => ih false s
      | none => exact .ok s
  exact fun t => Local.of_length (fun n => h n true s t) fun _ _ _ _ hmn => foldMembers_mono hmn

/-! ### Values that nobody asked for -/

/-- The next part of a container stands here: the first one, or one behind a comma. -/
def Opens (close : UInt8) (first : Bool) (bs rest : Bytes) : Prop :=
  if first then skipBlanks bs = rest ∧ ∃ b ∈ rest.head?, b ≠ close
  else skipBlanks bs = 0x2C :: rest

/-- Parts of a container are passed, up to and with its closing bracket. -/
def Skips (close : UInt8) (part : Bytes → Except Fault Bytes) : Nat → Bool → Bytes → Bytes → Prop
  | 0, _, _, _ => False
  | n + 1, first, bs, rest => skipBlanks bs = close :: rest ∨
    ∃ mid, Opens close first bs mid ∧
      ∃ mid', part mid = .ok mid' ∧ Skips close part n false mid' rest

section

variable {skip skip' : Bytes → Except Fault Bytes}

theorem skipElements_eq_ok_iff {n : Nat} {first : Bool} {bs rest : Bytes} :
    skipElements skip n first bs = .ok rest ↔ Skips 0x5D skip n first bs rest := by
  induction n generalizing first bs with
  | zero => exact ⟨nofun, nofun⟩
  | succ n ih =>
    rw [skipElements, Skips]
    cases hskip : skipBlanks bs with
    | nil => cases first <;> simp [Opens, hskip]
    | cons b tail =>
      dsimp only
      by_cases hclose : b = 0x5D
      · cases first <;> simp [Opens, hskip, hclose]
      · cases first with
        | true => simp [Opens, hskip, hclose, bind_eq_ok_iff, ih]
        | false => by_cases hcomma : b = 0x2C <;>
            simp [Opens, hskip, hclose, hcomma, bind_eq_ok_iff, ih]

theorem skipMembers_eq_ok_iff {n : Nat} {first : Bool} {bs rest : Bytes} :
    skipMembers skip n first bs = .ok rest ↔
      Skips 0x7D (fun bs => skipName bs >>= skip) n first bs rest := by
  induction n generalizing first bs with
  | zero => exact ⟨nofun, nofun⟩
  | succ n ih =>
    have hmember (bs : Bytes) :
        (skipName bs >>= fun x => skip x >>= skipMembers skip n false) = .ok rest ↔
          ∃ mid, (skipName bs >>= skip) = .ok mid ∧
            Skips 0x7D (fun bs => skipName bs >>= skip) n false mid rest := by
      rw [← bind_assoc, bind_eq_ok_iff]
      simp only [ih]
    rw [skipMembers, Skips]
    cases hskip : skipBlanks bs with
    | nil => cases first <;> simp [Opens, hskip]
    | cons b tail =>
      dsimp only
      by_cases hclose : b = 0x7D
      · cases first <;> simp [Opens, hskip, hclose]
      · cases first with
        | true => simp [Opens, hskip, hclose, hmember]
        | false => by_cases hcomma : b = 0x2C <;> simp [Opens, hskip, hclose, hcomma, hmember]

end

/-- Passing more parts is possible with more turns. -/
theorem Skips.mono {close : UInt8} {part part' : Bytes → Except Fault Bytes}
    (hpart : ∀ bs rest, part bs = .ok rest → part' bs = .ok rest) {m n : Nat} (hmn : m ≤ n)
    {first : Bool} {bs rest : Bytes} (h : Skips close part m first bs rest) :
    Skips close part' n first bs rest := by
  induction m generalizing n first bs with
  | zero => exact h.elim
  | succ m ih =>
    obtain ⟨n, rfl⟩ : ∃ k, n = k + 1 := ⟨n - 1, by omega⟩
    refine h.imp_right fun ⟨mid, hopens, mid', hmid, hskips⟩ => ?_
    exact ⟨mid, hopens, mid', hpart mid mid' hmid, ih (Nat.le_of_succ_le_succ hmn) hskips⟩

theorem local_skipBlanks_cons {b : UInt8} (hb : isBlankByte b = false) :
    Local fun bs rest => skipBlanks bs = b :: rest :=
  (local_marks b).congr fun _ _ => (marks_iff hb).symm

theorem local_opens (close : UInt8) (first : Bool) : Local (Opens close first) := by
  cases first with
  | true =>
    refine ((local_dropWhile isBlankByte).comp
      (Local.eq.head fun h => ∃ b ∈ h, b ≠ close)).congr fun bs rest => ?_
    rw [Opens, if_pos rfl]
    exact ⟨fun ⟨h, hb⟩ => ⟨rest, h, hb, rfl⟩, fun ⟨_, h, hb, hrest⟩ => hrest ▸ ⟨h, hb⟩⟩
  | false =>
    exact (local_skipBlanks_cons (b := 0x2C) (by decide)).congr fun _ _ => by simp [Opens]

theorem local_skips {close : UInt8} (hclose : isBlankByte close = false)
    {part : Bytes → Except Fault Bytes} (hpart : LocalPass part) (n : Nat) (first : Bool) :
    Local (Skips close part n first) := by
  induction n generalizing first with
  | zero => exact .of_not fun _ _ => id
  | succ n ih =>
    exact (local_skipBlanks_cons hclose).of_or
      ((local_opens close first).comp (hpart.comp (ih false)))

theorem local_skipName : LocalPass skipName := by
  refine ((local_skipBlanks_cons (b := 0x22) (by decide)).comp
    (local_skipString.bind local_colon)).congr fun bs rest => ?_
  rw [skipName]
  cases hskip : skipBlanks bs with
  | nil => simp
  | cons b tail =>
    by_cases hb : b = 0x22 <;> simp [hb]

theorem skipNested_mono {m n : Nat} (hmn : m ≤ n) {bs rest : Bytes}
    (h : skipNested m bs = .ok rest) :
    skipNested n bs = .ok rest := by
  induction m generalizing n bs rest with
  | zero => cases h
  | succ m ih =>
    obtain ⟨n, rfl⟩ : ∃ k, n = k + 1 := ⟨n - 1, by omega⟩
    have hskip (bs rest : Bytes) : skipNested m bs = .ok rest → skipNested n bs = .ok rest :=
      ih (Nat.le_of_succ_le_succ hmn)
    rw [skipNested] at h ⊢
    split at h
    · cases h
    split_ifs at h ⊢
    iterate 6
      · exact h
    · exact skipElements_eq_ok_iff.2 ((skipElements_eq_ok_iff.1 h).mono hskip hmn)
    · refine skipMembers_eq_ok_iff.2 ((skipMembers_eq_ok_iff.1 h).mono (fun bs rest h => ?_) hmn)
      obtain ⟨mid, hname, h⟩ := bind_eq_ok_iff.1 h
      exact bind_eq_ok_iff.2 ⟨mid, hname, hskip mid rest h⟩

theorem isDigit_ne {b c : UInt8} (hb : isDigit b = true) (hc : isDigit c = false) : b ≠ c := by
  rintro rfl
  rw [hb] at hc
  cases hc

theorem local_skipNested (n : Nat) : LocalPass (skipNested n) := by
  induction n with
  | zero => exact .of_not fun _ _ => nofun
  | succ n ih =>
    refine Local.of_blanks (fun bs rest => ?_) (fun rest => nofun) fun b hb => ?_
    · rw [skipNested, skipNested, skipBlanks_skipBlanks]
    by_cases hdigit : isDigit b = true
    · refine .of_local local_skipNumber fun bs rest => ?_
      have hne {c : UInt8} (hc : isDigit c = false) : ¬ b = c := isDigit_ne hdigit hc
      simp only [skipNested, skipBlanks_of_not_blank hb]
      rw [if_neg (hne (by decide)), if_neg (hne (by decide)), if_neg (hne (by decide)),
        if_neg (hne (by decide)), if_pos hdigit]
    refine .of_tail ?_
    simp only [skipNested, skipBlanks_of_not_blank hb]
    split_ifs
    · exact local_word _
    · exact local_word _
    · exact local_word _
    · exact local_skipNumber
    · exact local_skipString
    · exact (local_skips (by decide) ih (n + 1) true).congr fun _ _ => skipElements_eq_ok_iff
    · exact (local_skips (by decide) (local_skipName.bind ih) (n + 1) true).congr
        fun _ _ => skipMembers_eq_ok_iff
    · exact .of_not fun _ _ => id

theorem local_skipValue : LocalPass skipValue :=
  Local.of_length (P := fun n bs rest => skipNested n bs = .ok rest) local_skipNested
    fun _ _ _ _ hmn => skipNested_mono hmn

/-! ### Values -/

theorem local_anyMember {value : Bytes → Except Fault (Value × Bytes)} (hvalue : LocalRead value)
    (ms : List (String × Value)) (name : String) : LocalRead (anyMember value ms name) :=
  local_colon.read (hvalue.bind fun v => .ok (put name v ms))

theorem local_anyElement {value : Bytes → Except Fault (Value × Bytes)} (hvalue : LocalRead value)
    (vs : List Value) : LocalRead (anyElement value vs) :=
  hvalue.bind fun v => .ok (v :: vs)

theorem local_anyValue (room : Nat) : LocalRead (anyValue room) := by
  induction room using Nat.strong_induction_on with | h room ih =>
  intro v
  refine Local.of_blanks (fun bs rest => ?_) (fun rest => ?_) fun b hb => ?_
  · rw [anyValue.eq_def room, anyValue.eq_def room, skipBlanks_skipBlanks]
  · rw [anyValue.eq_def]
    intro h
    cases h
  by_cases hdigit : isDigit b = true
  · have hnumber := (local_number false).map (f := fun p => (Value.number p.1, p.2)) fun _ _ => rfl
    refine .of_local (hnumber v) fun bs rest => ?_
    have hne {c : UInt8} (hc : isDigit c = false) : ¬ b = c := isDigit_ne hdigit hc
    simp only [anyValue.eq_def room, skipBlanks_of_not_blank hb]
    rw [if_neg (hne (by decide)), if_neg (hne (by decide)), if_neg (hne (by decide)),
      if_neg (hne (by decide)), if_pos hdigit]
  refine .of_tail ?_
  simp only [anyValue.eq_def room, skipBlanks_of_not_blank hb]
  split_ifs
  · exact (local_word _).map _ v
  · exact (local_word _).map _ v
  · exact (local_word _).map _ v
  · exact (local_number true).map (fun _ _ => rfl) v
  · exact local_string.map (fun _ _ => rfl) v
  · -- a list, if it may be opened
    cases room with
    | zero => exact .of_not fun _ _ h => by cases h
    | succ room =>
      exact (local_foldElements (local_anyElement (ih room (Nat.lt_succ_self room)))
        []).settleList.map (g := fun vs => .array vs.reverse) (fun _ _ => rfl) v
  · -- an object
    cases room with
    | zero => exact .of_not fun _ _ h => by cases h
    | succ room =>
      exact (local_foldMembers (local_anyMember (ih room (Nat.lt_succ_self room)))
        []).settleObject.map (g := .object) (fun _ _ => rfl) v
  · exact .of_not fun _ _ => id

theorem local_text (expected : String) (room : Nat) : LocalRead (textAs expected room) := by
  intro s
  refine ((local_skipBlanks_cons (b := 0x22) (by decide)).comp (local_string s)).congr
    fun bs rest => ?_
  rw [textAs]
  cases hskip : skipBlanks bs with
  | nil => simp
  | cons b tail => by_cases hb : b = 0x22 <;> simp [hb]

/-- A container may be opened if there is room for it. -/
theorem local_enter {b : UInt8} {inner : Nat → Bytes → Except Fault (α × Bytes)}
    (hinner : ∀ room, LocalRead (inner room)) (room : Nat) :
    LocalRead fun bs => enter room b bs fun room => inner room bs := by
  cases room with
  | zero => exact .error _
  | succ room => exact hinner room

theorem local_optional {value : Reader α} {room : Nat} (hvalue : LocalRead (value room)) :
    LocalRead (optional value room) := by
  intro o
  have hnull := ((local_word nullTail).map (none : Option α) o).cons 0x6E
  have hsome := (hvalue.map (f := fun p => (some p.1, p.2)) (fun _ _ => rfl) o).head
    (· ≠ some 0x6E)
  refine ((local_dropWhile isBlankByte).comp (hnull.of_or hsome)).congr fun bs rest => ?_
  rw [optional, ← skipBlanks]
  split
  · rename_i tail h
    simp [h]
  · rename_i h
    have hne : (skipBlanks bs).head? ≠ some 0x6E := by
      intro hhead
      obtain ⟨tail, htail⟩ := List.head?_eq_some_iff.1 hhead
      exact h tail htail
    have hno (tail : Bytes) : ¬ skipBlanks bs = 0x6E :: tail := h tail
    simp [hne, hno]

theorem local_list {item : Reader α} (hitem : ∀ room, LocalRead (item room)) (room : Nat) :
    LocalRead (list item room) := by
  intro xs
  refine Local.of_blanks (fun bs rest => ?_) (fun rest => nofun) fun b hb => .of_tail ?_
  · rw [list, list, skipBlanks_skipBlanks]
  simp only [list, skipBlanks_of_not_blank hb]
  split_ifs
  · refine local_enter (fun room => ?_) room xs
    exact (local_foldElements (fun xs => (hitem room).map (g := (· :: xs)) fun _ _ => rfl)
      []).settleList.map (g := List.reverse) fun _ _ => rfl
  · exact .of_not fun _ _ => id

namespace Layout

variable {layout : Layout σ α}

/-- The fields of a record are read locally. -/
def IsLocal (layout : Layout σ α) : Prop :=
  ∀ field ∈ layout.fields, ∀ draft room, LocalRead (field.read draft room)

theorem local_member (h : layout.IsLocal) (room : Nat) (draft : σ) (name : String) :
    LocalRead (layout.member room draft name) := by
  change LocalRead fun bs => layout.member room draft name bs
  cases hfield : layout.fields.find? (·.name == name) with
  | none =>
    simp only [member, hfield]
    exact local_colon.read (local_skipValue.read (.ok draft))
  | some field =>
    simp only [member, hfield]
    split
    · exact .error _
    · exact local_colon.read (h field (List.mem_of_find?_eq_some hfield) draft room)

theorem local_elements (room : Nat) {fields : List (Field σ)}
    (h : ∀ field ∈ fields, ∀ draft, LocalRead (field.read draft room)) (index : Nat)
    (first : Bool) (draft : σ) : LocalRead (layout.elements room fields index first draft) := by
  induction fields generalizing index first draft with
  | nil => exact .ok draft
  | cons field fields ih =>
    obtain ⟨hfield, hfields⟩ := List.forall_mem_cons.1 h
    refine (local_nextElement first).bind fun more => ?_
    cases more with
    | true => exact (hfield draft).bind fun draft => ih hfields (index + 1) false draft
    | false =>
      simp only [Bool.false_eq_true, if_false]
      split
      · exact ih hfields (index + 1) first draft
      · exact .error _

theorem local_made {r : Bytes → Except Fault (σ × Bytes)} (hr : LocalRead r) :
    LocalRead fun bs => layout.made (r bs) := by
  refine hr.bind fun draft => ?_
  cases hmake : layout.make draft with
  | ok a =>
    simp only [hmake]
    exact .ok a
  | error c =>
    simp only [hmake]
    exact .error _

theorem local_record (h : layout.IsLocal) (room : Nat) : LocalRead (layout.record room) := by
  intro a
  refine Local.of_blanks (fun bs rest => ?_) (fun rest => nofun) fun b hb => .of_tail ?_
  · rw [record, record, skipBlanks_skipBlanks]
  simp only [record, skipBlanks_of_not_blank hb]
  split_ifs
  · refine local_enter (fun room => ?_) room a
    exact (local_made (local_elements room (fun field hf draft => h field hf draft room) 0 true
      layout.empty)).settleList
  · refine local_enter (fun room => ?_) room a
    exact (local_made (local_foldMembers (local_member h room) layout.empty)).settleObject
  · exact .of_not fun _ _ => id

end Layout

end SignIn.Json
