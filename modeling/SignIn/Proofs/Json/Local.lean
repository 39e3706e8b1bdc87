import Mathlib.Data.List.DropRight
import SignIn.Proofs.Except
import SignIn.Proofs.Json.Written

/-!
# Reading is local

What a reader reads off the front of a text does not depend on what stands behind, but for the
byte that it looks at to see where the value ends.

A reader bounds its walks by the length of the text, so a longer text may stand behind as well, and
this is all that is needed here.

## Main definitions

* `Resumes` — a text that may take the place of another one.
* `Local` — something is read off the front of a text, whatever stands behind.

* `LocalRead`, `LocalPass` — the same for readers.

## Main results

* `Local.comp`, `Local.of_or`, `LocalRead.bind` — readers that are put together.
* `Local.of_heads`, `Local.of_blanks` — readers that look at the first byte.
* `Local.of_length` — walks.
-/

namespace SignIn.Json

open SignIn.Text

variable {α β : Type}

/-- A text that may take the place of another one behind what was read: it starts with the same
byte, and it is not shorter. -/
structure Resumes (rest rest' : Bytes) : Prop where
  /-- Both start with the same byte, if there is one. -/
  head : rest'.head? = rest.head?
  /-- The new one is not shorter. -/
  length : rest.length ≤ rest'.length

theorem Resumes.append {rest rest' : Bytes} (h : Resumes rest rest') (front : Bytes) :
    Resumes (front ++ rest) (front ++ rest') where
  head := by rw [List.head?_append, List.head?_append, h.head]
  length := by simpa using h.length

theorem Resumes.eq_nil {rest' : Bytes} (h : Resumes [] rest') : rest' = [] :=
  List.head?_eq_none_iff.1 h.head

theorem Resumes.exists_cons {b : UInt8} {rest rest' : Bytes} (h : Resumes (b :: rest) rest') :
    ∃ tail, rest' = b :: tail := by
  cases rest' with
  | nil => exact absurd h.head nofun
  | cons c tail => exact ⟨tail, by rw [Option.some.inj h.head]⟩

/-- Something is read off the front of this text up to a rest, whatever stands there. -/
def LocalOn (P : Bytes → Bytes → Prop) (bs rest : Bytes) : Prop :=
  ∃ front, bs = front ++ rest ∧ ∀ rest', Resumes rest rest' → P (front ++ rest') rest'

/-- The same for all texts. -/
def Local (P : Bytes → Bytes → Prop) : Prop := ∀ bs rest, P bs rest → LocalOn P bs rest

/-- The same for all texts that start with a byte. -/
def LocalAt (b : UInt8) (P : Bytes → Bytes → Prop) : Prop :=
  ∀ bs rest, P (b :: bs) rest → LocalOn P (b :: bs) rest

/-- A reader is local. -/
abbrev LocalRead (r : Bytes → Except Fault (α × Bytes)) : Prop :=
  ∀ a, Local fun bs rest => r bs = .ok (a, rest)

/-- A reader that only passes something is local. -/
abbrev LocalPass (p : Bytes → Except Fault Bytes) : Prop :=
  Local fun bs rest => p bs = .ok rest

/-! ### Putting readers together -/

section

variable {P Q : Bytes → Bytes → Prop}

/-- Some bytes are passed first. -/
theorem LocalOn.append {bs rest : Bytes} (h : LocalOn Q bs rest) (front : Bytes)
    (himp : ∀ bs rest, Q bs rest → P (front ++ bs) rest) : LocalOn P (front ++ bs) rest := by
  obtain ⟨front', rfl, hrest⟩ := h
  refine ⟨front ++ front', (List.append_assoc ..).symm, fun rest' hr => ?_⟩
  rw [List.append_assoc]
  exact himp _ _ (hrest rest' hr)

namespace Local

theorem of_not (h : ∀ bs rest, ¬ P bs rest) : Local P :=
  fun bs rest hP => (h bs rest hP).elim

theorem congr (hQ : Local Q) (h : ∀ bs rest, P bs rest ↔ Q bs rest) : Local P := by
  intro bs rest hP
  obtain ⟨front, hbs, hrest⟩ := hQ bs rest ((h bs rest).1 hP)
  exact ⟨front, hbs, fun rest' hr => (h _ _).2 (hrest rest' hr)⟩

/-- Nothing is read. -/
protected theorem eq : Local Eq := by
  rintro bs _ rfl
  exact ⟨[], rfl, fun rest' _ => rfl⟩

/-- One thing is read after the other. -/
theorem comp (hP : Local P) (hQ : Local Q) :
    Local fun bs rest => ∃ mid, P bs mid ∧ Q mid rest := by
  rintro bs rest ⟨mid, hp, hq⟩
  obtain ⟨front, rfl, hmid⟩ := hP bs mid hp
  obtain ⟨front', rfl, hrest⟩ := hQ mid rest hq
  refine ⟨front ++ front', by simp, fun rest' hr => ⟨front' ++ rest', ?_, hrest rest' hr⟩⟩
  rw [List.append_assoc]
  exact hmid _ (hr.append front')

theorem of_exists {ι : Type} {P : ι → Bytes → Bytes → Prop} (h : ∀ i, Local (P i)) :
    Local fun bs rest => ∃ i, P i bs rest := by
  rintro bs rest ⟨i, hi⟩
  obtain ⟨front, hbs, hrest⟩ := h i bs rest hi
  exact ⟨front, hbs, fun rest' hr => ⟨i, hrest rest' hr⟩⟩

theorem of_and {c : Prop} (h : c → Local P) : Local fun bs rest => c ∧ P bs rest := by
  rintro bs rest ⟨hc, hP⟩
  obtain ⟨front, hbs, hrest⟩ := h hc bs rest hP
  exact ⟨front, hbs, fun rest' hr => ⟨hc, hrest rest' hr⟩⟩

/-- The first byte may be looked at. -/
theorem head (h : Local P) (q : Option UInt8 → Prop) :
    Local fun bs rest => q bs.head? ∧ P bs rest := by
  rintro bs rest ⟨hq, hP⟩
  obtain ⟨front, rfl, hrest⟩ := h bs rest hP
  refine ⟨front, rfl, fun rest' hr => ⟨?_, hrest rest' hr⟩⟩
  rwa [(hr.append front).head]

theorem of_or (hP : Local P) (hQ : Local Q) : Local fun bs rest => P bs rest ∨ Q bs rest := by
  rintro bs rest (h | h)
  · obtain ⟨front, hbs, hrest⟩ := hP bs rest h
    exact ⟨front, hbs, fun rest' hr => .inl (hrest rest' hr)⟩
  · obtain ⟨front, hbs, hrest⟩ := hQ bs rest h
    exact ⟨front, hbs, fun rest' hr => .inr (hrest rest' hr)⟩

/-- A byte is read first. -/
theorem cons (hQ : Local Q) (b : UInt8) :
    Local fun bs rest => ∃ tail, bs = b :: tail ∧ Q tail rest := by
  rintro bs rest ⟨tail, rfl, hq⟩
  exact (hQ tail rest hq).append [b] fun bs rest hq => ⟨bs, rfl, hq⟩

/-- It is enough to look at the first byte, and at a text that is empty. -/
theorem of_heads (hnil : ∀ rest, P [] rest → rest = []) (hcons : ∀ b, LocalAt b P) : Local P := by
  intro bs rest h
  cases bs with
  | nil =>
    obtain rfl := hnil rest h
    exact ⟨[], rfl, fun rest' hr => by rwa [hr.eq_nil]⟩
  | cons b bs => exact hcons b bs rest h

/-- A walk may be bounded by the length of the text. -/
theorem of_length {P : Nat → Bytes → Bytes → Prop} (h : ∀ n, Local (P n))
    (hmono : ∀ m n bs rest, m ≤ n → P m bs rest → P n bs rest) :
    Local fun bs rest => P (bs.length + 1) bs rest := by
  intro bs rest hP
  obtain ⟨front, rfl, hrest⟩ := h _ bs rest hP
  refine ⟨front, rfl, fun rest' hr => hmono _ _ _ _ ?_ (hrest rest' hr)⟩
  have := hr.length
  simp only [List.length_append]
  omega

end Local

namespace LocalAt

/-- The first byte is read. -/
theorem of_tail {b : UInt8} (h : Local fun bs rest => P (b :: bs) rest) : LocalAt b P :=
  fun bs rest hP => (h bs rest hP).append [b] fun _ _ => id

/-- The first byte is only looked at. -/
theorem of_local {b : UInt8} (h : Local Q) (hiff : ∀ bs rest, P (b :: bs) rest ↔ Q (b :: bs) rest) :
    LocalAt b P := by
  intro bs rest hP
  obtain ⟨front, hbs, hrest⟩ := h (b :: bs) rest ((hiff bs rest).1 hP)
  refine ⟨front, hbs, fun rest' hr => ?_⟩
  have hQ := hrest rest' hr
  -- the new text starts with the same byte
  obtain ⟨tail, htail⟩ : ∃ tail, front ++ rest' = b :: tail :=
    Resumes.exists_cons (hbs ▸ hr.append front)
  rw [htail] at hQ ⊢
  exact (hiff tail rest').2 hQ

theorem of_not {b : UInt8} (h : ∀ bs rest, ¬ P (b :: bs) rest) : LocalAt b P :=
  fun bs rest hP => (h bs rest hP).elim

end LocalAt

end

section

variable {r : Bytes → Except Fault (α × Bytes)} {p q : Bytes → Except Fault Bytes}

theorem LocalRead.ok (a : α) : LocalRead fun bs => .ok (a, bs) := by
  intro a'
  refine (Local.of_and fun _ : a = a' => Local.eq).congr fun bs rest => ?_
  rw [Except.ok.injEq, Prod.mk.injEq]

theorem LocalRead.error (f : Bytes → Fault) :
    LocalRead fun bs => (.error (f bs) : Except Fault (α × Bytes)) :=
  fun _ => .of_not fun _ _ => nofun

theorem LocalPass.error (f : Bytes → Fault) : LocalPass fun bs => .error (f bs) :=
  .of_not fun _ _ => nofun

theorem LocalRead.bind (hr : LocalRead r) {f : α × Bytes → Except Fault (β × Bytes)}
    (hf : ∀ a, LocalRead fun bs => f (a, bs)) : LocalRead fun bs => r bs >>= f := by
  intro b
  refine (Local.of_exists fun a => (hr a).comp (hf a b)).congr fun bs rest => ?_
  rw [bind_eq_ok_iff, Prod.exists]

theorem LocalRead.map (hr : LocalRead r) {f : α × Bytes → β × Bytes} {g : α → β}
    (hf : ∀ a bs, f (a, bs) = (g a, bs)) : LocalRead fun bs => (r bs).map f := by
  intro b
  refine (Local.of_exists fun a => Local.of_and fun _ : g a = b => hr a).congr fun bs rest => ?_
  simp only [map_eq_ok_iff, Prod.exists, hf, Prod.mk.injEq]
  constructor
  · rintro ⟨a, mid, h, hb, rfl⟩
    exact ⟨a, hb, h⟩
  · rintro ⟨a, hb, h⟩
    exact ⟨a, rest, h, hb, rfl⟩

theorem LocalPass.map (hp : LocalPass p) (a : α) : LocalRead fun bs => (p bs).map (a, ·) := by
  intro a'
  refine (Local.of_and fun _ : a = a' => hp).congr fun bs rest => ?_
  simp only [map_eq_ok_iff, Prod.mk.injEq]
  constructor
  · rintro ⟨mid, h, ha, rfl⟩
    exact ⟨ha, h⟩
  · rintro ⟨ha, h⟩
    exact ⟨rest, h, ha, rfl⟩

theorem LocalPass.read (hp : LocalPass p) (hr : LocalRead r) :
    LocalRead fun bs => p bs >>= r := by
  intro a
  refine (hp.comp (hr a)).congr fun bs rest => ?_
  rw [bind_eq_ok_iff]

theorem LocalPass.bind (hp : LocalPass p) (hq : LocalPass q) :
    LocalPass fun bs => p bs >>= q := by
  refine (hp.comp hq).congr fun bs rest => ?_
  rw [bind_eq_ok_iff]

end

/-! ### Blanks -/

/-- A run of bytes of one sort, and what follows it. -/
theorem local_span (sort : UInt8 → Bool) (run : Bytes) :
    Local fun bs rest => bs.takeWhile sort = run ∧ bs.dropWhile sort = rest := by
  rintro bs rest ⟨rfl, rfl⟩
  have hrun : ∀ b ∈ bs.takeWhile sort, sort b = true := List.all_eq_true.1 List.all_takeWhile
  refine ⟨bs.takeWhile sort, List.takeWhile_append_dropWhile.symm, fun rest' hr => ?_⟩
  dsimp only
  rw [List.takeWhile_append_of_pos hrun, List.dropWhile_append_of_pos hrun]
  -- the run ends where it did
  have hhead := List.head?_dropWhile_not sort bs
  rw [← hr.head] at hhead
  cases rest' with
  | nil => simp
  | cons b rest' => simp_all

theorem local_dropWhile (sort : UInt8 → Bool) : Local fun bs rest => bs.dropWhile sort = rest :=
  (Local.of_exists (local_span sort)).congr fun _ _ => by simp

theorem skipBlanks_of_not_blank {b : UInt8} (hb : isBlankByte b = false) (rest : Bytes) :
    skipBlanks (b :: rest) = b :: rest :=
  skipBlanks_gap isGap_nil hb rest

theorem skipBlanks_skipBlanks (bs : Bytes) : skipBlanks (skipBlanks bs) = skipBlanks bs :=
  List.dropWhile_idempotent ..

/-- What is behind the blanks starts with no blank. -/
theorem isBlankByte_of_skipBlanks {bs rest : Bytes} {b : UInt8} (h : skipBlanks bs = b :: rest) :
    isBlankByte b = false := by
  have hhead := List.head?_dropWhile_not isBlankByte bs
  rw [show bs.dropWhile isBlankByte = b :: rest from h] at hhead
  exact hhead

/-- Readers that skip blanks need to be looked at only where no blank stands. -/
theorem Local.of_blanks {P : Bytes → Bytes → Prop}
    (hskip : ∀ bs rest, P bs rest ↔ P (skipBlanks bs) rest) (hnil : ∀ rest, ¬ P [] rest)
    (hcons : ∀ b, isBlankByte b = false → LocalAt b P) : Local P := by
  intro bs rest h
  have hP := (hskip bs rest).1 h
  cases hb : skipBlanks bs with
  | nil => exact (hnil rest (hb ▸ hP)).elim
  | cons b tail =>
    rw [hb] at hP
    have hblank := isBlankByte_of_skipBlanks hb
    obtain ⟨front, htail, hrest⟩ := hcons b hblank tail rest hP
    have hgap : IsGap (bs.takeWhile isBlankByte) := List.all_eq_true.1 List.all_takeWhile
    refine ⟨bs.takeWhile isBlankByte ++ front, ?_, fun rest' hr => (hskip _ _).2 ?_⟩
    · rw [List.append_assoc, ← htail, ← hb]
      exact List.takeWhile_append_dropWhile.symm
    · -- the new text starts with the same byte behind the blanks
      obtain ⟨tail', htail'⟩ : ∃ tail', front ++ rest' = b :: tail' :=
        Resumes.exists_cons (htail ▸ hr.append front)
      rw [List.append_assoc, htail', skipBlanks_gap hgap hblank, ← htail']
      exact hrest rest' hr

end SignIn.Json
