import Mathlib.Data.List.TakeDrop
import Mathlib.Data.List.TakeWhile
import SignIn.Proofs.Except
import SignIn.Proofs.Url.Ascii
import SignIn.Url.Parse

/-!
# URLs with a part appended

A slash ends the authority of a URL, and so does the mark of a query or a fragment.  So what
stands before is read in the same way whatever follows, and whether an address with a part
appended is a URL does not depend on the part.  Only where nothing but slashes separates the part
from the scheme is the part read as a host; a part in small letters is a host, too.

## Main results

* `parseAuthority_append` — an authority does not depend on what follows its end.
* `isOk_parse_append` — with one part appended, any other in small letters would do.
-/

namespace SignIn.Url

/-! ### Reading up to a character -/

section Reading

variable {α : Type} {p : α → Bool}

section Stop

variable {y : α} (hy : p y = false) (xs ys : List α)

include hy

theorem dropWhile_append_cons : (xs ++ y :: ys).dropWhile p = xs.dropWhile p ++ y :: ys := by
  induction xs with
  | nil => simp [hy]
  | cons x xs ih =>
    rw [List.cons_append, List.dropWhile_cons, List.dropWhile_cons, ih]
    split <;> rfl

theorem takeWhile_append_cons : (xs ++ y :: ys).takeWhile p = xs.takeWhile p := by
  induction xs with
  | nil => simp [hy]
  | cons x xs ih => rw [List.cons_append, List.takeWhile_cons, List.takeWhile_cons, ih]

theorem span_append_cons :
    (xs ++ y :: ys).span p = ((xs.span p).1, (xs.span p).2 ++ y :: ys) := by
  simp only [List.span_eq_takeWhile_dropWhile, takeWhile_append_cons hy, dropWhile_append_cons hy]

end Stop

theorem span_append_of_ne_nil {xs : List α} (h : (xs.span p).2 ≠ [])
    (ys : List α) : (xs ++ ys).span p = ((xs.span p).1, (xs.span p).2 ++ ys) := by
  simp only [List.span_eq_takeWhile_dropWhile] at h ⊢
  induction xs with
  | nil => exact absurd rfl h
  | cons x xs ih =>
    rw [List.dropWhile_cons] at h
    rw [List.cons_append, List.takeWhile_cons, List.dropWhile_cons, List.takeWhile_cons,
      List.dropWhile_cons]
    split
    · rename_i hx
      rw [if_pos hx] at h
      have := Prod.mk.inj (ih h)
      rw [this.1, this.2]
    · rfl

theorem span_append_of_forall {xs : List α} (h : ∀ x ∈ xs, p x = true)
    (ys : List α) : (xs ++ ys).span p = (xs ++ (ys.span p).1, (ys.span p).2) := by
  simp only [List.span_eq_takeWhile_dropWhile, List.takeWhile_append_of_pos h,
    List.dropWhile_append_of_pos h]

theorem span_eq_self {xs : List α} (h : ∀ x ∈ xs, p x = true) :
    xs.span p = (xs, []) := by
  simpa using span_append_of_forall h []

theorem forall_of_span {xs : List α} (h : (xs.span p).2 = []) :
    ∀ x ∈ xs, p x = true := by
  rw [List.span_eq_takeWhile_dropWhile] at h
  exact List.dropWhile_eq_nil_iff.1 h

theorem eq_append_of_span {xs ys zs : List α}
    (h : xs.span p = (ys, zs)) : xs = ys ++ zs := by
  rw [List.span_eq_takeWhile_dropWhile, Prod.mk.injEq] at h
  rw [← h.1, ← h.2, List.takeWhile_append_dropWhile]

end Reading

/-! ### Preparation and scheme -/

/-- The characters of a text that count when more follows: no controls and spaces in front, no
tabs and line breaks anywhere. -/
def prepareFront (s : String) : List Char :=
  (s.toList.dropWhile (·.toNat ≤ 0x20)).filter fun c => c != '\t' && c != '\n' && c != '\r'

theorem filter_kept_of_lt {cs : List Char} (h : ∀ c ∈ cs, 0x20 < c.toNat) :
    (cs.filter fun c => c != '\t' && c != '\n' && c != '\r') = cs := by
  rw [List.filter_eq_self]
  intro c hc
  have hne {d : Char} (hd : d.toNat ≤ 0x20) : c ≠ d := by
    rintro rfl
    exact absurd (h c hc) (by omega)
  simp only [Bool.and_eq_true, bne_iff_ne]
  exact ⟨⟨hne (by decide), hne (by decide)⟩, hne (by decide)⟩

/-- Preparing a text leaves its inner slashes where they are, and behind them what has neither
controls nor spaces. -/
theorem prepare_append (base part : String) : ∃ x,
    prepare (base ++ "/" ++ part) = prepareFront base ++ '/' :: x ∧
      ((∀ c ∈ part.toList, 0x20 < c.toNat) → x = part.toList) := by
  let blank (c : Char) : Bool := c.toNat ≤ 0x20
  refine ⟨((part.toList.reverse.dropWhile blank).reverse).filter
    fun c => c != '\t' && c != '\n' && c != '\r', ?_, fun h => ?_⟩
  · have hs : (base ++ "/" ++ part).toList = base.toList ++ '/' :: part.toList := by simp
    have hr (xs : List Char) :
        (xs ++ '/' :: part.toList).reverse = part.toList.reverse ++ '/' :: xs.reverse := by simp
    -- the slash is no blank, so the blanks at either end are dropped on its own side
    rw [prepare, hs, dropWhile_append_cons (by decide), hr, dropWhile_append_cons (by decide)]
    simp [blank, prepareFront]
  · have hb : part.toList.reverse.dropWhile blank = part.toList.reverse := by
      rw [List.dropWhile_eq_self_iff]
      intro hl
      have := h _ (List.mem_reverse.1 (List.getElem_mem hl))
      simp only [blank, decide_eq_true_eq]
      omega
    rw [hb, List.reverse_reverse, filter_kept_of_lt h]

theorem splitScheme_append (d x : List Char) :
    splitScheme (d ++ '/' :: x) = (splitScheme d).map fun p => (p.1, p.2 ++ '/' :: x) := by
  cases d with
  | nil => rfl
  | cons c d =>
    unfold splitScheme
    rw [List.cons_append]
    dsimp only
    split
    · rw [← List.cons_append, span_append_cons (by decide)]
      rcases (c :: d).span isSchemeChar with ⟨scheme, _ | ⟨e, rest⟩⟩
      · rfl
      · by_cases he : e = ':'
        · subst he
          rfl
        · simp [he]
    · rfl

theorem splitScheme_append_of_some {cs rest : List Char} {scheme : String}
    (h : splitScheme cs = some (scheme, rest)) (ds : List Char) :
    splitScheme (cs ++ ds) = some (scheme, rest ++ ds) := by
  unfold splitScheme at h ⊢
  rcases cs with _ | ⟨c, cs⟩
  · cases h
  · dsimp only [List.cons_append] at h ⊢
    split at h
    · rename_i hc
      rw [if_pos hc]
      split at h
      · rename_i letters behind heq
        have hne : ((c :: cs).span isSchemeChar).2 ≠ [] := by rw [heq]; simp
        rw [← List.cons_append, span_append_of_ne_nil hne, heq]
        cases h
        rfl
      · cases h
    · cases h

/-! ### Authority -/

/-- The characters that end an authority. -/
theorem eq_of_endsAuthority {kind : SchemeKind} {e : Char} (h : endsAuthority kind e = true) :
    e = '/' ∨ e = '\\' ∨ e = '?' ∨ e = '#' := by
  simp only [endsAuthority, Bool.or_eq_true, Bool.and_eq_true, beq_iff_eq] at h
  tauto

theorem endsAuthority_slash (kind : SchemeKind) : endsAuthority kind '/' = true := by
  simp [endsAuthority]

section End

variable {kind : SchemeKind} {e : Char} (he : endsAuthority kind e = true)

include he

theorem splitUser_append (d x : List Char) :
    splitUser kind (d ++ e :: x) = ((splitUser kind d).1, (splitUser kind d).2 ++ e :: x) := by
  unfold splitUser
  rw [span_append_cons (by simp [he])]
  rcases d.span (!endsAuthority kind ·) with ⟨authority, rest⟩
  dsimp only
  split <;> simp

theorem spanHost_append (inside : Bool) (d x : List Char) :
    spanHost kind inside (d ++ e :: x) =
      ((spanHost kind inside d).1, (spanHost kind inside d).2 ++ e :: x) := by
  induction d generalizing inside with
  | nil => simp [spanHost, he]
  | cons c d ih =>
    rw [List.cons_append, spanHost, spanHost]
    split
    · rfl
    · simp only [ih]

/-- A port does not depend on what follows the end of the authority behind it. -/
theorem parsePort_append (scheme : String) (d x : List Char) :
    parsePort scheme (d ++ e :: x) =
      (parsePort scheme d).map fun p => (p.1, p.2 ++ e :: x) := by
  have hdigit : e.isDigit = false := by
    obtain rfl | rfl | rfl | rfl := eq_of_endsAuthority he <;> rfl
  unfold parsePort
  rw [span_append_cons hdigit]
  rcases d.span Char.isDigit with ⟨digits, rest⟩
  have hany : ((rest ++ e :: x).head?.any fun c =>
        c != '/' && c != '\\' && c != '?' && c != '#') =
      rest.head?.any fun c => c != '/' && c != '\\' && c != '?' && c != '#' := by
    cases rest with
    | nil => obtain rfl | rfl | rfl | rfl := eq_of_endsAuthority he <;> rfl
    | cons c rest => rfl
  dsimp only
  rw [hany]
  split
  · rfl
  · split <;> rfl

theorem parseColonPort_append (scheme : String) (host : Host) (d x : List Char) :
    parseColonPort scheme host (d ++ e :: x) =
      (parseColonPort scheme host d).map fun p => (p.1, p.2 ++ e :: x) := by
  unfold parseColonPort
  rcases d with _ | ⟨c, d⟩
  · obtain rfl | rfl | rfl | rfl := eq_of_endsAuthority he <;> rfl
  · by_cases hc : c = ':'
    · subst hc
      simp only [List.cons_append, parsePort_append he]
      split <;> rfl
    · simp [hc, Except.map]

/-- Host and port do not depend on what follows the end of the authority behind them. -/
theorem parseHostAndPort_append (scheme : String) (d x : List Char) :
    parseHostAndPort scheme kind (d ++ e :: x) =
      (parseHostAndPort scheme kind d).map fun p => (p.1, p.2.1, p.2.2 ++ e :: x) := by
  unfold parseHostAndPort
  rw [spanHost_append he]
  rcases spanHost kind false d with ⟨cs, rest⟩
  dsimp only
  rcases parseHost kind cs with f | host
  · rfl
  · simp only [parseColonPort_append he, bind, Except.bind]
    rcases parseColonPort scheme host rest with f | p <;> rfl

/-- **An authority does not depend on what follows its end**, unless it is nothing but an
at-sign. -/
theorem parseAuthority_append (scheme : String) (d x : List Char) :
    parseAuthority scheme kind (d ++ e :: x) =
      if splitUser kind d = (some [], []) then .error .emptyHost
      else (parseAuthority scheme kind d).map fun p => (p.1, p.2 ++ e :: x) := by
  rcases hu : splitUser kind d with ⟨user, rest⟩
  simp only [parseAuthority, splitUser_append he, hu, parseHostAndPort_append he, Prod.mk.injEq]
  by_cases hempty : user = some [] ∧ rest = []
  · rw [if_pos hempty, hempty.2, List.nil_append, List.head?_cons, Option.any_some,
      if_pos ⟨hempty.1, he⟩]
  · have hany : (user = some [] ∧ (rest ++ e :: x).head?.any (endsAuthority kind) = true) ↔
        user = some [] ∧ rest.head?.any (endsAuthority kind) = true := by
      refine and_congr_right fun hsome => ?_
      cases rest with
      | nil => exact absurd ⟨hsome, rfl⟩ hempty
      | cons c rest => rfl
    rw [if_neg hempty]
    simp only [hany]
    split
    · rfl
    · rcases parseHostAndPort scheme kind rest with f | ⟨host, port, rest⟩
      · rfl
      · simp only [bind, Except.bind, Except.map]
        split <;> rfl

end End

/-! ### Behind the end of an authority

Where reading an authority leaves something, more behind it changes nothing. -/

theorem spanHost_append_of_ne_nil {kind : SchemeKind} {inside : Bool} {cs : List Char}
    (h : (spanHost kind inside cs).2 ≠ []) (ds : List Char) :
    spanHost kind inside (cs ++ ds) =
      ((spanHost kind inside cs).1, (spanHost kind inside cs).2 ++ ds) := by
  induction cs generalizing inside with
  | nil => exact absurd rfl h
  | cons c cs ih =>
    rw [spanHost] at h
    rw [List.cons_append, spanHost, spanHost]
    split
    · rfl
    · rename_i hc
      rw [if_neg hc] at h
      simp only [ih h]

theorem parsePort_eq_ok_iff {scheme : String} {cs rest : List Char} {port : Option Nat} :
    parsePort scheme cs = .ok (port, rest) ↔
      portNumber (cs.span Char.isDigit).1 ≤ 65535 ∧
      (rest.head?.any fun c => c != '/' && c != '\\' && c != '?' && c != '#') = false ∧
      port = (if (cs.span Char.isDigit).1.isEmpty ∨
          defaultPort? scheme = some (portNumber (cs.span Char.isDigit).1) then none
        else some (portNumber (cs.span Char.isDigit).1)) ∧
      rest = (cs.span Char.isDigit).2 := by
  unfold parsePort
  rcases cs.span Char.isDigit with ⟨digits, behind⟩
  dsimp only
  constructor
  · intro h
    split at h
    · cases h
    · split at h
      · cases h
      · rename_i hn hstop
        obtain ⟨rfl, rfl⟩ := Prod.mk.inj (Except.ok.inj h)
        exact ⟨by omega, by simpa using hstop, rfl, rfl⟩
  · rintro ⟨hn, hstop, rfl, rfl⟩
    rw [if_neg (by omega), if_neg (by rw [hstop]; decide)]

theorem parsePort_append_of_ne_nil {scheme : String} {cs rest : List Char} {port : Option Nat}
    (h : parsePort scheme cs = .ok (port, rest)) (hne : rest ≠ []) (ds : List Char) :
    parsePort scheme (cs ++ ds) = .ok (port, rest ++ ds) := by
  obtain ⟨hn, hstop, hport, rfl⟩ := parsePort_eq_ok_iff.1 h
  rw [parsePort_eq_ok_iff, span_append_of_ne_nil hne]
  refine ⟨hn, ?_, hport, rfl⟩
  obtain ⟨c, behind, hc⟩ := List.exists_cons_of_ne_nil hne
  rw [hc] at hstop ⊢
  exact hstop

theorem parseColonPort_append_of_ne_nil {scheme : String} {host : Host} {cs rest : List Char}
    {port : Option Nat} (h : parseColonPort scheme host cs = .ok (port, rest)) (hne : rest ≠ [])
    (ds : List Char) : parseColonPort scheme host (cs ++ ds) = .ok (port, rest ++ ds) := by
  unfold parseColonPort at h
  split at h
  · rw [List.cons_append, parseColonPort]
    split at h
    · cases h
    · rename_i hhost
      rw [if_neg hhost]
      exact parsePort_append_of_ne_nil h hne ds
  · rename_i hcolon
    obtain ⟨rfl, rfl⟩ := Prod.mk.inj (Except.ok.inj h)
    obtain ⟨c, cs, rfl⟩ := List.exists_cons_of_ne_nil hne
    have hc : c ≠ ':' := by
      rintro rfl
      exact hcolon _ rfl
    simp [parseColonPort, hc]

theorem parseHostAndPort_eq_ok_iff {scheme : String} {kind : SchemeKind} {cs rest : List Char}
    {host : Host} {port : Option Nat} :
    parseHostAndPort scheme kind cs = .ok (host, port, rest) ↔
      parseHost kind (spanHost kind false cs).1 = .ok host ∧
        parseColonPort scheme host (spanHost kind false cs).2 = .ok (port, rest) := by
  unfold parseHostAndPort
  rcases spanHost kind false cs with ⟨name, behind⟩
  simp only [bind_eq_ok_iff]
  constructor
  · rintro ⟨host', hh, ⟨port', rest'⟩, hp, heq⟩
    obtain ⟨rfl, hpr⟩ := Prod.mk.inj (Except.ok.inj heq)
    obtain ⟨rfl, rfl⟩ := Prod.mk.inj hpr
    exact ⟨hh, hp⟩
  · rintro ⟨hh, hp⟩
    exact ⟨host, hh, (port, rest), hp, rfl⟩

theorem parseHostAndPort_append_of_ne_nil {scheme : String} {kind : SchemeKind}
    {cs rest : List Char} {host : Host} {port : Option Nat}
    (h : parseHostAndPort scheme kind cs = .ok (host, port, rest)) (hne : rest ≠ [])
    (ds : List Char) : parseHostAndPort scheme kind (cs ++ ds) = .ok (host, port, rest ++ ds) := by
  obtain ⟨hhost, hport⟩ := parseHostAndPort_eq_ok_iff.1 h
  have hbehind : (spanHost kind false cs).2 ≠ [] := by
    intro hnil
    rw [hnil] at hport
    exact hne (Prod.mk.inj (Except.ok.inj hport)).2.symm
  rw [parseHostAndPort_eq_ok_iff, spanHost_append_of_ne_nil hbehind]
  exact ⟨hhost, parseColonPort_append_of_ne_nil hport hne ds⟩

theorem parseAuthority_eq_ok_iff {scheme : String} {kind : SchemeKind} {cs rest : List Char}
    {a : Authority} :
    parseAuthority scheme kind cs = .ok (a, rest) ↔
      ¬ ((splitUser kind cs).1 = some [] ∧
          (splitUser kind cs).2.head?.any (endsAuthority kind) = true) ∧
        parseHostAndPort scheme kind (splitUser kind cs).2 = .ok (a.host, a.port, rest) ∧
        (a.username, a.password) = parseUser ((splitUser kind cs).1.getD []) ∧
        ¬ (a.host = .name "" ∧ (a.username ≠ "" ∨ a.password ≠ "")) := by
  unfold parseAuthority
  rcases splitUser kind cs with ⟨user, behind⟩
  rcases hu : parseUser (user.getD []) with ⟨username, password⟩
  dsimp only
  split
  · rename_i hat
    exact ⟨fun h => (by cases h), fun h => absurd hat h.1⟩
  · rename_i hat
    rw [hu]
    simp only [bind_eq_ok_iff]
    constructor
    · rintro ⟨⟨host, port, rest'⟩, hp, heq⟩
      dsimp only at heq
      split at heq
      · cases heq
      · rename_i hname
        obtain ⟨rfl, rfl⟩ := Prod.mk.inj (Except.ok.inj heq)
        exact ⟨hat, hp, rfl, hname⟩
    · rintro ⟨-, hp, heq, hname⟩
      obtain ⟨rfl, rfl⟩ := Prod.mk.inj heq
      exact ⟨_, hp, if_neg hname⟩

theorem isOk_afterSlashes (scheme : String) (kind : SchemeKind) (cs : List Char) :
    (afterSlashes scheme kind cs).isOk = (parseAuthority scheme kind cs).isOk := by
  unfold afterSlashes
  cases parseAuthority scheme kind cs <;> rfl

theorem isOk_parseAuthority_append (scheme : String) (kind : SchemeKind) (d x y : List Char) :
    (parseAuthority scheme kind (d ++ '/' :: x)).isOk =
      (parseAuthority scheme kind (d ++ '/' :: y)).isOk := by
  simp only [parseAuthority_append (endsAuthority_slash kind)]
  split
  · rfl
  · rw [isOk_map, isOk_map]

/-- What is read off the front of a file URL as its host. -/
abbrev fileHostChar (c : Char) : Bool := c != '/' && c != '\\' && c != '?' && c != '#'

theorem parseFileHost_of_span {cs ds : List Char}
    (h : (cs ++ ds).span fileHostChar =
      ((cs.span fileHostChar).1, (cs.span fileHostChar).2 ++ ds)) :
    parseFileHost (cs ++ ds) = (parseFileHost cs).map fun p => (p.1, p.2 ++ ds) := by
  rw [parseFileHost, parseFileHost, h]
  rcases cs.span fileHostChar with ⟨host, rest⟩
  dsimp only
  split
  · rfl
  · split
    · rfl
    · rcases parseWebHost host with f | host
      · rfl
      · simp only [bind, Except.bind]
        split <;> rfl

theorem fileHostChar_of_endsAuthority {e : Char} (he : endsAuthority .file e = true) :
    fileHostChar e = false := by
  obtain rfl | rfl | rfl | rfl := eq_of_endsAuthority he <;> rfl

/-- The host of a file does not depend on what follows the end of the authority behind it. -/
theorem parseFileHost_append {e : Char} (he : endsAuthority .file e = true) (d x : List Char) :
    parseFileHost (d ++ e :: x) = (parseFileHost d).map fun p => (p.1, p.2 ++ e :: x) :=
  parseFileHost_of_span (span_append_cons (fileHostChar_of_endsAuthority he) d x)

theorem parseFileHost_eq_ok_iff {cs rest : List Char} {host : Host} (hname : host ≠ .name "") :
    parseFileHost cs = .ok (host, rest) ↔
      isDrive (cs.span fileHostChar).1 = false ∧ (cs.span fileHostChar).1 ≠ [] ∧
        parseWebHost (cs.span fileHostChar).1 = .ok host ∧ host ≠ .name "localhost" ∧
        (cs.span fileHostChar).2 = rest := by
  unfold parseFileHost
  rcases cs.span fileHostChar with ⟨name, behind⟩
  dsimp only
  split
  · rename_i hdrive
    refine ⟨fun h => ?_, fun h => absurd hdrive (by simp [h.1])⟩
    exact absurd (Prod.mk.inj (Except.ok.inj h)).1.symm hname
  · rename_i hdrive
    split
    · rename_i hnil
      refine ⟨fun h => ?_, fun h => absurd hnil h.2.1⟩
      exact absurd (Prod.mk.inj (Except.ok.inj h)).1.symm hname
    · rename_i hnil
      rw [bind_eq_ok_iff]
      constructor
      · rintro ⟨host', hh, h⟩
        split at h
        · exact absurd (Prod.mk.inj (Except.ok.inj h)).1.symm hname
        · rename_i hlocal
          obtain ⟨rfl, rfl⟩ := Prod.mk.inj (Except.ok.inj h)
          exact ⟨by simpa using hdrive, hnil, hh, hlocal, rfl⟩
      · rintro ⟨-, -, hh, hlocal, rfl⟩
        refine ⟨host, hh, ?_⟩
        split
        · exact absurd rfl hlocal
        · rfl

theorem isOk_afterFileSlashes (cs : List Char) :
    (afterFileSlashes cs).isOk = (parseFileHost cs).isOk := by
  unfold afterFileSlashes
  rcases parseFileHost cs with f | ⟨host, rest⟩
  · rfl
  · simp only [bind, Except.bind]
    split <;> rfl

theorem isOk_parseFile_none (c e : Char) (cs : List Char) :
    (parseFile none (c :: e :: cs)).isOk =
      if (c = '/' ∨ c = '\\') ∧ (e = '/' ∨ e = '\\') then (parseFileHost cs).isOk else true := by
  by_cases hc : c = '/' ∨ c = '\\'
  · by_cases he : e = '/' ∨ e = '\\'
    · simp only [parseFile, hc, he, and_self, if_true, isOk_afterFileSlashes]
    · simp only [parseFile, hc, he, and_false, if_true, if_false]
      rfl
  · simp only [parseFile, hc, false_and, if_false]
    rfl

theorem isOk_parseOther (scheme : String) (c e : Char) (cs : List Char) :
    (parseOther scheme (c :: e :: cs)).isOk =
      if c = '/' ∧ e = '/' then (parseAuthority scheme .other cs).isOk else true := by
  by_cases hc : c = '/'
  · subst hc
    by_cases he : e = '/'
    · subst he
      exact isOk_afterSlashes scheme .other cs
    · rw [if_neg (by simp [he])]
      unfold parseOther
      split
      · simp_all
      · rfl
      · rfl
  · rw [if_neg (by simp [hc])]
    unfold parseOther
    split
    · simp_all
    · rfl
    · rfl

/-! ### Small letters in the place of the host -/

theorem endsAuthority_of_isLower (kind : SchemeKind) {c : Char} (h : c.isLower = true) :
    endsAuthority kind c = false := by
  have hn {d : Char} (hd : d.isLower = false) : (c == d) = false :=
    beq_eq_false_iff_ne.2 (ne_of_isLower h hd)
  simp only [endsAuthority, hn (d := '/') rfl, hn (d := '?') rfl, hn (d := '#') rfl,
    hn (d := '\\') rfl, Bool.or_self, Bool.false_and]

theorem not_slash_of_isLower {c : Char} (h : c.isLower = true) : ¬ (c = '/' ∨ c = '\\') := by
  rintro (rfl | rfl) <;> exact absurd h (by decide)

section Word

variable {w : List Char} (h : ∀ c ∈ w, c.isLower = true) (hne : w ≠ [])

include h

theorem span_of_isLower {p : Char → Bool} (hp : ∀ c : Char, c.isLower = true → p c = true) :
    w.span p = (w, []) :=
  span_eq_self fun c hc => hp c (h c hc)

theorem splitUser_of_isLower (kind : SchemeKind) : splitUser kind w = (none, w) := by
  have hr : ∀ c ∈ w.reverse, c.isLower = true := by simpa using h
  unfold splitUser
  rw [span_of_isLower h fun c hc => by rw [endsAuthority_of_isLower kind hc]; rfl]
  dsimp only
  rw [span_of_isLower hr fun c hc => bne_iff_ne.2 (ne_of_isLower hc (by decide))]

theorem spanHost_of_isLower (kind : SchemeKind) : spanHost kind false w = (w, []) := by
  induction w with
  | nil => rfl
  | cons c w ih =>
    have hc := h c (by simp)
    rw [spanHost, if_neg, if_neg (ne_of_isLower hc (by decide)),
      if_neg (ne_of_isLower hc (by decide))]
    · simp only [ih fun d hd => h d (by simp [hd])]
    · simp [endsAuthority_of_isLower kind hc, ne_of_isLower hc]

include hne

theorem parseHost_of_isLower (kind : SchemeKind) :
    parseHost kind w = .ok (.name (String.ofList w)) := by
  unfold parseHost
  rw [parseOtherHost_of_isLower h, if_neg hne, parseWebHost_of_isLower h hne, ite_self]

theorem parseAuthority_of_isLower (scheme : String) (kind : SchemeKind) :
    parseAuthority scheme kind w = .ok (⟨"", "", .name (String.ofList w), none⟩, []) := by
  have hu : parseUser [] = ("", "") := rfl
  simp only [parseAuthority, splitUser_of_isLower h, parseHostAndPort, spanHost_of_isLower h,
    parseHost_of_isLower h hne, Option.getD_none, hu, reduceCtorEq, false_and, if_false, ne_eq,
    not_true_eq_false, or_self, and_false]
  rfl

theorem parseFileHost_of_isLower :
    parseFileHost w =
      .ok (if w = "localhost".toList then .name "" else .name (String.ofList w), []) := by
  have hd : ¬ isDrive w = true := by
    unfold isDrive
    split
    · rename_i a b
      have hb := h b (by simp)
      simp [ne_of_isLower hb (d := ':') rfl, ne_of_isLower hb (d := '|') rfl]
    · decide
  have hs : w.span fileHostChar = (w, []) := span_of_isLower h fun c hc => by
    simp only [fileHostChar, Bool.and_eq_true, bne_iff_ne]
    exact ⟨⟨⟨ne_of_isLower hc (by decide), ne_of_isLower hc (by decide)⟩,
      ne_of_isLower hc (by decide)⟩, ne_of_isLower hc (by decide)⟩
  unfold parseFileHost
  rw [hs]
  dsimp only
  rw [if_neg hd, if_neg hne, parseWebHost_of_isLower h hne]
  simp only [bind, Except.bind]
  split
  · rename_i heq
    rw [if_pos]
    · rfl
    · rw [← String.toList_ofList (l := w), Host.name.inj heq]
  · rename_i hlocal
    rw [if_neg]
    · rfl
    · rintro rfl
      exact hlocal (by rw [String.ofList_toList])

theorem isOk_parseFile_append {d x : List Char}
    (hx : (parseFile none (d ++ '/' :: x)).isOk = true) :
    (parseFile none (d ++ '/' :: w)).isOk = true := by
  -- the slash is the first one, the second one, or behind the place of the host
  rcases d with _ | ⟨c, _ | ⟨e, d⟩⟩
  · obtain ⟨e, w, rfl⟩ := List.exists_cons_of_ne_nil hne
    rw [List.nil_append, isOk_parseFile_none, if_neg]
    exact fun he => not_slash_of_isLower (h e (by simp)) he.2
  · rw [List.singleton_append, isOk_parseFile_none, parseFileHost_of_isLower h hne, Except.isOk,
      Except.toBool, ite_self]
  · simp only [List.cons_append, isOk_parseFile_none,
      parseFileHost_append (endsAuthority_slash .file), isOk_map] at hx ⊢
    exact hx

theorem isOk_parseWeb_append {scheme : String} {d x : List Char}
    (hx : (afterSlashes scheme .web ((d ++ '/' :: x).dropWhile isSlash)).isOk = true) :
    (afterSlashes scheme .web ((d ++ '/' :: w).dropWhile isSlash)).isOk = true := by
  rw [List.dropWhile_append] at hx ⊢
  split
  · -- nothing but slashes stands before the word, which is the host then
    obtain ⟨e, w, rfl⟩ := List.exists_cons_of_ne_nil hne
    have he : isSlash e = false := by simpa [isSlash] using not_slash_of_isLower (h e (by simp))
    rw [List.dropWhile_cons_of_pos (by decide), List.dropWhile_cons_of_neg (by simp [he]),
      isOk_afterSlashes]
    rw [parseAuthority_of_isLower h hne]
    rfl
  · rename_i hd
    rw [if_neg hd] at hx
    rw [isOk_afterSlashes] at hx ⊢
    rw [isOk_parseAuthority_append]
    exact hx

theorem isOk_parseOther_append {scheme : String} {d x : List Char}
    (hx : (parseOther scheme (d ++ '/' :: x)).isOk = true) :
    (parseOther scheme (d ++ '/' :: w)).isOk = true := by
  -- as for files
  rcases d with _ | ⟨c, _ | ⟨e, d⟩⟩
  · obtain ⟨e, w, rfl⟩ := List.exists_cons_of_ne_nil hne
    rw [List.nil_append, isOk_parseOther, if_neg]
    exact fun he => not_slash_of_isLower (h e (by simp)) (.inl he.2)
  · rw [List.singleton_append, isOk_parseOther, parseAuthority_of_isLower h hne, Except.isOk,
      Except.toBool, ite_self]
  · simp only [List.cons_append, isOk_parseOther] at hx ⊢
    rw [isOk_parseAuthority_append]
    exact hx

end Word

/-- **With one part appended to an address, any other in small letters would do**, so that
the two are URLs together. -/
theorem isOk_parse_append {base part word : String}
    (hw : ∀ c ∈ word.toList, c.isLower = true) (hne : word ≠ "")
    (h : (parse (base ++ "/" ++ part)).isOk = true) :
    (parse (base ++ "/" ++ word)).isOk = true := by
  obtain ⟨x, hx, -⟩ := prepare_append base part
  obtain ⟨y, hy, hyw⟩ := prepare_append base word
  have hword : ∀ c ∈ word.toList, 0x20 < c.toNat := fun c hc => by
    have := isLower_iff.1 (hw c hc)
    omega
  have hne' : word.toList ≠ [] := by simpa using hne
  simp only [parse, hx, parseChars, splitScheme_append] at h
  simp only [parse, hy, hyw hword, parseChars, splitScheme_append]
  -- the scheme stands before the slash, and is the same in both
  cases hs : splitScheme (prepareFront base) with
  | none => simp [hs, Except.isOk, Except.toBool] at h
  | some p =>
    simp only [hs, Option.map_some, parseScheme, Option.filter_none] at h ⊢
    cases hk : SchemeKind.of p.1 with
    | file =>
      simp only [hk] at h ⊢
      exact isOk_parseFile_append hw hne' h
    | web =>
      simp only [hk] at h ⊢
      exact isOk_parseWeb_append hw hne' h
    | other =>
      simp only [hk] at h ⊢
      exact isOk_parseOther_append hw hne' h

end SignIn.Url
