import SignIn.Proofs.Url.Joined
import SignIn.Proofs.Url.ReadBack

/-!
# Web URLs and what is below them

A web URL that has been read, standing alone or against another one, can be written: its authority
and the segments of its path are read again from its text, and nothing in the text is a control or
a space.  What requests append to the text lands behind the path, as long as no query and no
fragment stands in between; if one does, the part comes to stand inside it, and the path stays as
it is.

## Main definitions

* `IsWeb` — a URL of a web scheme as reading leaves it.
* `IsBelow` — a URL on the server of another one, with a path that continues its path.
* `IsRoot` — a URL with whose text URLs below it can be written.

## Main results

* `isWeb_of_parse`, `isWeb_of_join` — reading leaves web URLs that can be written.
* `IsWeb.joined_isBelow_iff` — where a part that is appended to the text of a web URL lands.
-/

namespace SignIn.Url

open SignIn.Text

/-! ### Web URLs -/

/-- Whether query and fragment are encoded. -/
structure IsTail (query fragment : Option String) : Prop where
  /-- The characters of the query stand for themselves there. -/
  query : ∀ q ∈ query, ∀ c ∈ q.toList, isKept specialQuerySet c = true
  /-- So do those of the fragment. -/
  fragment : ∀ f ∈ fragment, ∀ c ∈ f.toList, isKept fragmentSet c = true

/-- A URL of a web scheme as reading leaves it, with its authority and its segments. -/
structure IsWeb (u : Url) (a : Authority) (segments : List String) : Prop where
  /-- The scheme is one of the web. -/
  kind : SchemeKind.of u.scheme = .web
  /-- There is an authority. -/
  authority : u.authority = some a
  /-- The authority can be written. -/
  isWritten : a.IsWritten u.scheme
  /-- The path has segments. -/
  path : u.path = .rooted segments
  /-- The segments can be written. -/
  isPath : IsPath segments
  /-- Query and fragment are encoded. -/
  tail : IsTail u.query u.fragment

theorem isKept_parseFragment {cs : List Char} :
    ∀ c ∈ (parseFragment cs).toList, isKept fragmentSet c = true := by
  rw [parseFragment, String.toList_ofList]
  exact isKept_of_mem_percentEncode (by decide)

theorem parseQuery_web (cs : List Char) : parseQuery .web cs =
    (String.ofList (percentEncode specialQuerySet (cs.span (· != '#')).1), (cs.span (· != '#')).2) :=
  rfl

theorem isKept_parseQuery {cs : List Char} :
    ∀ c ∈ (parseQuery .web cs).1.toList, isKept specialQuerySet c = true := by
  rw [parseQuery_web, String.toList_ofList]
  exact isKept_of_mem_percentEncode (by decide)

theorem isTail_withTail (u : Url) (cs : List Char) :
    IsTail (withTail u .web cs).query (withTail u .web cs).fragment := by
  have hnone : IsTail none none := ⟨fun q hq => (by cases hq), fun f hf => (by cases hf)⟩
  show IsTail (parseTail .web cs).1 (parseTail .web cs).2
  unfold parseTail
  split
  · rename_i rest
    have hquery := @isKept_parseQuery rest
    split
    · rename_i query _ fragment heq
      rw [heq] at hquery
      refine ⟨fun q hq => ?_, fun f hf => ?_⟩
      · obtain rfl := Option.some.inj hq
        exact hquery
      · obtain rfl := Option.some.inj hf
        exact isKept_parseFragment
    · rename_i query heq
      rw [heq] at hquery
      refine ⟨fun q hq => ?_, hnone.fragment⟩
      obtain rfl := Option.some.inj hq
      exact hquery
  · refine ⟨hnone.query, fun f hf => ?_⟩
    obtain rfl := Option.some.inj hf
    exact isKept_parseFragment
  · exact hnone

theorem isWeb_of_afterSlashes {scheme : String} (hk : SchemeKind.of scheme = .web) {cs : List Char}
    {u : Url} (h : afterSlashes scheme .web cs = .ok u) : ∃ a segments, u.IsWeb a segments := by
  obtain ⟨a, rest, ha, rfl⟩ := afterSlashes_eq_ok_iff.1 h
  exact ⟨a, (pathAfterAuthority .web rest).1, hk, rfl, parseAuthority_isWritten ha, rfl,
    isPath_pathAfterAuthority rest, isTail_withTail _ _⟩

/-! ### Reading web URLs -/

theorem scheme_of_afterSlashes {scheme : String} {kind : SchemeKind} {cs : List Char} {u : Url}
    (h : afterSlashes scheme kind cs = .ok u) : u.scheme = scheme := by
  obtain ⟨a, rest, -, rfl⟩ := afterSlashes_eq_ok_iff.1 h
  rfl

theorem scheme_of_parseOther {scheme : String} {cs : List Char} {u : Url}
    (h : parseOther scheme cs = .ok u) : u.scheme = scheme := by
  unfold parseOther at h
  split at h
  · exact scheme_of_afterSlashes h
  · obtain rfl := Except.ok.inj h
    rfl
  · obtain rfl := Except.ok.inj h
    rfl

theorem scheme_of_afterFileSlashes {cs : List Char} {u : Url} (h : afterFileSlashes cs = .ok u) :
    u.scheme = "file" := by
  unfold afterFileSlashes at h
  obtain ⟨⟨host, rest⟩, -, h⟩ := bind_eq_ok_iff.1 h
  dsimp only at h
  split at h
  · obtain rfl := Except.ok.inj h
    rfl
  · obtain rfl := Except.ok.inj h
    rfl

theorem scheme_keepPath (base : Url) (kind : SchemeKind) (cs : List Char) :
    (keepPath base kind cs).scheme = base.scheme := by
  unfold keepPath
  split <;> rfl

theorem scheme_fromRoot (base : Option Url) (rest : List Char) :
    (parseFile.fromRoot base rest).scheme = "file" := by
  unfold parseFile.fromRoot
  split
  · rfl
  · split
    · rfl
    · split
      · split <;> rfl
      · rfl

/-- What is read as a file is one. -/
theorem scheme_of_parseFile {base : Option Url} (hbase : ∀ b ∈ base, b.scheme = "file")
    {cs : List Char} {u : Url} (h : parseFile base cs = .ok u) : u.scheme = "file" := by
  have hroot {rest : List Char} (h : Except.ok (parseFile.fromRoot base rest) =
      (Except.ok u : Except Fault Url)) : u.scheme = "file" := by
    obtain rfl := Except.ok.inj h
    exact scheme_fromRoot base rest
  have hfile {host : Host} {cs : List Char} (h : Except.ok (fileUrl host [] cs) =
      (Except.ok u : Except Fault Url)) : u.scheme = "file" := by
    obtain rfl := Except.ok.inj h
    rfl
  unfold parseFile at h
  split at h
  · split at h
    · split at h
      · split at h
        · exact scheme_of_afterFileSlashes h
        · exact hroot h
      · exact hroot h
    · split at h
      · exact hfile h
      · split at h
        · obtain rfl := Except.ok.inj h
          rw [scheme_keepPath]
          exact hbase _ rfl
        · split at h
          · exact hfile h
          · rename_i b _ _
            obtain rfl := Except.ok.inj h
            exact hbase b rfl
  · split at h
    · exact hfile h
    · obtain rfl := Except.ok.inj h
      rw [scheme_keepPath]
      exact hbase _ rfl

theorem scheme_of_parseRelative {base : Url} {kind : SchemeKind} {cs : List Char} {u : Url}
    (h : parseRelative base kind cs = .ok u) : u.scheme = base.scheme := by
  have hkeep {cs : List Char} (h : Except.ok (keepPath base kind cs) =
      (Except.ok u : Except Fault Url)) : u.scheme = base.scheme := by
    obtain rfl := Except.ok.inj h
    exact scheme_keepPath base kind cs
  have hroot {rest : List Char} (h : parseRelative.fromRoot base kind rest = .ok u) :
      u.scheme = base.scheme := by
    obtain rfl := Except.ok.inj h
    rfl
  unfold parseRelative at h
  split at h
  · exact hkeep h
  · split at h
    · exact hkeep h
    · split at h
      · split at h
        · exact scheme_of_afterSlashes h
        · split at h
          · exact scheme_of_afterSlashes h
          · exact hroot h
        · exact hroot h
      · obtain rfl := Except.ok.inj h
        rfl

section Base

variable {base : Url} {a : Authority} {segments : List String} (hbase : base.IsWeb a segments)
  {u : Url}

include hbase

/-- Against a web URL, a web URL is read. -/
theorem isWeb_keepPath (cs : List Char) : (keepPath base .web cs).IsWeb a segments := by
  unfold keepPath
  split
  · refine { hbase with tail := ⟨hbase.tail.query, fun f hf => ?_⟩ }
    obtain rfl := Option.some.inj hf
    exact isKept_parseFragment
  · exact { hbase with tail := isTail_withTail base _ }
  · exact { hbase with tail := ⟨hbase.tail.query, fun f hf => (by cases hf)⟩ }

theorem isWeb_withPath {others : List String} (hothers : IsPath others) (cs : List Char) :
    (withTail { base with path := .rooted others } .web cs).IsWeb a others :=
  { hbase with path := rfl, isPath := hothers, tail := isTail_withTail _ _ }

theorem isWeb_of_parseRelative {cs : List Char} (h : parseRelative base .web cs = .ok u) :
    ∃ b others, u.IsWeb b others := by
  have hkeep {cs : List Char} (h : Except.ok (keepPath base .web cs) =
      (Except.ok u : Except Fault Url)) : ∃ b others, u.IsWeb b others := by
    obtain rfl := Except.ok.inj h
    exact ⟨a, segments, isWeb_keepPath hbase cs⟩
  have hwalk {before : List String} (hbefore : ∀ s ∈ before, IsSegment s.toList) (cs : List Char)
      (h : Except.ok (withTail { base with path := .rooted (walk .web before cs).1 } .web
        (walk .web before cs).2) = (Except.ok u : Except Fault Url)) :
      ∃ b others, u.IsWeb b others := by
    obtain rfl := Except.ok.inj h
    exact ⟨a, _, isWeb_withPath hbase (isPath_walk hbefore cs) _⟩
  have hroot {rest : List Char} (h : parseRelative.fromRoot base .web rest = .ok u) :
      ∃ b others, u.IsWeb b others := hwalk (List.forall_mem_nil _) rest h
  have hfolder : ∀ s ∈ folderOf .web base, IsSegment s.toList := by
    have hsegments : folderOf .web base = base.segmentsOf.dropLast := rfl
    intro s hs
    rw [hsegments, segmentsOf, hbase.path] at hs
    exact hbase.isPath.segment s (List.dropLast_subset _ hs)
  unfold parseRelative at h
  split at h
  · exact hkeep h
  · split at h
    · exact hkeep h
    · split at h
      · split at h
        · exact isWeb_of_afterSlashes hbase.kind h
        · split at h
          · exact isWeb_of_afterSlashes hbase.kind h
          · exact hroot h
        · exact hroot h
      · rename_i c rest _ _
        exact hwalk hfolder (c :: rest) h

end Base

theorem not_web_of_file {u : Url} (h : u.scheme = "file") : SchemeKind.of u.scheme ≠ .web := by
  rw [h]
  decide

/-- Behind a web scheme, a web URL is read. -/
theorem isWeb_of_parseScheme {base : Option Url}
    (hbase : ∀ b ∈ base, SchemeKind.of b.scheme = .web → ∃ a segments, b.IsWeb a segments)
    {scheme : String} {cs : List Char} {u : Url} (h : parseScheme base scheme cs = .ok u)
    (hu : SchemeKind.of u.scheme = .web) : ∃ a segments, u.IsWeb a segments := by
  unfold parseScheme at h
  split at h
  · -- the scheme of a file
    refine absurd hu (not_web_of_file (scheme_of_parseFile (fun b hb => ?_) h))
    simpa using (Option.mem_filter_iff.1 hb).2
  · rename_i hk
    dsimp only at h
    split at h
    · rename_i b hb
      obtain ⟨hmem, hscheme⟩ := Option.mem_filter_iff.1 hb
      obtain rfl : b.scheme = scheme := by simpa using hscheme
      obtain ⟨a, segments, hweb⟩ := hbase b hmem hk
      split at h
      · exact isWeb_of_parseRelative hweb h
      · exact isWeb_of_afterSlashes hk h
    · exact isWeb_of_afterSlashes hk h
  · rename_i hk
    rw [scheme_of_parseOther h, hk] at hu
    cases hu

/-- **A web URL that has been read can be written.** -/
theorem isWeb_of_parse {s : String} {u : Url} (h : parse s = .ok u)
    (hu : SchemeKind.of u.scheme = .web) : ∃ a segments, u.IsWeb a segments := by
  obtain ⟨scheme, rest, -, h⟩ := parse_eq_ok_iff.1 h
  exact isWeb_of_parseScheme (fun b hb => (by cases hb)) h hu

/-- **So can one that has been read against another URL.** -/
theorem isWeb_of_join {base : Url} {reference : String}
    (hbase : SchemeKind.of base.scheme = .web → ∃ a segments, base.IsWeb a segments) {u : Url}
    (h : join base reference = .ok u) (hu : SchemeKind.of u.scheme = .web) :
    ∃ a segments, u.IsWeb a segments := by
  unfold join parseChars at h
  split at h
  · refine isWeb_of_parseScheme (fun b hb => ?_) h hu
    obtain rfl := Option.some.inj hb
    exact hbase
  · dsimp only at h
    split at h
    · obtain rfl := Except.ok.inj h
      rw [scheme_keepPath] at hu
      obtain ⟨a, segments, hweb⟩ := hbase hu
      rw [hu]
      exact ⟨a, segments, isWeb_keepPath hweb _⟩
    · split at h
      · cases h
      · split at h
        · rename_i hk
          refine absurd hu (not_web_of_file (scheme_of_parseFile (fun b hb => ?_) h))
          obtain rfl := Option.some.inj hb
          exact scheme_eq_file hk
        · rw [scheme_of_parseRelative h] at hu
          obtain ⟨a, segments, hweb⟩ := hbase hu
          rw [hu] at h
          exact isWeb_of_parseRelative hweb h

/-! ### Written web URLs -/

/-- A web URL as it is written, up to its path. -/
def frontChars (u : Url) (a : Authority) : List Char :=
  u.scheme.toList ++ ':' :: '/' :: '/' :: a.chars

/-- Query and fragment as they are written. -/
def tailChars (u : Url) : List Char :=
  (marked "?" u.query).toList ++ (marked "#" u.fragment).toList

theorem toList_marked (c : Char) (part : Option String) :
    (marked (String.singleton c) part).toList = part.elim [] (c :: ·.toList) := by
  cases part with
  | none => rfl
  | some s => simp [marked]

theorem tailChars_eq (u : Url) : u.tailChars =
    u.query.elim [] ('?' :: ·.toList) ++ u.fragment.elim [] ('#' :: ·.toList) := by
  rw [tailChars, ← toList_marked '?', ← toList_marked '#']
  rfl

theorem tailChars_eq_nil_iff {u : Url} : u.tailChars = [] ↔ u.query = none ∧ u.fragment = none := by
  rw [tailChars_eq]
  cases u.query <;> cases u.fragment <;> simp

theorem endsPath_tailChars (u : Url) : EndsPath u.tailChars := by
  rw [tailChars_eq]
  cases u.query <;> cases u.fragment <;> simp [EndsPath]

theorem mem_of_web {scheme : String} (hk : SchemeKind.of scheme = .web) :
    scheme ∈ ["http", "https", "ws", "wss", "ftp"] := by
  unfold SchemeKind.of at hk
  split at hk
  · cases hk
  · split at hk
    · assumption
    · cases hk

theorem splitScheme_of_web {scheme : String} (hk : SchemeKind.of scheme = .web) (rest : List Char) :
    splitScheme (scheme.toList ++ ':' :: rest) = some (scheme, rest) := by
  have hmem := mem_of_web hk
  simp only [List.mem_cons, List.not_mem_nil, or_false] at hmem
  obtain rfl | rfl | rfl | rfl | rfl := hmem <;> rfl

/-- A text without controls and spaces is ready to be read. -/
theorem prepare_of_lt {s : String} (h : ∀ c ∈ s.toList, 0x20 < c.toNat) : prepare s = s.toList := by
  have hdrop {cs : List Char} (hcs : ∀ c ∈ cs, 0x20 < c.toNat) :
      cs.dropWhile (fun c => decide (c.toNat ≤ 0x20)) = cs := by
    rw [List.dropWhile_eq_self_iff]
    intro hl
    have := hcs _ (List.getElem_mem hl)
    simpa using this
  rw [prepare, hdrop h, hdrop fun c hc => h c (List.mem_reverse.1 hc), List.reverse_reverse,
    filter_kept_of_lt h]

theorem lt_of_mem_pathChars {segments : List String} (h : ∀ s ∈ segments, IsSegment s.toList) :
    ∀ c ∈ pathChars segments, 0x20 < c.toNat := by
  intro c hc
  obtain ⟨s, hs, hc⟩ := List.mem_flatMap.1 hc
  obtain rfl | hc := List.mem_cons.1 hc
  · decide
  · exact lt_of_isKept (fun _ => pathSet_of_blank) ((h s hs).kept c hc)

section Web

variable {u : Url} {a : Authority} {segments : List String} (h : u.IsWeb a segments)

include h

theorem IsWeb.toList_text :
    u.text.toList = u.frontChars a ++ (pathChars segments ++ u.tailChars) := by
  have hbefore : u.beforePath = a.text := by
    unfold beforePath
    rw [h.authority]
  simp only [text, hbefore, String.toList_append, a.toList_text, h.path, toList_text_rooted,
    frontChars, tailChars, List.append_assoc, List.cons_append]
  rfl

theorem IsWeb.lt_of_mem_frontChars : ∀ c ∈ u.frontChars a, 0x20 < c.toNat := by
  have hschemes : ∀ scheme ∈ ["http", "https", "ws", "wss", "ftp"],
      scheme.toList.all (0x20 < ·.toNat) = true := by decide
  intro c hc
  simp only [frontChars, List.mem_append, List.mem_cons] at hc
  obtain hc | rfl | rfl | rfl | hc := hc
  · simpa using List.all_eq_true.1 (hschemes _ (mem_of_web h.kind)) c hc
  · decide
  · decide
  · decide
  · exact (h.isWritten.char hc).1

theorem IsWeb.lt_of_mem_tailChars : ∀ c ∈ u.tailChars, 0x20 < c.toNat := by
  intro c hc
  rw [tailChars_eq] at hc
  obtain hc | hc := List.mem_append.1 hc
  · cases hq : u.query with
    | none => simp [hq] at hc
    | some q =>
      rw [hq] at hc
      obtain rfl | hc := List.mem_cons.1 hc
      · decide
      · exact lt_of_isKept (fun _ => specialQuerySet_of_blank) (h.tail.query q hq c hc)
  · cases hf : u.fragment with
    | none => simp [hf] at hc
    | some f =>
      rw [hf] at hc
      obtain rfl | hc := List.mem_cons.1 hc
      · decide
      · exact lt_of_isKept (fun _ => fragmentSet_of_blank) (h.tail.fragment f hf c hc)

/-- What is written in front of a path is read again, but for the host, whatever path and tail
follow. -/
theorem IsWeb.parse_front_iff {others : List String} (hothers : IsPath others) {rest : List Char}
    (hrest : EndsPath rest) (hlt : ∀ c ∈ rest, 0x20 < c.toNat) {s : String}
    (hs : s.toList = u.frontChars a ++ (pathChars others ++ rest)) {v : Url} :
    parse s = .ok v ↔ ∃ host, parseWebHost a.host.text.toList = .ok host ∧
      v = withTail ⟨u.scheme, some { a with host := host }, .rooted others, none, none⟩ .web
        rest := by
  have hprepare : prepare s = u.frontChars a ++ (pathChars others ++ rest) := by
    rw [prepare_of_lt, hs]
    rw [hs]
    exact List.forall_mem_append.2 ⟨h.lt_of_mem_frontChars,
      List.forall_mem_append.2 ⟨lt_of_mem_pathChars hothers.segment, hlt⟩⟩
  have hsplit : splitScheme (prepare s) =
      some (u.scheme, '/' :: '/' :: (a.chars ++ (pathChars others ++ rest))) := by
    rw [hprepare, frontChars, List.append_assoc]
    exact splitScheme_of_web h.kind _
  have hslash := h.isWritten.dropSlashes_chars (pathChars others ++ rest)
  -- the slash of the first segment ends the authority
  have hauthority {b : Authority} {behind : List Char} :
      parseAuthority u.scheme .web (a.chars ++ (pathChars others ++ rest)) = .ok (b, behind) ↔
        parseWebHost a.host.text.toList = .ok b.host ∧ b = { a with host := b.host } ∧
          behind = pathChars others ++ rest := by
    obtain ⟨first, others, rfl⟩ := List.exists_cons_of_ne_nil hothers.ne_nil
    exact h.isWritten.parseAuthority_chars_append (endsAuthority_slash .web) _
  rw [parse_eq_ok_iff, hsplit]
  constructor
  · rintro ⟨scheme, behind, heq, hv⟩
    obtain ⟨rfl, rfl⟩ := Prod.mk.inj (Option.some.inj heq)
    rw [parseScheme_web h.kind, hslash] at hv
    obtain ⟨b, behind, hb, rfl⟩ := afterSlashes_eq_ok_iff.1 hv
    obtain ⟨hhost, hsame, rfl⟩ := hauthority.1 hb
    refine ⟨b.host, hhost, ?_⟩
    rw [pathAfterAuthority_pathChars hothers hrest, ← hsame]
  · rintro ⟨host, hhost, rfl⟩
    refine ⟨_, _, rfl, ?_⟩
    rw [parseScheme_web h.kind, hslash, afterSlashes_eq_ok_iff]
    refine ⟨{ a with host := host }, _, hauthority.2 ⟨hhost, rfl, rfl⟩, ?_⟩
    rw [pathAfterAuthority_pathChars hothers hrest]

end Web

/-! ### Parts behind web URLs -/

/-- A text that writes segments, the first of which is not empty. -/
structure Writes (part : String) (parts : List String) : Prop where
  /-- It is what stands behind the first slash. -/
  chars : pathChars parts = '/' :: part.toList
  /-- They are segments. -/
  isPath : IsPath parts
  /-- The first one is not empty. -/
  first : parts.head? ≠ some ""

/-- Whether a URL is on the server of another one, and its path continues the path of that one,
without the empty segments at its end. -/
structure IsBelow (v u : Url) (parts : List String) : Prop where
  /-- They have one scheme, one host and one port. -/
  isOn : v.IsOn u
  /-- The path goes on. -/
  path : v.path = .rooted (trimmed u.segmentsOf ++ parts)

/-- Whether parts can be put behind the text of a URL: it ends with its path, and its host is read
again, which an address always is. -/
structure IsRoot (u : Url) : Prop where
  /-- There is no query. -/
  query : u.query = none
  /-- There is no fragment. -/
  fragment : u.fragment = none
  /-- The name of the host is read again. -/
  name : ∀ s, u.host? = some (.name s) → (Host.name s).ReadsBack

theorem rdropWhile_append_cons (p : Char → Bool) {c : Char} (hc : p c = false) (xs ys : List Char) :
    (xs ++ c :: ys).rdropWhile p = xs ++ c :: ys.rdropWhile p := by
  have hreverse : (xs ++ c :: ys).reverse = ys.reverse ++ c :: xs.reverse := by simp
  rw [List.rdropWhile, hreverse, dropWhile_append_cons hc, List.rdropWhile]
  simp

theorem toList_joined (s part : String) :
    (joined s part).toList = s.toList.rdropWhile (· == '/') ++ '/' :: part.toList := by
  simp [joined, dropEnd, List.rdropWhile]

theorem eq_trimmed_append (segments : List String) :
    ∃ n, segments = trimmed segments ++ List.replicate n "" := by
  refine ⟨(segments.rtakeWhile (· == "")).length, ?_⟩
  have hempty : segments.rtakeWhile (· == "") =
      List.replicate (segments.rtakeWhile (· == "")).length "" :=
    List.eq_replicate_iff.2 ⟨rfl, fun s hs => by simpa using List.mem_rtakeWhile_imp hs⟩
  rw [← hempty, trimmed, List.rdropWhile_append_rtakeWhile]

section Below

variable {u : Url} {a : Authority} {segments : List String} (h : u.IsWeb a segments)
  {part : String} {parts : List String} (hpart : Writes part parts)

include h

theorem IsWeb.getLast_frontChars : ∀ c ∈ (u.frontChars a).getLast?, c ≠ '/' := by
  have hlast : (u.frontChars a).getLast? = a.chars.getLast? := by
    rw [List.getLast?_eq_some_getLast (Authority.chars_ne_nil h.isWritten), frontChars,
      List.getLast?_append, List.getLast?_cons_cons, List.getLast?_cons_cons, List.getLast?_cons,
      List.getLast?_eq_some_getLast (Authority.chars_ne_nil h.isWritten)]
    rfl
  intro c hc
  rw [hlast] at hc
  have hends := (h.isWritten.char (List.mem_of_getLast? hc)).2
  rintro rfl
  rw [endsAuthority_slash] at hends
  cases hends

theorem IsWeb.isPath_trimmed_append (hpart : Writes part parts) :
    IsPath (trimmed segments ++ parts) := by
  obtain ⟨n, hn⟩ := eq_trimmed_append segments
  refine ⟨by simp [hpart.isPath.ne_nil], List.forall_mem_append.2 ⟨fun s hs => ?_,
    hpart.isPath.segment⟩⟩
  exact h.isPath.segment s (by rw [hn]; exact List.mem_append_left _ hs)

include hpart

/-- With neither query nor fragment, what is appended continues the path. -/
theorem IsWeb.parse_joined_iff (htail : u.tailChars = []) {v : Url} :
    parse (joined u.text part) = .ok v ↔ ∃ host, parseWebHost a.host.text.toList = .ok host ∧
      v = ⟨u.scheme, some { a with host := host }, .rooted (trimmed segments ++ parts), none,
        none⟩ := by
  have hs : (joined u.text part).toList =
      u.frontChars a ++ (pathChars (trimmed segments ++ parts) ++ []) := by
    rw [toList_joined, h.toList_text, htail, List.append_nil,
      rdropWhile_pathChars h.getLast_frontChars h.isPath.segment, pathChars_append, hpart.chars]
    simp
  exact h.parse_front_iff (h.isPath_trimmed_append hpart) endsPath_nil (List.forall_mem_nil _) hs

/-- Behind a query or a fragment, what is appended leaves the path as it is. -/
theorem IsWeb.path_joined (htail : u.tailChars ≠ []) {v : Url}
    (hv : parse (joined u.text part) = .ok v) : v.path = .rooted segments := by
  obtain ⟨c, tail, hc⟩ := List.exists_cons_of_ne_nil htail
  have hmark : c = '?' ∨ c = '#' := endsPath_tailChars u c (by simp [hc])
  have hslash : (c == '/') = false := by obtain rfl | rfl := hmark <;> rfl
  have hs : (joined u.text part).toList = u.frontChars a ++ (pathChars segments ++
      (c :: (tail.rdropWhile (· == '/') ++ '/' :: part.toList))) := by
    rw [toList_joined, h.toList_text, hc, ← List.append_assoc,
      rdropWhile_append_cons (· == '/') hslash]
    simp
  have hlt : ∀ d ∈ c :: (tail.rdropWhile (· == '/') ++ '/' :: part.toList), 0x20 < d.toNat := by
    have htail := h.lt_of_mem_tailChars
    rw [hc] at htail
    obtain ⟨hcl, htail⟩ := List.forall_mem_cons.1 htail
    refine List.forall_mem_cons.2 ⟨hcl, List.forall_mem_append.2 ⟨fun d hd => ?_, ?_⟩⟩
    · exact htail d ((List.rdropWhile_prefix _ _).subset hd)
    · rw [← hpart.chars]
      exact lt_of_mem_pathChars hpart.isPath.segment
  have hends : EndsPath (c :: (tail.rdropWhile (· == '/') ++ '/' :: part.toList)) := by
    simpa [EndsPath] using hmark
  obtain ⟨host, -, rfl⟩ := (h.parse_front_iff h.isPath hends hlt hs).1 hv
  rfl

/-- **What is appended to the text of a web URL lands below the URL** exactly if the URL has
neither query nor fragment and the name of its host is read again. -/
theorem IsWeb.joined_isBelow_iff :
    (∃ v, parse (joined u.text part) = .ok v ∧ v.IsBelow u parts) ↔ u.IsRoot := by
  have hsegments : u.segmentsOf = segments := by rw [segmentsOf, h.path]
  have hhost : u.host? = some a.host := by
    rw [host?_of_authority h.authority, if_neg]
    intro hname
    exact h.isWritten.hostText.ne_nil (by rw [hname]; rfl)
  constructor
  · rintro ⟨v, hv, hbelow⟩
    have htail : u.tailChars = [] := by
      by_contra htail
      have hpath := hbelow.path
      rw [h.path_joined hpart htail hv, hsegments] at hpath
      obtain ⟨n, hn⟩ := eq_trimmed_append segments
      have hparts : List.replicate n "" = parts :=
        List.append_cancel_left (hn.symm.trans (Path.rooted.inj hpath))
      have hfirst := hpart.first
      obtain ⟨first, others, rfl⟩ := List.exists_cons_of_ne_nil hpart.isPath.ne_nil
      have hmem : first ∈ List.replicate n "" := by rw [hparts]; exact List.mem_cons_self
      exact hfirst (by rw [List.eq_of_mem_replicate hmem]; rfl)
    obtain ⟨hquery, hfragment⟩ := tailChars_eq_nil_iff.1 htail
    obtain ⟨host, hreads, rfl⟩ := (h.parse_joined_iff hpart htail).1 hv
    obtain rfl : host = a.host := hbelow.isOn.host_eq rfl h.authority
    refine ⟨hquery, hfragment, fun s hname => ?_⟩
    rw [← Option.some.inj (hhost.symm.trans hname)]
    exact hreads
  · rintro ⟨hquery, hfragment, hname⟩
    have htail : u.tailChars = [] := tailChars_eq_nil_iff.2 ⟨hquery, hfragment⟩
    obtain ⟨cs, hcs⟩ := h.isWritten.host
    have hreads : a.host.ReadsBack :=
      Host.readsBack_of_parseWebHost hcs fun s hs => hname s (hhost.trans (congrArg some hs))
    refine ⟨_, (h.parse_joined_iff hpart htail).2 ⟨a.host, hreads, rfl⟩,
      .of_authority rfl h.authority.symm, ?_⟩
    rw [hsegments]

end Below

end SignIn.Url
