import SignIn.Proofs.Url.Path

/-!
# The server of a URL

Scheme, host and port of a URL say which server it is on.  They come from its scheme and its
authority alone, and where the authority comes from depends on the kind of the scheme: a web URL
always has one, another one has it behind two slashes, and the one of a file URL is only a host,
which a path that starts at a drive drops.

## Main definitions

* `IsOn` — two URLs are on one server.
* `LeadsToDrive` — the path behind the host of a file starts at a drive.

## Main results

* `parse_eq_ok_iff` — an address that stands alone is read by its scheme.
* `afterSlashes_eq_ok_iff`, `afterFileSlashes_of_host` — the URL behind two slashes.
* `port?_eq_none` — without a host there is no port.
-/

namespace SignIn.Url

open SignIn.Text

/-- The port, unless it is the scheme's own. -/
def port? (u : Url) : Option Nat := u.authority.bind (·.port)

/-- Whether a URL is on the server of another one: they have one scheme, one host and one
port. -/
structure IsOn (v u : Url) : Prop where
  scheme : v.scheme = u.scheme
  host : v.host? = u.host?
  port : v.port? = u.port?

theorem host?_of_authority {u : Url} {a : Authority} (h : u.authority = some a) :
    u.host? = if a.host = .name "" then none else some a.host := by
  simp only [host?, h]

theorem IsOn.host_eq {v u : Url} {a b : Authority} (h : v.IsOn u) (hv : v.authority = some b)
    (hu : u.authority = some a) : b.host = a.host := by
  have heq := h.host
  rw [host?_of_authority hv, host?_of_authority hu] at heq
  split at heq <;> split at heq
  · rename_i hb ha
    rw [hb, ha]
  · cases heq
  · cases heq
  · exact Option.some.inj heq

/-- URLs with one scheme and one authority are on one server. -/
theorem IsOn.of_authority {v u : Url} (hs : v.scheme = u.scheme) (ha : v.authority = u.authority) :
    v.IsOn u := by
  refine ⟨hs, ?_, ?_⟩ <;> simp only [host?, port?, ha]

/-! ### Authorities -/

@[simp] theorem scheme_withTail (u : Url) (kind : SchemeKind) (cs : List Char) :
    (withTail u kind cs).scheme = u.scheme := rfl

@[simp] theorem authority_withTail (u : Url) (kind : SchemeKind) (cs : List Char) :
    (withTail u kind cs).authority = u.authority := rfl

@[simp] theorem path_withTail (u : Url) (kind : SchemeKind) (cs : List Char) :
    (withTail u kind cs).path = u.path := rfl

theorem afterSlashes_eq_ok_iff {scheme : String} {kind : SchemeKind} {cs : List Char} {u : Url} :
    afterSlashes scheme kind cs = .ok u ↔ ∃ a rest, parseAuthority scheme kind cs = .ok (a, rest) ∧
      withTail ⟨scheme, some a, .rooted (pathAfterAuthority kind rest).1, none, none⟩ kind
        (pathAfterAuthority kind rest).2 = u := by
  unfold afterSlashes
  simp only [bind_eq_ok_iff]
  constructor
  · rintro ⟨⟨a, rest⟩, h, hu⟩
    exact ⟨a, rest, h, Except.ok.inj hu⟩
  · rintro ⟨a, rest, h, rfl⟩
    exact ⟨(a, rest), h, rfl⟩

theorem parseHostAndPort_nil {scheme : String} {kind : SchemeKind} {host : Host}
    {port : Option Nat} {rest : List Char}
    (h : parseHostAndPort scheme kind [] = .ok (host, port, rest)) : host = .name "" := by
  have hhost := (parseHostAndPort_eq_ok_iff.1 h).1
  rw [spanHost, parseHost] at hhost
  split at hhost
  · cases hhost
    rfl
  · cases hhost

/-- An authority with a host is not just an at-sign. -/
theorem splitUser_ne_of_host {scheme : String} {kind : SchemeKind} {cs rest : List Char}
    {a : Authority} (h : parseAuthority scheme kind cs = .ok (a, rest)) (hhost : a.host ≠ .name "") :
    splitUser kind cs ≠ (some [], []) := by
  intro hu
  obtain ⟨-, hp, -⟩ := parseAuthority_eq_ok_iff.1 h
  rw [hu] at hp
  exact hhost (parseHostAndPort_nil hp)

theorem splitUser_eq_at {kind : SchemeKind} {cs : List Char} :
    splitUser kind cs = (some [], []) ↔ cs = ['@'] := by
  constructor
  · intro h
    unfold splitUser at h
    rcases hspan : cs.span (!endsAuthority kind ·) with ⟨authority, rest⟩
    rw [hspan] at h
    dsimp only at h
    split at h
    · rename_i host c user hat
      simp only [Prod.mk.injEq, Option.some.injEq, List.reverse_eq_nil_iff,
        List.append_eq_nil_iff] at h
      obtain ⟨rfl, rfl, rfl⟩ := h
      have hauthority : authority = [c] := by
        simpa using congrArg List.reverse (eq_append_of_span hat)
      have hc : c = '@' := by
        rw [hauthority] at hat
        by_contra hc
        simp [List.span_eq_takeWhile_dropWhile, hc] at hat
      rw [eq_append_of_span hspan, hauthority, hc, List.append_nil]
    · cases (Prod.mk.inj h).1
  · rintro rfl
    cases kind <;> rfl

theorem port_eq_none_of_host {scheme : String} {kind : SchemeKind} {cs rest : List Char}
    {a : Authority} (h : parseAuthority scheme kind cs = .ok (a, rest)) (hhost : a.host = .name "") :
    a.port = none := by
  obtain ⟨-, hp, -⟩ := parseAuthority_eq_ok_iff.1 h
  have hport := (parseHostAndPort_eq_ok_iff.1 hp).2
  unfold parseColonPort at hport
  split at hport
  · rw [if_pos hhost] at hport
    cases hport
  · exact (Prod.mk.inj (Except.ok.inj hport)).1.symm

theorem parseWebHost_ne_empty (cs : List Char) : parseWebHost cs ≠ .ok (.name "") := by
  unfold parseWebHost
  split
  · unfold parseBracketed
    split
    · rw [Ne, map_eq_ok_iff]
      rintro ⟨ps, -, h⟩
      cases h
    · intro h
      cases h
  · split
    · intro h
      cases h
    · rw [Ne, bind_eq_ok_iff]
      rintro ⟨domain, -, h⟩
      split at h
      · cases h
      · rename_i hne
        split at h
        · obtain ⟨n, -, h⟩ := bind_eq_ok_iff.1 h
          cases h
        · have h' := Host.name.inj (Except.ok.inj h)
          rw [← String.ofList_nil, String.ofList_inj] at h'
          exact hne (by rw [h']; rfl)

/-- Under a web scheme there always is a host. -/
theorem host_ne_of_web {scheme : String} {cs rest : List Char} {a : Authority}
    (h : parseAuthority scheme .web cs = .ok (a, rest)) : a.host ≠ .name "" := by
  obtain ⟨-, hp, -⟩ := parseAuthority_eq_ok_iff.1 h
  have hhost := (parseHostAndPort_eq_ok_iff.1 hp).1
  intro hname
  rw [hname, parseHost, if_neg (by decide)] at hhost
  split at hhost
  · cases hhost
  · exact parseWebHost_ne_empty _ hhost

theorem dropWhile_ne_nil_of_web {scheme : String} {cs rest : List Char} {a : Authority}
    (h : parseAuthority scheme .web cs = .ok (a, rest)) : cs ≠ [] := by
  rintro rfl
  obtain ⟨-, hp, -⟩ := parseAuthority_eq_ok_iff.1 h
  exact host_ne_of_web h (parseHostAndPort_nil hp)

/-- An authority that starts with a slash has no host. -/
theorem host_of_slashes {scheme : String} {n : Nat} {a : Authority} {rest : List Char}
    (h : parseAuthority scheme .other (List.replicate n '/') = .ok (a, rest)) :
    a.host = .name "" := by
  have hu : splitUser .other (List.replicate n '/') = (none, List.replicate n '/') := by
    cases n <;> rfl
  have hs : (spanHost .other false (List.replicate n '/')).1 = [] := by cases n <;> rfl
  obtain ⟨-, hp, -⟩ := parseAuthority_eq_ok_iff.1 h
  rw [hu] at hp
  have hhost := (parseHostAndPort_eq_ok_iff.1 hp).1
  rw [hs] at hhost
  generalize a.host = host at hhost ⊢
  cases hhost
  rfl

theorem parseOther_of_no_authority (scheme : String) {cs : List Char}
    (h : ∀ rest, cs ≠ '/' :: '/' :: rest) :
    ∃ u, parseOther scheme cs = .ok u ∧ u.scheme = scheme ∧ u.authority = none := by
  unfold parseOther
  split
  · exact absurd rfl (h _)
  · exact ⟨_, rfl, rfl, rfl⟩
  · exact ⟨_, rfl, rfl, rfl⟩

/-! ### Files -/

/-- Whether the path behind the host of a file starts at a drive. -/
def LeadsToDrive (cs : List Char) : Prop :=
  StartsAtDrive (walkFrom .file [] [] (dropSlash .file cs)).1

theorem dropSlash_append {cs : List Char} (hne : cs ≠ []) (kind : SchemeKind) (ds : List Char) :
    dropSlash kind (cs ++ ds) = dropSlash kind cs ++ ds := by
  obtain ⟨c, cs, rfl⟩ := List.exists_cons_of_ne_nil hne
  rw [List.cons_append, dropSlash, dropSlash]
  split <;> rfl

theorem not_leadsToDrive_nil : ¬ LeadsToDrive [] := by
  have hnil : dropSlash .file [] = [] := rfl
  rw [LeadsToDrive, hnil, startsAtDrive_walkFrom_of_isPlain (List.forall_mem_nil _)]
  exact not_startsAtDrive_nil

theorem leadsToDrive_append {part : List Char} (hpart : ∀ c ∈ part, isPlain c = true)
    (cs : List Char) : LeadsToDrive (cs ++ '/' :: part) ↔ LeadsToDrive cs := by
  by_cases hcs : cs = []
  · subst hcs
    have hslash : dropSlash .file ([] ++ '/' :: part) = part := rfl
    refine iff_of_false ?_ not_leadsToDrive_nil
    rw [LeadsToDrive, hslash, startsAtDrive_walkFrom_of_isPlain hpart]
    exact not_startsAtDrive_nil
  · rw [LeadsToDrive, LeadsToDrive, dropSlash_append hcs]
    exact startsAtDrive_walkFrom_append hpart ..

theorem not_leadsToDrive_append {part t : List Char} (hpart : ∀ c ∈ part, isPlain c = true)
    (ht : ∀ c ∈ t, c.toNat ≤ 0x20) (hne : t ≠ []) {cs : List Char} (hcs : cs ≠ [])
    (h : ¬ LeadsToDrive cs) : ¬ LeadsToDrive (cs ++ (t ++ '/' :: part)) := by
  rw [LeadsToDrive, dropSlash_append hcs]
  exact not_startsAtDrive_walkFrom_append hpart ht hne h

theorem leadsToDrive_iff {cs : List Char} : LeadsToDrive cs ↔
    (walk .file [] (dropSlash .file cs)).1.head?.any (isPlainDrive ·.toList) = true := by
  rw [walk, LeadsToDrive, StartsAtDrive]
  cases hlast : (walkFrom .file [] [] (dropSlash .file cs)).1.getLast? <;> simp [hlast]

/-- The URL of a file: a path that starts at a drive drops the host. -/
theorem afterFileSlashes_of_host {cs rest : List Char} {host : Host}
    (h : parseFileHost cs = .ok (host, rest)) :
    ∃ u, afterFileSlashes cs = .ok u ∧ u.scheme = "file" ∧
      (host = .name "" ∨ LeadsToDrive rest → u.authority = some (fileAuthority (.name ""))) ∧
      (¬ (host = .name "" ∨ LeadsToDrive rest) → u.authority = some (fileAuthority host)) := by
  unfold afterFileSlashes
  rw [h]
  simp only [bind, Except.bind]
  by_cases hname : host = .name ""
  · rw [if_pos hname]
    exact ⟨_, rfl, rfl, fun _ => by rw [hname]; rfl, fun hnot => absurd (.inl hname) hnot⟩
  · rw [if_neg hname]
    refine ⟨_, rfl, rfl, fun hor => ?_, fun hnot => ?_⟩
    · rw [leadsToDrive_iff.1 (hor.resolve_left hname)]
      rfl
    · rw [Bool.eq_false_iff.2 fun hd => (not_or.1 hnot).2 (leadsToDrive_iff.2 hd)]
      rfl

theorem host_of_afterFileSlashes {cs : List Char} {u : Url} (h : afterFileSlashes cs = .ok u) :
    ∃ host rest, parseFileHost cs = .ok (host, rest) := by
  unfold afterFileSlashes at h
  obtain ⟨⟨host, rest⟩, hh, -⟩ := bind_eq_ok_iff.1 h
  exact ⟨host, rest, hh⟩

/-- Two file URLs with one host are on one server if there is no host, or both paths start at a
drive or neither does. -/
theorem afterFileSlashes_isOn {cs ds rest behind : List Char} {host : Host} {u : Url}
    (h : afterFileSlashes cs = .ok u) (hc : parseFileHost cs = .ok (host, rest))
    (hd : parseFileHost ds = .ok (host, behind)) :
    ∃ v, afterFileSlashes ds = .ok v ∧
      (v.IsOn u ↔ host = .name "" ∨ (LeadsToDrive behind ↔ LeadsToDrive rest)) := by
  obtain ⟨u', hu, hus, hudrop, hukeep⟩ := afterFileSlashes_of_host hc
  obtain ⟨v, hv, hvs, hvdrop, hvkeep⟩ := afterFileSlashes_of_host hd
  obtain rfl : u' = u := Except.ok.inj (hu.symm.trans h)
  refine ⟨v, hv, ?_⟩
  by_cases hname : host = .name ""
  · refine iff_of_true (.of_authority (hvs.trans hus.symm) ?_) (.inl hname)
    rw [hudrop (.inl hname), hvdrop (.inl hname)]
  · simp only [hname, false_or] at hudrop hukeep hvdrop hvkeep ⊢
    by_cases hrest : LeadsToDrive rest <;> by_cases hbehind : LeadsToDrive behind
    · refine iff_of_true (.of_authority (hvs.trans hus.symm) ?_) (iff_of_true hbehind hrest)
      rw [hudrop hrest, hvdrop hbehind]
    · refine iff_of_false (fun hon => ?_) (fun hiff => hbehind (hiff.2 hrest))
      exact hname (hon.host_eq (hvkeep hbehind) (hudrop hrest))
    · refine iff_of_false (fun hon => ?_) (fun hiff => hrest (hiff.1 hbehind))
      exact hname (hon.host_eq (hvdrop hbehind) (hukeep hrest)).symm
    · refine iff_of_true (.of_authority (hvs.trans hus.symm) ?_) (iff_of_false hbehind hrest)
      rw [hukeep hrest, hvkeep hbehind]

theorem parseFile_slashes {c d : Char} (hc : isSlash c = true) (hd : isSlash d = true)
    (cs : List Char) : parseFile none (c :: d :: cs) = afterFileSlashes cs := by
  have hc' : c = '/' ∨ c = '\\' := by simpa [isSlash] using hc
  have hd' : d = '/' ∨ d = '\\' := by simpa [isSlash] using hd
  simp only [parseFile, hc', hd', if_true]

theorem parseFile_of_no_authority {cs : List Char}
    (h : ∀ c d rest, cs = c :: d :: rest → ¬ (isSlash c = true ∧ isSlash d = true)) :
    ∃ u, parseFile none cs = .ok u ∧ u.scheme = "file" ∧
      u.authority = some (fileAuthority (.name "")) := by
  rcases cs with _ | ⟨c, _ | ⟨d, cs⟩⟩
  · exact ⟨_, rfl, rfl, rfl⟩
  · by_cases hc : c = '/' ∨ c = '\\'
    · simp only [parseFile, hc, if_true]
      exact ⟨_, rfl, rfl, rfl⟩
    · simp only [parseFile, hc, if_false]
      exact ⟨_, rfl, rfl, rfl⟩
  · have hcd := h c d cs rfl
    simp only [isSlash, Bool.or_eq_true, beq_iff_eq, not_and] at hcd
    by_cases hc : c = '/' ∨ c = '\\'
    · simp only [parseFile, hc, hcd hc, if_true, if_false]
      exact ⟨_, rfl, rfl, rfl⟩
    · simp only [parseFile, hc, if_false]
      exact ⟨_, rfl, rfl, rfl⟩

/-! ### By scheme -/

theorem scheme_eq_file {scheme : String} (h : SchemeKind.of scheme = .file) : scheme = "file" := by
  unfold SchemeKind.of at h
  split at h
  · assumption
  · split at h <;> cases h

theorem parseScheme_file {scheme : String} (hk : SchemeKind.of scheme = .file) (cs : List Char) :
    parseScheme none scheme cs = parseFile none cs := by
  simp only [parseScheme, hk, Option.filter_none]

theorem parseScheme_web {scheme : String} (hk : SchemeKind.of scheme = .web) (cs : List Char) :
    parseScheme none scheme cs = afterSlashes scheme .web (cs.dropWhile isSlash) := by
  simp only [parseScheme, hk, Option.filter_none]

theorem parseScheme_other {scheme : String} (hk : SchemeKind.of scheme = .other)
    (cs : List Char) : parseScheme none scheme cs = parseOther scheme cs := by
  simp only [parseScheme, hk]

/-- Without a host there is no port. -/
theorem port?_eq_none {scheme : String} {cs : List Char} {u : Url}
    (h : parseScheme none scheme cs = .ok u) (hhost : u.host? = none) :
    u.scheme = scheme ∧ u.port? = none := by
  have hauthority {kind : SchemeKind} {ds : List Char}
      (h : afterSlashes scheme kind ds = .ok u) : u.scheme = scheme ∧ u.port? = none := by
    obtain ⟨a, rest, ha, rfl⟩ := afterSlashes_eq_ok_iff.1 h
    rw [host?_of_authority (a := a) rfl] at hhost
    split at hhost
    · rename_i hname
      exact ⟨rfl, port_eq_none_of_host ha hname⟩
    · cases hhost
  cases hk : SchemeKind.of scheme with
  | web =>
    rw [parseScheme_web hk] at h
    exact hauthority h
  | other =>
    rw [parseScheme_other hk] at h
    by_cases hw : ∃ rest, cs = '/' :: '/' :: rest
    · obtain ⟨rest, rfl⟩ := hw
      exact hauthority h
    · obtain ⟨u', hu, hs, ha⟩ := parseOther_of_no_authority scheme
        fun rest hrest => hw ⟨rest, hrest⟩
      obtain rfl : u' = u := Except.ok.inj (hu.symm.trans h)
      exact ⟨hs, by rw [port?, ha]; rfl⟩
  | file =>
    rw [parseScheme_file hk] at h
    obtain ⟨u', hu, hs, host, ha⟩ : ∃ u', parseFile none cs = .ok u' ∧ u'.scheme = "file" ∧
        ∃ host, u'.authority = some (fileAuthority host) := by
      by_cases hw : ∃ c d rest, cs = c :: d :: rest ∧ isSlash c = true ∧ isSlash d = true
      · obtain ⟨c, d, rest, rfl, hc, hd⟩ := hw
        rw [parseFile_slashes hc hd] at h ⊢
        obtain ⟨host, behind, hh⟩ := host_of_afterFileSlashes h
        obtain ⟨u', hu, hs, hdrop, hkeep⟩ := afterFileSlashes_of_host hh
        by_cases hor : host = .name "" ∨ LeadsToDrive behind
        · exact ⟨u', hu, hs, _, hdrop hor⟩
        · exact ⟨u', hu, hs, _, hkeep hor⟩
      · obtain ⟨u', hu, hs, ha⟩ := parseFile_of_no_authority
          fun c d rest hrest hcd => hw ⟨c, d, rest, hrest, hcd.1, hcd.2⟩
        exact ⟨u', hu, hs, _, ha⟩
    obtain rfl : u' = u := Except.ok.inj (hu.symm.trans h)
    exact ⟨hs.trans (scheme_eq_file hk).symm, by rw [port?, ha]; rfl⟩

theorem parse_eq_ok_iff {s : String} {u : Url} :
    parse s = .ok u ↔ ∃ scheme rest, splitScheme (prepare s) = some (scheme, rest) ∧
      parseScheme none scheme rest = .ok u := by
  unfold parse parseChars
  cases hs : splitScheme (prepare s) with
  | none =>
    refine ⟨fun h => (by cases h), ?_⟩
    rintro ⟨scheme, rest, h, -⟩
    cases h
  | some p =>
    constructor
    · exact fun h => ⟨p.1, p.2, rfl, h⟩
    · rintro ⟨scheme, rest, h, hu⟩
      cases h
      exact hu

end SignIn.Url
