import SignIn.Proofs.Url.Server

/-!
# Parts that cannot leave an address

A part that is appended behind the first segment of a path comes too late for scheme and authority:
they have ended at a slash before.  So whatever characters the part has, the address is read as a
URL or not at all, and the URL is reached in the same way.  There is one exception, which is a rule
for file URLs: two dots after two dots may lead back to the root, and a drive there drops the host.

## Main definitions

* `IsAtDrive` — a file URL without a host whose path starts at a drive.
* `IsReachedLike` — two URLs are reached in the same way.
* `ReadAlike` — two addresses are read as such URLs, or both are none for one reason.

## Main results

* `exists_afterFileSlashes` — what the exception comes from.
* `parse_readAlike` — **whatever is appended, the address is read alike.**
-/

namespace SignIn.Url

/-! ### URLs that are reached in the same way -/

/-- The user name; empty if there is none. -/
def username (u : Url) : String := (u.authority.map (·.username)).getD ""

/-- The password; empty if there is none. -/
def password (u : Url) : String := (u.authority.map (·.password)).getD ""

/-- A file URL without a host whose path starts at a drive. -/
structure IsAtDrive (u : Url) : Prop where
  scheme : u.scheme = "file"
  host : u.host? = none
  path : u.segmentsOf.head?.any (isPlainDrive ·.toList) = true

/-- Whether two URLs are reached in the same way: by one scheme, as one user, and at one port of
one host unless one of them is at a drive, where there is no host. -/
structure IsReachedLike (v u : Url) : Prop where
  scheme : v.scheme = u.scheme
  username : v.username = u.username
  password : v.password = u.password
  host : v.host? = u.host? ∨ v.IsAtDrive ∨ u.IsAtDrive
  port : v.port? = u.port?

theorem IsReachedLike.of_authority {v u : Url} (hs : v.scheme = u.scheme)
    (ha : v.authority = u.authority) : v.IsReachedLike u := by
  refine ⟨hs, ?_, ?_, .inl ?_, ?_⟩ <;> simp only [Url.username, Url.password, host?, port?, ha]

/-- File URLs have neither a user nor a port, so only the hosts can differ. -/
theorem IsReachedLike.of_files {v u : Url} {b a : Host} (hs : v.scheme = u.scheme)
    (hv : v.authority = some (fileAuthority b)) (hu : u.authority = some (fileAuthority a))
    (h : v.IsAtDrive ∨ u.IsAtDrive) : v.IsReachedLike u := by
  refine ⟨hs, ?_, ?_, .inr h, ?_⟩ <;>
    simp only [Url.username, Url.password, port?, hv, hu] <;> rfl

/-- Two readings that differ in nothing that says how a URL is reached: a fault is the same
fault. -/
inductive ReadAlike : Except Fault Url → Except Fault Url → Prop
  /-- Neither address is a URL. -/
  | fault (f : Fault) : ReadAlike (.error f) (.error f)
  /-- Both are. -/
  | url {u v : Url} (h : v.IsReachedLike u) : ReadAlike (.ok u) (.ok v)

/-- Two addresses that are read as URLs with one scheme and one authority are read alike. -/
theorem ReadAlike.of_authority {x y : Except Fault Url} {scheme : String}
    {authority : Option Authority}
    (hx : ∃ u, x = .ok u ∧ u.scheme = scheme ∧ u.authority = authority)
    (hy : ∃ v, y = .ok v ∧ v.scheme = scheme ∧ v.authority = authority) : ReadAlike x y := by
  obtain ⟨u, rfl, hus, hua⟩ := hx
  obtain ⟨v, rfl, hvs, hva⟩ := hy
  exact .url (.of_authority (hvs.trans hus.symm) (hva.trans hua.symm))

/-! ### Authorities -/

/-- Behind two slashes, an authority ends at the next one. -/
theorem afterSlashes_readAlike (scheme : String) (kind : SchemeKind) (d x y : List Char) :
    ReadAlike (afterSlashes scheme kind (d ++ '/' :: x))
      (afterSlashes scheme kind (d ++ '/' :: y)) := by
  simp only [afterSlashes, parseAuthority_append (endsAuthority_slash kind)]
  split
  · exact .fault _
  · rcases parseAuthority scheme kind d with f | ⟨a, rest⟩
    · exact .fault f
    · exact .url (.of_authority rfl rfl)

/-! ### Files -/

theorem dropEmptyFront_cons {s : String} (h : s ≠ "") (segments : List String) :
    dropEmptyFront (s :: segments) = s :: segments := by
  cases segments with
  | nil => rfl
  | cons t segments => rw [dropEmptyFront, if_neg h]

/-- A path that starts at a drive still does so when its empty segments in front are gone. -/
theorem isAtDrive_fileUrl {cs : List Char}
    (h : (walk .file [] cs).1.head?.any (isPlainDrive ·.toList) = true) :
    (fileUrl (.name "") [] cs).IsAtDrive := by
  have hpath : (fileUrl (.name "") [] cs).segmentsOf = dropEmptyFront (walk .file [] cs).1 := rfl
  refine ⟨rfl, rfl, ?_⟩
  rw [hpath]
  cases hw : (walk .file [] cs).1 with
  | nil =>
    rw [hw] at h
    cases h
  | cons s segments =>
    rw [hw] at h
    have hs : s ≠ "" := by
      rintro rfl
      cases h
    rwa [dropEmptyFront_cons hs]

/-- The URL of a file whose path starts at a drive. -/
theorem afterFileSlashes_of_drive {cs rest : List Char} {host : Host}
    (h : parseFileHost cs = .ok (host, rest)) (hname : host ≠ .name "") (hd : LeadsToDrive rest) :
    ∃ u, afterFileSlashes cs = .ok u ∧ u.authority = some (fileAuthority (.name "")) ∧
      u.IsAtDrive := by
  have hdrive := leadsToDrive_iff.1 hd
  refine ⟨fileUrl (.name "") [] (dropSlash .file rest), ?_, rfl, isAtDrive_fileUrl hdrive⟩
  unfold afterFileSlashes
  rw [h]
  simp only [bind, Except.bind]
  rw [if_neg hname, if_pos hdrive]
  rfl

/-- A file URL has the host that is read, or it has lost it to a drive. -/
theorem exists_afterFileSlashes {cs rest : List Char} {host : Host}
    (h : parseFileHost cs = .ok (host, rest)) :
    ∃ u, afterFileSlashes cs = .ok u ∧ u.scheme = "file" ∧
      (u.authority = some (fileAuthority host) ∨
        u.authority = some (fileAuthority (.name "")) ∧ u.IsAtDrive) := by
  by_cases hdrive : host ≠ .name "" ∧ LeadsToDrive rest
  · obtain ⟨u, hu, ha, hat⟩ := afterFileSlashes_of_drive h hdrive.1 hdrive.2
    exact ⟨u, hu, hat.scheme, .inr ⟨ha, hat⟩⟩
  · obtain ⟨u, hu, hs, hdrop, hkeep⟩ := afterFileSlashes_of_host h
    refine ⟨u, hu, hs, .inl ?_⟩
    by_cases hname : host = .name ""
    · rw [hdrop (.inl hname), hname]
    · exact hkeep fun hor => hdrive ⟨hname, hor.resolve_left hname⟩

/-- Behind two slashes, the host of a file ends at the next one, and only a drive drops it. -/
theorem afterFileSlashes_readAlike (d x y : List Char) :
    ReadAlike (afterFileSlashes (d ++ '/' :: x)) (afterFileSlashes (d ++ '/' :: y)) := by
  have happend (z : List Char) := parseFileHost_append (endsAuthority_slash .file) d z
  cases hd : parseFileHost d with
  | error f =>
    have herror (z : List Char) : afterFileSlashes (d ++ '/' :: z) = .error f := by
      rw [afterFileSlashes, happend, hd]
      rfl
    rw [herror, herror]
    exact .fault f
  | ok p =>
    have hhost (z : List Char) : parseFileHost (d ++ '/' :: z) = .ok (p.1, p.2 ++ '/' :: z) := by
      rw [happend, hd]
      rfl
    obtain ⟨u, hu, hus, hua⟩ := exists_afterFileSlashes (hhost x)
    obtain ⟨v, hv, hvs, hva⟩ := exists_afterFileSlashes (hhost y)
    have hscheme : v.scheme = u.scheme := hvs.trans hus.symm
    rw [hu, hv]
    refine .url ?_
    obtain hua | ⟨hua, hat⟩ := hua
    · obtain hva | ⟨hva, hat⟩ := hva
      · exact .of_authority hscheme (hva.trans hua.symm)
      · exact .of_files hscheme hva hua (.inl hat)
    · obtain hva | ⟨hva, -⟩ := hva
      all_goals exact .of_files hscheme hva hua (.inr hat)

theorem parseFile_readAlike (c d : Char) (rest x y : List Char) :
    ReadAlike (parseFile none (c :: d :: (rest ++ '/' :: x)))
      (parseFile none (c :: d :: (rest ++ '/' :: y))) := by
  by_cases hcd : isSlash c = true ∧ isSlash d = true
  · rw [parseFile_slashes hcd.1 hcd.2, parseFile_slashes hcd.1 hcd.2]
    exact afterFileSlashes_readAlike rest x y
  · have hno (z : List Char) := @parseFile_of_no_authority (c :: d :: z) fun c' d' z' h => by
      obtain ⟨rfl, rfl, -⟩ : c = c' ∧ d = d' ∧ z = z' := by simpa using h
      exact hcd
    exact .of_authority (hno _) (hno _)

/-! ### Other schemes -/

theorem parseOther_readAlike (scheme : String) (c d : Char) (rest x y : List Char) :
    ReadAlike (parseOther scheme (c :: d :: (rest ++ '/' :: x)))
      (parseOther scheme (c :: d :: (rest ++ '/' :: y))) := by
  by_cases hcd : c = '/' ∧ d = '/'
  · obtain ⟨rfl, rfl⟩ := hcd
    exact afterSlashes_readAlike scheme .other rest x y
  · have hno (z : List Char) := @parseOther_of_no_authority scheme (c :: d :: z) fun z' h => by
      obtain ⟨hc, hd, -⟩ : c = '/' ∧ d = '/' ∧ z = z' := by simpa using h
      exact hcd ⟨hc, hd⟩
    exact .of_authority (hno _) (hno _)

/-! ### Whole texts -/

/-- Behind a segment of a path, nothing changes how the URL is reached. -/
theorem parseScheme_readAlike (scheme : String) (stem more x y : List Char) {c : Char}
    (hc : isSlash c = false) :
    ReadAlike (parseScheme none scheme (stem ++ '/' :: c :: more ++ '/' :: x))
      (parseScheme none scheme (stem ++ '/' :: c :: more ++ '/' :: y)) := by
  -- files and the schemes of no kind look at the first two characters
  obtain ⟨a, b, rest, hfront⟩ : ∃ a b rest, stem ++ '/' :: c :: more = a :: b :: rest := by
    rcases stem with _ | ⟨a, _ | ⟨b, stem⟩⟩
    · exact ⟨_, _, _, rfl⟩
    · exact ⟨_, _, _, rfl⟩
    · exact ⟨_, _, _, rfl⟩
  cases hk : SchemeKind.of scheme with
  | file =>
    rw [parseScheme_file hk, parseScheme_file hk, hfront]
    exact parseFile_readAlike a b rest x y
  | other =>
    rw [parseScheme_other hk, parseScheme_other hk, hfront]
    exact parseOther_readAlike scheme a b rest x y
  | web =>
    -- a web URL skips slashes, but not beyond the segment
    have hskip (z : List Char) : (stem ++ '/' :: c :: more ++ '/' :: z).dropWhile isSlash =
        (stem ++ ['/']).dropWhile isSlash ++ c :: more ++ '/' :: z := by
      have hsplit : stem ++ '/' :: c :: more ++ '/' :: z =
          stem ++ ['/'] ++ c :: (more ++ '/' :: z) := by simp
      rw [hsplit, dropWhile_append_cons hc, List.append_assoc, List.cons_append]
    rw [parseScheme_web hk, parseScheme_web hk, hskip, hskip]
    exact afterSlashes_readAlike scheme .web _ x y

/-- **Whatever is appended behind a segment of a path, the address is read alike.** -/
theorem parse_readAlike {base : String} {stem more : List Char} {c : Char}
    (hbase : prepareFront base = stem ++ '/' :: c :: more) (hc : isSlash c = false)
    (part other : String) :
    ReadAlike (parse (base ++ "/" ++ part)) (parse (base ++ "/" ++ other)) := by
  obtain ⟨x, hx, -⟩ := prepare_append base part
  obtain ⟨y, hy, -⟩ := prepare_append base other
  simp only [parse, hx, hy, parseChars, splitScheme_append, hbase]
  cases splitScheme stem with
  | none => exact .fault _
  | some p => exact parseScheme_readAlike p.1 p.2 more x y hc

end SignIn.Url
