import SignIn.Proofs.Url.Segments
import SignIn.Proofs.Url.Server

/-!
# Written authorities

What stands between the slashes and the path of a web URL is read again from its written form, but
for the host.  User name and password are encoded, so no sign in them ends them; the characters of
a host separate nothing either, those of an address in brackets excepted; and the port comes after
a colon, in digits.  The host itself is folded, composed and put into ASCII when it is read, and
whether all this leaves a host that was read before as it is is a matter of its own: a label can
be short enough to be written in ASCII, and its form too long to be read.

## Main definitions

* `IsHostText` — what the written form of a host looks like.
* `Authority.IsWritten`, `Authority.chars` — authorities as reading leaves them, and as they are
  written.
* `Host.ReadsBack` — the written form of a host is read as the host.

## Main results

* `isHostText_of_parseWebHost` — the text of a host has no sign of a URL in it.
* `parseAuthority_isWritten` — authorities that have been read.
* `parseAuthority_chars` — **a written authority is read again, but for its host.**
-/

namespace SignIn.Url

open SignIn.Text

/-! ### Characters of domain names -/

namespace Punycode

/-- The characters with which distances are written. -/
def IsDigit (c : Char) : Prop := ∃ d < 36, c = digit d

theorem isDigit_of_mem_distanceDigits {bias fuel k q : Nat} :
    ∀ c ∈ distanceDigits bias fuel k q, IsDigit c := by
  induction fuel generalizing k q with
  | zero => exact List.forall_mem_nil _
  | succ fuel ih =>
    have ht : threshold k bias ≤ 26 := by
      unfold threshold
      split
      · omega
      · split <;> omega
    rw [distanceDigits]
    split
    · exact List.forall_mem_singleton.2 ⟨q, by omega, rfl⟩
    · refine List.forall_mem_cons.2 ⟨⟨_, ?_, rfl⟩, ih⟩
      have := Nat.mod_lt (q - threshold k bias) (by omega : 36 - threshold k bias > 0)
      omega

theorem isDigit_of_mem_writeAll {label : List Char} {basic : Nat} {ms : List Nat} {n : Nat}
    {s : State} (h : ∀ c ∈ s.out, IsDigit c) :
    ∀ c ∈ (writeAll label basic ms n s).out, IsDigit c := by
  induction ms generalizing n s with
  | nil => exact h
  | cons m ms ih =>
    refine ih ?_
    refine List.foldlRecOn (motive := fun s : State => ∀ c ∈ s.out, IsDigit c) label
      (State.pass basic m) h fun s hs c _ => ?_
    unfold State.pass
    split
    · exact hs
    · split
      · exact List.forall_mem_append.2 ⟨hs, isDigit_of_mem_distanceDigits⟩
      · exact hs

/-- The ASCII form has the characters of the label that are in ASCII, hyphens and digits. -/
theorem mem_encode {label : List Char} {c : Char} (h : c ∈ encode label) :
    c ∈ label ∨ c = '-' ∨ IsDigit c := by
  unfold encode at h
  rw [List.mem_append, List.mem_append] at h
  obtain (h | h) | h := h
  · exact .inl (List.mem_filter.1 h).1
  · split at h
    · cases h
    · exact .inr (.inl (List.mem_singleton.1 h))
  · exact .inr (.inr (isDigit_of_mem_writeAll (List.forall_mem_nil _) c h))

end Punycode

/-- Whether no character of a text breaks a URL apart. -/
def IsUnbroken (cs : List Char) : Prop := ∀ c ∈ cs, isForbiddenInDomain c = false

theorem isUnbroken_written {cs : List Char} {l : Label} (hcs : IsUnbroken cs)
    (h : Label.ofFolded? cs = some l) : IsUnbroken l.written := by
  unfold Label.ofFolded? at h
  split at h
  · obtain ⟨label, -, h⟩ := Option.bind_eq_some_iff.1 h
    obtain ⟨-, -, h⟩ := Option.bind_eq_some_iff.1 h
    obtain rfl := Option.some.inj h
    exact hcs
  · split at h
    · obtain rfl := Option.some.inj h
      exact hcs
    · obtain ⟨-, -, h⟩ := Option.bind_eq_some_iff.1 h
      obtain rfl := Option.some.inj h
      have hdigits : ∀ d < 36, isForbiddenInDomain (Punycode.digit d) = false := by decide
      have hmarks : "xn--".toList.all (!isForbiddenInDomain ·) = true := by decide
      refine List.forall_mem_append.2
        ⟨fun c hc => by simpa using List.all_eq_true.1 hmarks c hc, fun c hc => ?_⟩
      obtain hc | rfl | ⟨d, hd, rfl⟩ := Punycode.mem_encode hc
      · exact hcs c hc
      · decide
      · exact hdigits d hd

theorem exists_of_mem_mapM {α β : Type} {f : α → Option β} {xs : List α} {ys : List β}
    (h : xs.mapM f = some ys) {y : β} (hy : y ∈ ys) : ∃ x ∈ xs, f x = some y := by
  induction xs generalizing ys with
  | nil =>
    obtain rfl := Option.some.inj h
    cases hy
  | cons x xs ih =>
    rw [List.mapM_cons] at h
    obtain ⟨z, hz, h⟩ := Option.bind_eq_some_iff.1 h
    obtain ⟨zs, hzs, h⟩ := Option.bind_eq_some_iff.1 h
    obtain rfl := Option.some.inj h
    obtain rfl | hy := List.mem_cons.1 hy
    · exact ⟨x, List.mem_cons_self, hz⟩
    · obtain ⟨x', hx', hf⟩ := ih hzs hy
      exact ⟨x', List.mem_cons_of_mem _ hx', hf⟩

/-- No character of a domain name breaks a URL apart. -/
theorem isUnbroken_domainToAscii {cs domain : List Char} (h : domainToAscii cs = .ok domain) :
    IsUnbroken domain := by
  unfold domainToAscii at h
  split at h
  · rename_i labels hlabels
    obtain rfl := Except.ok.inj h
    obtain ⟨folded, -, h⟩ := Option.bind_eq_some_iff.1 hlabels
    obtain ⟨_, hname, h⟩ := Option.bind_eq_some_iff.1 h
    obtain ⟨labels', hmapM, h⟩ := Option.bind_eq_some_iff.1 h
    obtain ⟨-, -, h⟩ := Option.bind_eq_some_iff.1 h
    obtain rfl := Option.some.inj h
    have hunbroken : IsUnbroken (composed folded.flatten) := by
      have := (Option.guard_eq_some' _).1 hname
      simpa [IsUnbroken] using this
    intro c hc
    obtain hc | ⟨part, hpart, hc⟩ := mem_intercalate hc
    · obtain rfl := List.mem_singleton.1 hc
      decide
    · obtain ⟨l, hl, rfl⟩ := List.mem_map.1 hpart
      obtain ⟨piece, hpiece, hl⟩ := exists_of_mem_mapM hmapM hl
      exact isUnbroken_written (fun c hc => hunbroken c (mem_of_mem_splitOn hpiece c hc)) hl c hc
  · cases h

/-! ### Hosts -/

/-- What the written form of a host looks like. -/
inductive IsHostText : List Char → Prop where
  /-- A name, or an address of four bytes. -/
  | plain {cs : List Char} (hne : cs ≠ []) (h : IsUnbroken cs) : IsHostText cs
  /-- An address in brackets. -/
  | bracketed {inner : List Char} (h : ∀ c ∈ inner, c = ':' ∨ isForbiddenInDomain c = false) :
    IsHostText ('[' :: (inner ++ [']']))

theorem mem_toDigits {base n : Nat} (hbase : 1 < base) {c : Char} (h : c ∈ Nat.toDigits base n) :
    ∃ d < base, c = d.digitChar := by
  induction n using Nat.strongRecOn with
  | _ n ih =>
    rw [Nat.toDigits_eq_if hbase] at h
    split at h
    · exact ⟨n, by assumption, List.mem_singleton.1 h⟩
    · rename_i hn
      obtain h | h := List.mem_append.1 h
      · exact ih (n / base) (Nat.div_lt_self (by omega) hbase) h
      · exact ⟨n % base, Nat.mod_lt _ (by omega), List.mem_singleton.1 h⟩

theorem isUnbroken_toDigits {base : Nat} (hbase : 1 < base) (hle : base ≤ 16) (n : Nat) :
    IsUnbroken (Nat.toDigits base n) := by
  intro c hc
  obtain ⟨d, hd, rfl⟩ := mem_toDigits hbase hc
  have hdigits : ∀ d < 16, isForbiddenInDomain d.digitChar = false := by decide
  exact hdigits d (by omega)

theorem isHostText_ipv4Text (n : Nat) : IsHostText (ipv4Text n).toList := by
  rw [ipv4Text, String.toList_intercalate]
  refine .plain ?_ fun c hc => ?_
  · simp [List.intercalate]
  · obtain hc | ⟨part, hpart, hc⟩ := mem_intercalate hc
    · obtain rfl := List.mem_singleton.1 hc
      decide
    · simp only [List.map_map, List.mem_map, Function.comp_apply] at hpart
      obtain ⟨byte, -, rfl⟩ := hpart
      exact isUnbroken_toDigits (show 1 < 10 by decide) (by decide) byte c (by simpa using hc)

theorem isHostText_ipv6 (pieces : List Nat) : IsHostText (Host.ipv6 pieces).text.toList := by
  have hpieces (ps : List Nat) :
      ∀ c ∈ (pieceText ps).toList, c = ':' ∨ isForbiddenInDomain c = false := by
    intro c hc
    rw [pieceText, String.toList_intercalate] at hc
    obtain hc | ⟨part, hpart, hc⟩ := mem_intercalate hc
    · exact .inl (List.mem_singleton.1 hc)
    · simp only [List.map_map, List.mem_map, Function.comp_apply] at hpart
      obtain ⟨piece, -, rfl⟩ := hpart
      rw [String.toList_ofList] at hc
      exact .inr (isUnbroken_toDigits (by decide) (by decide) piece c hc)
  have hinner : ∀ c ∈ (ipv6Text pieces).toList, c = ':' ∨ isForbiddenInDomain c = false := by
    unfold ipv6Text
    split
    · exact hpieces pieces
    · intro c hc
      rw [String.toList_append, String.toList_append, List.mem_append, List.mem_append] at hc
      obtain (hc | hc) | hc := hc
      · exact hpieces _ c hc
      · exact .inl (by simpa using hc)
      · exact hpieces _ c hc
  have htext : (Host.ipv6 pieces).text.toList = '[' :: ((ipv6Text pieces).toList ++ [']']) := by
    simp [Host.text]
  rw [htext]
  exact .bracketed hinner

/-- What a web host is read as: an address in brackets, a number that is an address, or a name. -/
theorem parseWebHost_eq_ok {cs : List Char} {host : Host} (h : parseWebHost cs = .ok host) :
    (∃ inner pieces, parseIpv6 inner = .ok pieces ∧ host = .ipv6 pieces) ∨
    (∃ domain n, parseIpv4 domain = .ok n ∧ host = .ipv4 n) ∨
    ∃ decoded domain, domainToAscii decoded = .ok domain ∧ domain ≠ [] ∧
      host = .name (String.ofList domain) := by
  unfold parseWebHost at h
  split at h
  · unfold parseBracketed at h
    split at h
    · obtain ⟨pieces, hpieces, rfl⟩ := map_eq_ok_iff.1 h
      exact .inl ⟨_, pieces, hpieces, rfl⟩
    · cases h
  · split at h
    · cases h
    · obtain ⟨domain, hdomain, h⟩ := bind_eq_ok_iff.1 h
      split at h
      · cases h
      · rename_i hne
        split at h
        · obtain ⟨n, hn, h⟩ := bind_eq_ok_iff.1 h
          obtain rfl := Except.ok.inj h
          exact .inr (.inl ⟨domain, n, hn, rfl⟩)
        · obtain rfl := Except.ok.inj h
          exact .inr (.inr ⟨_, domain, hdomain, by simpa using hne, rfl⟩)

/-- **The text of a web host has no sign of a URL in it.** -/
theorem isHostText_of_parseWebHost {cs : List Char} {host : Host} (h : parseWebHost cs = .ok host) :
    IsHostText host.text.toList := by
  obtain ⟨_, pieces, -, rfl⟩ | ⟨_, n, -, rfl⟩ | ⟨_, domain, hdomain, hne, rfl⟩ :=
    parseWebHost_eq_ok h
  · exact isHostText_ipv6 pieces
  · exact isHostText_ipv4Text n
  · rw [Host.text, String.toList_ofList]
    exact .plain hne (isUnbroken_domainToAscii hdomain)

/-- Whether the written form of a host is read as the host. -/
def Host.ReadsBack (h : Host) : Prop := parseWebHost h.text.toList = .ok h

section HostText

variable {cs : List Char} (h : IsHostText cs)

include h

theorem IsHostText.ne_nil : cs ≠ [] := by
  cases h with
  | plain hne => exact hne
  | bracketed => exact List.cons_ne_nil _ _

/-- The characters in the text of a host end nothing and are no blanks. -/
theorem IsHostText.char {c : Char} (hc : c ∈ cs) :
    0x20 < c.toNat ∧ endsAuthority .web c = false ∧ c ≠ '@' := by
  have hplain {c : Char} (hc : isForbiddenInDomain c = false) :
      0x20 < c.toNat ∧ endsAuthority .web c = false ∧ c ≠ '@' := by
    obtain ⟨hlt, hne⟩ := of_isForbiddenInDomain hc
    refine ⟨hlt, ?_, hne _ (by decide)⟩
    simp [endsAuthority, hne '/' (by decide), hne '?' (by decide), hne '#' (by decide),
      hne '\\' (by decide)]
  cases h with
  | plain hne h => exact hplain (h c hc)
  | bracketed h =>
    obtain rfl | hc := List.mem_cons.1 hc
    · decide
    · obtain hc | hc := List.mem_append.1 hc
      · obtain rfl | hc := h c hc
        · decide
        · exact hplain hc
      · obtain rfl := List.mem_singleton.1 hc
        decide

/-- Text of a host is read off the front of what follows it, up to a colon or the end. -/
theorem IsHostText.spanHost_append {rest : List Char} (hrest : ∀ c ∈ rest.head?, c = ':') :
    spanHost .web false (cs ++ rest) = (cs, rest) := by
  have hend (inside : Bool) (hin : rest = [] ∨ inside = false) :
      spanHost .web inside rest = ([], rest) := by
    cases rest with
    | nil => rfl
    | cons c rest =>
      obtain rfl : c = ':' := hrest c rfl
      rw [spanHost, if_pos (by simp [hin.resolve_left (List.cons_ne_nil _ _)])]
  have hskip {inside : Bool} {cs : List Char} (hcs : ∀ c ∈ cs, endsAuthority .web c = false ∧
      (c = ':' → inside = true) ∧ c ≠ '[' ∧ c ≠ ']') (ds : List Char) :
      spanHost .web inside (cs ++ ds) =
        (cs ++ (spanHost .web inside ds).1, (spanHost .web inside ds).2) := by
    induction cs with
    | nil => rfl
    | cons c cs ih =>
      obtain ⟨⟨hends, hcolon, hopen, hclose⟩, hcs⟩ := List.forall_mem_cons.1 hcs
      have hgo : ¬ (endsAuthority .web c || (c == ':' && !inside)) = true := by
        rw [hends, Bool.false_or, Bool.and_eq_true, beq_iff_eq, Bool.not_eq_true']
        rintro ⟨hc, hin⟩
        rw [hcolon hc] at hin
        cases hin
      rw [List.cons_append, spanHost, if_neg hgo]
      simp only [hopen, hclose, if_false]
      rw [ih hcs]
      rfl
  cases h with
  | plain hne h =>
    rw [hskip fun c hc => ?_, hend false (.inr rfl), List.append_nil]
    have hne := (of_isForbiddenInDomain (h c hc)).2
    exact ⟨((IsHostText.plain ‹_› h).char hc).2.1, fun hcolon => absurd hcolon (hne _ (by decide)),
      hne _ (by decide), hne _ (by decide)⟩
  | bracketed h =>
    rename_i inner
    have hinner : ∀ c ∈ inner, endsAuthority .web c = false ∧ (c = ':' → true = true) ∧
        c ≠ '[' ∧ c ≠ ']' := by
      intro c hc
      have hends := ((IsHostText.bracketed h).char (c := c) (by simp [hc])).2.1
      obtain rfl | hc := h c hc
      · exact ⟨hends, fun _ => rfl, by decide, by decide⟩
      · have hne := (of_isForbiddenInDomain hc).2
        exact ⟨hends, fun _ => rfl, hne _ (by decide), hne _ (by decide)⟩
    have hopen : spanHost .web false ('[' :: (inner ++ ([']'] ++ rest))) =
        ('[' :: (spanHost .web true (inner ++ ([']'] ++ rest))).1,
          (spanHost .web true (inner ++ ([']'] ++ rest))).2) := by
      rw [spanHost, if_neg (by decide)]
      rfl
    have hclose : spanHost .web true (']' :: rest) = ([']'], rest) := by
      rw [spanHost, if_neg (by decide)]
      simp only [Char.reduceEq, if_false, if_true]
      rw [hend false (.inr rfl)]
    rw [List.cons_append, List.append_assoc, hopen, hskip hinner, List.singleton_append, hclose]

end HostText

/-! ### Ports -/

/-- Whether a port is one that reading leaves: of sixteen bits, and not the scheme's own. -/
def IsPort (scheme : String) (port : Option Nat) : Prop :=
  ∀ n ∈ port, n ≤ 65535 ∧ defaultPort? scheme ≠ some n

theorem isPort_of_parseColonPort {scheme : String} {host : Host} {cs rest : List Char}
    {port : Option Nat} (h : parseColonPort scheme host cs = .ok (port, rest)) :
    IsPort scheme port := by
  unfold parseColonPort at h
  split at h
  · split at h
    · cases h
    · obtain ⟨hn, -, rfl, -⟩ := parsePort_eq_ok_iff.1 h
      intro n hmem
      split at hmem
      · cases hmem
      · rename_i hdefault
        obtain rfl := Option.some.inj hmem
        exact ⟨hn, fun heq => hdefault (.inr heq)⟩
  · obtain ⟨rfl, -⟩ := Prod.mk.inj (Except.ok.inj h)
    intro n hmem
    cases hmem

theorem portNumber_toDigits (n : Nat) : portNumber (Nat.toDigits 10 n) = n := by
  have hfold : portNumber (Nat.toDigits 10 n) = Nat.ofDigitChars 10 (Nat.toDigits 10 n) 0 := by
    simp only [portNumber, Nat.ofDigitChars, Nat.mul_comm 10]
    rfl
  rw [hfold, Nat.ofDigitChars_ten_toDigits]

/-- A written port is read again. -/
theorem parseColonPort_portText {scheme : String} {a : Authority} (hport : IsPort scheme a.port)
    {host : Host} (hhost : host ≠ .name "") :
    parseColonPort scheme host a.portText.toList = .ok (a.port, []) := by
  unfold Authority.portText
  cases hp : a.port with
  | none => rfl
  | some n =>
    obtain ⟨hn, hdefault⟩ := hport n hp
    have htext : (":" ++ toString n).toList = ':' :: Nat.toDigits 10 n := by
      rw [String.toList_append]
      simp
    have hdigits : (Nat.toDigits 10 n).span Char.isDigit = (Nat.toDigits 10 n, []) :=
      span_eq_self fun c hc => Nat.isDigit_of_mem_toDigits (by decide) (by decide) hc
    have hne : (Nat.toDigits 10 n).isEmpty = false := by simp [Nat.toDigits_ne_nil]
    dsimp only
    rw [htext, parseColonPort, if_neg hhost, parsePort_eq_ok_iff, hdigits]
    dsimp only
    rw [portNumber_toDigits]
    refine ⟨hn, rfl, ?_, rfl⟩
    rw [if_neg (by simp [hne, hdefault])]

theorem mem_portText {a : Authority} {c : Char} (h : c ∈ a.portText.toList) :
    c = ':' ∨ c.isDigit = true := by
  unfold Authority.portText at h
  split at h
  · cases h
  · rw [String.toList_append, List.mem_append] at h
    obtain h | h := h
    · exact .inl (by simpa using h)
    · have hten : 0 < 10 ∧ 10 ≤ 10 := by decide
      exact .inr (Nat.isDigit_of_mem_toDigits hten.1 hten.2 (by simpa using h))

/-! ### Authorities -/

/-- An authority as reading leaves it. -/
structure Authority.IsWritten (a : Authority) (scheme : String) : Prop where
  /-- The user name is encoded. -/
  username : ∀ c ∈ a.username.toList, isKept userSet c = true
  /-- The password is encoded. -/
  password : ∀ c ∈ a.password.toList, isKept userSet c = true
  /-- The host has been read. -/
  host : ∃ cs, parseWebHost cs = .ok a.host
  /-- The port fits the scheme. -/
  port : IsPort scheme a.port

theorem isKept_of_parseUser {user : List Char} {username password : String}
    (h : (username, password) = parseUser user) :
    (∀ c ∈ username.toList, isKept userSet c = true) ∧
      ∀ c ∈ password.toList, isKept userSet c = true := by
  have hencode (cs : List Char) :
      ∀ c ∈ (String.ofList (percentEncode userSet cs)).toList, isKept userSet c = true := by
    rw [String.toList_ofList]
    exact isKept_of_mem_percentEncode (by decide)
  unfold parseUser at h
  split at h
  · obtain ⟨rfl, rfl⟩ := Prod.mk.inj h
    exact ⟨hencode _, hencode _⟩
  · obtain ⟨rfl, rfl⟩ := Prod.mk.inj h
    exact ⟨hencode _, List.forall_mem_nil _⟩

/-- **Reading leaves authorities that can be written.** -/
theorem parseAuthority_isWritten {scheme : String} {cs rest : List Char} {a : Authority}
    (h : parseAuthority scheme .web cs = .ok (a, rest)) : a.IsWritten scheme := by
  obtain ⟨-, hp, huser, -⟩ := parseAuthority_eq_ok_iff.1 h
  obtain ⟨hhost, hport⟩ := parseHostAndPort_eq_ok_iff.1 hp
  obtain ⟨husername, hpassword⟩ := isKept_of_parseUser huser
  refine ⟨husername, hpassword, ?_, isPort_of_parseColonPort hport⟩
  unfold parseHost at hhost
  rw [if_neg (by decide)] at hhost
  split at hhost
  · cases hhost
  · exact ⟨_, hhost⟩

/-- User name and password as they are written, without the at-sign. -/
def Authority.userChars (a : Authority) : List Char :=
  a.username.toList ++ if a.password = "" then [] else ':' :: a.password.toList

/-- An authority as it is written, without the slashes. -/
def Authority.chars (a : Authority) : List Char :=
  (if a.userChars = [] then [] else a.userChars ++ ['@']) ++
    (a.host.text.toList ++ a.portText.toList)

theorem Authority.toList_text (a : Authority) : a.text.toList = '/' :: '/' :: a.chars := by
  have huser : a.userText.toList = if a.userChars = [] then [] else a.userChars ++ ['@'] := by
    unfold userText userChars
    by_cases hp : a.password = "" <;> by_cases hu : a.username = "" <;> simp [hp, hu]
  simp only [Authority.text, String.toList_append, huser, chars, List.append_assoc]
  rfl

section Written

variable {a : Authority} {scheme : String} (h : a.IsWritten scheme)

include h

theorem Authority.IsWritten.hostText : IsHostText a.host.text.toList := by
  obtain ⟨cs, hcs⟩ := h.host
  exact isHostText_of_parseWebHost hcs

/-- The characters of a user name and a password end nothing and are no blanks. -/
theorem Authority.IsWritten.userChar {c : Char} (hc : c ∈ a.userChars) :
    0x20 < c.toNat ∧ endsAuthority .web c = false := by
  have hkept {c : Char} (hc : isKept userSet c = true) :
      0x20 < c.toNat ∧ endsAuthority .web c = false := by
    refine ⟨lt_of_isKept (fun _ => userSet_of_blank) hc, ?_⟩
    rw [Bool.eq_false_iff]
    intro hends
    obtain rfl | rfl | rfl | rfl := eq_of_endsAuthority hends <;> exact absurd hc (by decide)
  obtain hc | hc := List.mem_append.1 hc
  · exact hkept (h.username c hc)
  · split at hc
    · cases hc
    · obtain rfl | hc := List.mem_cons.1 hc
      · decide
      · exact hkept (h.password c hc)

/-- The characters of a host and a port end nothing and are no blanks. -/
theorem Authority.IsWritten.hostChar {c : Char} (hc : c ∈ a.host.text.toList ++ a.portText.toList) :
    0x20 < c.toNat ∧ endsAuthority .web c = false ∧ c ≠ '@' := by
  obtain hc | hc := List.mem_append.1 hc
  · exact h.hostText.char hc
  · obtain rfl | hc := mem_portText hc
    · decide
    · have hn := isDigit_iff.1 hc
      refine ⟨by omega, ?_, ?_⟩
      · rw [Bool.eq_false_iff]
        intro hends
        obtain rfl | rfl | rfl | rfl := eq_of_endsAuthority hends <;> cases hc
      · rintro rfl
        cases hc

theorem Authority.IsWritten.char {c : Char} (hc : c ∈ a.chars) :
    0x20 < c.toNat ∧ endsAuthority .web c = false := by
  obtain hc | hc := List.mem_append.1 hc
  · split at hc
    · cases hc
    · obtain hc | hc := List.mem_append.1 hc
      · exact h.userChar hc
      · obtain rfl := List.mem_singleton.1 hc
        decide
  · exact ⟨(h.hostChar hc).1, (h.hostChar hc).2.1⟩

theorem Authority.IsWritten.splitUser_chars :
    splitUser .web a.chars = (if a.userChars = [] then none else some a.userChars,
      a.host.text.toList ++ a.portText.toList) := by
  have hspan : a.chars.span (!endsAuthority .web ·) = (a.chars, []) :=
    span_eq_self fun c hc => by rw [(h.char hc).2]; rfl
  have hhost : (a.host.text.toList ++ a.portText.toList).reverse.span (· != '@') =
      ((a.host.text.toList ++ a.portText.toList).reverse, []) :=
    span_eq_self fun c hc => by simpa using (h.hostChar (List.mem_reverse.1 hc)).2.2
  unfold splitUser
  rw [hspan]
  dsimp only
  by_cases hu : a.userChars = []
  · rw [chars, if_pos hu, List.nil_append, hhost, if_pos hu]
  · rw [chars, if_neg hu, List.append_assoc, List.reverse_append, List.singleton_append,
      List.reverse_cons, List.append_assoc, List.singleton_append, span_append_cons (by decide),
      hhost, if_neg hu]
    simp

theorem Authority.IsWritten.parseUser_userChars :
    parseUser a.userChars = (a.username, a.password) := by
  have hname : ∀ c ∈ a.username.toList, (c != ':') = true := by
    intro c hc
    rw [bne_iff_ne]
    rintro rfl
    exact absurd (h.username _ hc) (by decide)
  unfold parseUser userChars
  by_cases hp : a.password = ""
  · rw [if_pos hp, List.append_nil, span_eq_self hname]
    dsimp only
    rw [percentEncode_of_isKept h.username, String.ofList_toList, hp]
  · rw [if_neg hp, span_append_of_forall hname]
    have hcolon : (':' :: a.password.toList).span (· != ':') = ([], ':' :: a.password.toList) := by
      simp [List.span_eq_takeWhile_dropWhile]
    rw [hcolon]
    dsimp only
    rw [List.append_nil, percentEncode_of_isKept h.username, percentEncode_of_isKept h.password,
      String.ofList_toList, String.ofList_toList]

/-- **A written authority is read again, but for its host.** -/
theorem Authority.IsWritten.parseAuthority_chars {b : Authority} {rest : List Char} :
    parseAuthority scheme .web a.chars = .ok (b, rest) ↔
      parseWebHost a.host.text.toList = .ok b.host ∧ b = { a with host := b.host } ∧ rest = [] := by
  have hspan : spanHost .web false (a.host.text.toList ++ a.portText.toList) =
      (a.host.text.toList, a.portText.toList) := by
    refine h.hostText.spanHost_append fun c hc => ?_
    unfold portText at hc
    split at hc
    · cases hc
    · rw [String.toList_append] at hc
      exact (Option.some.inj hc).symm
  have hparse : parseHost .web a.host.text.toList = parseWebHost a.host.text.toList := by
    unfold parseHost
    rw [if_neg (by decide), if_neg h.hostText.ne_nil]
  have hnone : ¬ ((if a.userChars = [] then none else some a.userChars) = some [] ∧
      (a.host.text.toList ++ a.portText.toList).head?.any (endsAuthority .web) = true) := by
    rintro ⟨hu, -⟩
    split at hu
    · cases hu
    · rename_i hne
      exact hne (Option.some.inj hu)
  have huser : (if a.userChars = [] then none else some a.userChars).getD [] = a.userChars := by
    split
    · rename_i hu
      rw [hu]
      rfl
    · rfl
  have hname (hhost : parseWebHost a.host.text.toList = .ok b.host) : b.host ≠ .name "" := by
    intro hname
    rw [hname] at hhost
    exact parseWebHost_ne_empty _ hhost
  rw [parseAuthority_eq_ok_iff, h.splitUser_chars]
  dsimp only
  rw [huser, h.parseUser_userChars, parseHostAndPort_eq_ok_iff, hspan]
  dsimp only
  rw [hparse]
  constructor
  · rintro ⟨-, ⟨hhost, hport⟩, heq, -⟩
    rw [parseColonPort_portText h.port (hname hhost)] at hport
    obtain ⟨hp, rfl⟩ := Prod.mk.inj (Except.ok.inj hport)
    obtain ⟨hu, hpass⟩ := Prod.mk.inj heq
    exact ⟨hhost, by rw [← hu, ← hpass, hp], rfl⟩
  · rintro ⟨hhost, hb, rfl⟩
    rw [hb]
    exact ⟨hnone, ⟨hhost, parseColonPort_portText h.port (hname hhost)⟩, rfl,
      fun hempty => hname hhost hempty.1⟩

theorem Authority.IsWritten.splitUser_chars_ne : splitUser .web a.chars ≠ (some [], []) := by
  rw [h.splitUser_chars]
  intro heq
  have hsome := (Prod.mk.inj heq).1
  split at hsome
  · cases hsome
  · rename_i hne
    exact hne (Option.some.inj hsome)

theorem Authority.IsWritten.parseAuthority_chars_append {e : Char}
    (he : endsAuthority .web e = true) (cs : List Char) {b : Authority} {rest : List Char} :
    parseAuthority scheme .web (a.chars ++ e :: cs) = .ok (b, rest) ↔
      parseWebHost a.host.text.toList = .ok b.host ∧ b = { a with host := b.host } ∧
        rest = e :: cs := by
  rw [parseAuthority_append he, if_neg h.splitUser_chars_ne, map_eq_ok_iff]
  constructor
  · rintro ⟨⟨b', rest'⟩, hb, heq⟩
    obtain ⟨rfl, rfl⟩ := Prod.mk.inj heq
    obtain ⟨hhost, hsame, rfl⟩ := h.parseAuthority_chars.1 hb
    exact ⟨hhost, hsame, rfl⟩
  · rintro ⟨hhost, hsame, rfl⟩
    exact ⟨(b, []), h.parseAuthority_chars.2 ⟨hhost, hsame, rfl⟩, rfl⟩

theorem Authority.chars_ne_nil : a.chars ≠ [] := by simp [chars, h.hostText.ne_nil]

/-- An authority starts with no slash. -/
theorem Authority.IsWritten.dropSlashes_chars (cs : List Char) :
    ('/' :: '/' :: (a.chars ++ cs)).dropWhile isSlash = a.chars ++ cs := by
  obtain ⟨c, chars, hchars⟩ := List.exists_cons_of_ne_nil (chars_ne_nil h)
  have hends := (h.char (c := c) (by simp [hchars])).2
  have hc : isSlash c = false := by
    simp only [endsAuthority, Bool.or_eq_false_iff, Bool.and_eq_false_iff] at hends
    rw [isSlash, hends.1.1.1, Bool.false_or]
    exact hends.2.resolve_right (by decide)
  rw [hchars, List.dropWhile_cons_of_pos rfl, List.dropWhile_cons_of_pos rfl, List.cons_append,
    List.dropWhile_cons_of_neg (by simp [hc])]

end Written

end SignIn.Url
