import Mathlib.Data.Nat.Digits.Defs
import SignIn.Proofs.Url.Authority

/-!
# Hosts that are read again

The written form of an address, of four bytes or of eight pieces, is read as the address, and a
plain name that does not end in a number is read as the name.  What may not be read again is a name
with a form of a label that has characters outside ASCII, if the form is too long.

## Main results

* `Host.readsBack_of_isPlainName` — plain names.
* `Host.readsBack_ipv4` — addresses of four bytes that have been read.
* `Host.readsBack_ipv6` — addresses of eight pieces that have been read.
* `Host.readsBack_of_parseWebHost` — **hosts that have been read**, but for names.
-/

namespace SignIn.Url

open SignIn.Text

/-- **A plain name is read again** if it does not end in a number. -/
theorem Host.readsBack_of_isPlainName {s : String} (h : IsPlainName s.toList) (hne : s ≠ "")
    (hnumber : endsInNumber s.toList = false) : (Host.name s).ReadsBack := by
  rw [ReadsBack, text, parseWebHost_of_isPlainName h (by simpa using hne), hnumber,
    if_neg Bool.false_ne_true, String.ofList_toList]

/-! ### Addresses of four bytes -/

section Parts

variable {sep : Char}

theorem splitOn_append_cons {cs : List Char} (h : sep ∉ cs) (ds : List Char) :
    splitOn sep (cs ++ sep :: ds) = cs :: splitOn sep ds := by
  induction cs with
  | nil => rw [List.nil_append, splitOn, if_pos rfl]
  | cons c cs ih =>
    have hc : c ≠ sep := fun heq => h (by simp [heq])
    rw [List.cons_append, splitOn, if_neg hc, ih fun hmem => h (List.mem_cons_of_mem _ hmem)]

/-- Parts that have been put together are split again. -/
theorem splitOn_intercalate {parts : List (List Char)} (hne : parts ≠ [])
    (h : ∀ part ∈ parts, sep ∉ part) : splitOn sep ([sep].intercalate parts) = parts := by
  induction parts with
  | nil => exact absurd rfl hne
  | cons part parts ih =>
    obtain ⟨hpart, hparts⟩ := List.forall_mem_cons.1 h
    cases parts with
    | nil => rw [List.intercalate_singleton, splitOn_of_not_mem hpart]
    | cons next parts =>
      rw [List.intercalate_cons_cons, List.append_assoc, List.singleton_append,
        splitOn_append_cons hpart, ih (List.cons_ne_nil _ _) hparts]

end Parts

/-- The four bytes of a number. -/
def bytesOf (n : Nat) : List Nat := [n >>> 24 % 256, n >>> 16 % 256, n >>> 8 % 256, n % 256]

theorem toList_ipv4Text (n : Nat) :
    (ipv4Text n).toList = ['.'].intercalate ((bytesOf n).map (Nat.toDigits 10)) := by
  rw [ipv4Text, String.toList_intercalate]
  simp [bytesOf]

theorem isNameChar_of_isDigit {c : Char} (h : c.isDigit = true) : IsNameChar c := by
  have hn := isDigit_iff.1 h
  refine ⟨isAscii_iff.2 (by omega), isUpper_eq_false_iff.2 (by omega), ?_⟩
  have hdigits : ∀ n < 0x3A, 0x30 ≤ n → isForbiddenInDomain (Char.ofNat n) = false := by decide
  rw [← Char.ofNat_toNat c]
  exact hdigits c.toNat (by omega) hn.1

theorem isDigit_of_mem_toDigits {n : Nat} {c : Char} (h : c ∈ Nat.toDigits 10 n) :
    c.isDigit = true := Nat.isDigit_of_mem_toDigits (by decide) (by decide) h

section Ipv4

variable (n : Nat)

theorem splitOn_ipv4Text :
    splitOn '.' (ipv4Text n).toList = (bytesOf n).map (Nat.toDigits 10) := by
  rw [toList_ipv4Text]
  refine splitOn_intercalate (List.cons_ne_nil _ _) fun part hpart hdot => ?_
  obtain ⟨byte, -, rfl⟩ := List.mem_map.1 hpart
  exact absurd (isDigit_of_mem_toDigits hdot) (by decide)

theorem isPlainName_ipv4Text : IsPlainName (ipv4Text n).toList := by
  constructor
  · intro c hc
    rw [toList_ipv4Text] at hc
    obtain hc | ⟨part, hpart, hc⟩ := mem_intercalate hc
    · obtain rfl := List.mem_singleton.1 hc
      exact ⟨by decide, by decide, by decide⟩
    · obtain ⟨byte, -, rfl⟩ := List.mem_map.1 hpart
      exact isNameChar_of_isDigit (isDigit_of_mem_toDigits hc)
  · intro l hl hform
    rw [splitOn_ipv4Text] at hl
    obtain ⟨byte, -, rfl⟩ := List.mem_map.1 hl
    have hx : 'x' ∈ Nat.toDigits 10 byte := hform.subset (by decide)
    exact absurd (isDigit_of_mem_toDigits hx) (by decide)

theorem getLast?_bytesOf :
    ((bytesOf n).map (Nat.toDigits 10)).getLast? = some (Nat.toDigits 10 (n % 256)) := rfl

theorem dottedParts_ipv4Text :
    dottedParts (ipv4Text n).toList = (bytesOf n).map (Nat.toDigits 10) := by
  rw [dottedParts, splitOn_ipv4Text, getLast?_bytesOf, if_neg]
  exact fun hnil => Nat.toDigits_ne_nil (Option.some.inj hnil)

theorem endsInNumber_ipv4Text : endsInNumber (ipv4Text n).toList = true := by
  have hdigits : (Nat.toDigits 10 (n % 256)).all Char.isDigit = true :=
    List.all_eq_true.2 fun c hc => isDigit_of_mem_toDigits hc
  rw [endsInNumber, dottedParts_ipv4Text, getLast?_bytesOf]
  simp [hdigits, Nat.toDigits_ne_nil]

set_option maxRecDepth 4000 in
theorem ipv4Number?_toDigits : ∀ b < 256, ipv4Number? (Nat.toDigits 10 b) = some b := by
  decide +kernel

theorem mapM_ipv4Number? {bytes : List Nat} (h : ∀ b ∈ bytes, b < 256) :
    (bytes.map (Nat.toDigits 10)).mapM ipv4Number? = some bytes := by
  induction bytes with
  | nil => rfl
  | cons b bytes ih =>
    obtain ⟨hb, hbytes⟩ := List.forall_mem_cons.1 h
    rw [List.map_cons, List.mapM_cons, ipv4Number?_toDigits b hb, ih hbytes]
    rfl

theorem ipv4Of?_four {a b c d : Nat} (ha : a < 256) (hb : b < 256) (hc : c < 256)
    (hd : d < 256) :
    ipv4Of? [a, b, c, d] = some (d + a * 256 ^ 3 + b * 256 ^ 2 + c * 256) := by
  have hfits : ¬ (3 < [c, b, a].length ∨ Nat.pow 256 (4 - [c, b, a].length) ≤ d ∨
      [c, b, a].any (255 < ·) = true) := by
    simp
    omega
  simp only [ipv4Of?, List.reverse_cons, List.reverse_nil, List.nil_append, List.cons_append]
  rw [if_neg hfits]
  rfl

theorem parseIpv4_ipv4Text {n : Nat} (hn : n < 256 ^ 4) :
    parseIpv4 (ipv4Text n).toList = .ok n := by
  have hbyte (m : Nat) : m % 256 < 256 := Nat.mod_lt _ (by decide)
  have hbytes : ∀ b ∈ bytesOf n, b < 256 := by
    simp only [bytesOf, List.mem_cons, List.not_mem_nil, or_false]
    rintro b (rfl | rfl | rfl | rfl) <;> exact hbyte _
  have hof : ipv4Of? (bytesOf n) = some n := by
    rw [bytesOf, ipv4Of?_four (hbyte _) (hbyte _) (hbyte _) (hbyte _)]
    simp only [Nat.shiftRight_eq_div_pow, Option.some.injEq]
    omega
  rw [parseIpv4, dottedParts_ipv4Text, mapM_ipv4Number? hbytes]
  simp only [Option.bind_eq_bind, Option.bind_some, hof]

end Ipv4

/-- Bytes at their places leave room for what fills the places behind them. -/
theorem foldl_add_pow_le {bytes : List Nat} (h : ∀ b ∈ bytes, b ≤ 255) {i : Nat}
    (hi : i + bytes.length ≤ 4) (sum : Nat) :
    (bytes.zipIdx i).foldl (fun sum p => sum + p.1 * 256 ^ (3 - p.2)) sum +
      256 ^ (4 - (i + bytes.length)) ≤ sum + 256 ^ (4 - i) := by
  induction bytes generalizing i sum with
  | nil => exact Nat.le_refl _
  | cons b bytes ih =>
    obtain ⟨hb, hbytes⟩ := List.forall_mem_cons.1 h
    rw [List.length_cons] at hi
    have hrest := ih hbytes (show i + 1 + bytes.length ≤ 4 by omega) (sum + b * 256 ^ (3 - i))
    have hpow : 256 ^ (4 - i) = 256 ^ (3 - i) * 256 := by
      rw [show 4 - i = 3 - i + 1 by omega, Nat.pow_succ]
    have hplace : 256 ^ (4 - (i + 1)) = 256 ^ (3 - i) := by rw [show 4 - (i + 1) = 3 - i by omega]
    have hle : b * 256 ^ (3 - i) ≤ 255 * 256 ^ (3 - i) := Nat.mul_le_mul_right _ hb
    rw [List.zipIdx_cons, List.foldl_cons, List.length_cons,
      show i + (bytes.length + 1) = i + 1 + bytes.length by omega]
    dsimp only
    omega

theorem lt_of_ipv4Of? {numbers : List Nat} {n : Nat} (h : ipv4Of? numbers = some n) :
    n < 256 ^ 4 := by
  unfold ipv4Of? at h
  split at h
  · cases h
  · rename_i last before _
    dsimp only at h
    split at h
    · cases h
    · rename_i hfits
      obtain rfl := Option.some.inj h
      simp only [not_or, not_lt, not_le, Bool.not_eq_true, List.any_eq_false, decide_eq_true_eq,
        Nat.pow_eq] at hfits ⊢
      obtain ⟨hlen, hlast, hbytes⟩ := hfits
      have hle := foldl_add_pow_le (fun b hb => hbytes b (List.mem_reverse.1 hb))
        (show 0 + before.reverse.length ≤ 4 by rw [List.length_reverse]; omega) last
      rw [List.length_reverse, Nat.zero_add] at hle
      omega

theorem lt_of_parseIpv4 {cs : List Char} {n : Nat} (h : parseIpv4 cs = .ok n) : n < 256 ^ 4 := by
  unfold parseIpv4 at h
  split at h
  · rename_i hn
    obtain rfl := Except.ok.inj h
    obtain ⟨numbers, -, hof⟩ := Option.bind_eq_some_iff.1 hn
    exact lt_of_ipv4Of? hof
  · cases h

/-- **An address of four bytes that has been read is read again.** -/
theorem Host.readsBack_ipv4 {cs : List Char} {n : Nat} (h : parseWebHost cs = .ok (.ipv4 n)) :
    (Host.ipv4 n).ReadsBack := by
  have hn : n < 256 ^ 4 := by
    obtain ⟨_, pieces, -, heq⟩ | ⟨_, m, hm, heq⟩ | ⟨_, domain, -, -, heq⟩ := parseWebHost_eq_ok h
    · cases heq
    · cases heq
      exact lt_of_parseIpv4 hm
    · cases heq
  have hne : (ipv4Text n).toList ≠ [] := (isHostText_ipv4Text n).ne_nil
  rw [ReadsBack, text, parseWebHost_of_isPlainName (isPlainName_ipv4Text n) hne,
    if_pos (endsInNumber_ipv4Text n), parseIpv4_ipv4Text hn]
  rfl

/-! ### Addresses of eight pieces -/

/-- Whether numbers are pieces of sixteen bits. -/
def ArePieces (ps : List Nat) : Prop := ∀ p ∈ ps, p < 65536

/-- The number that hexadecimal digits give behind others. -/
def hexValue (v : Nat) (ds : List Char) : Nat :=
  ds.foldl (fun v c => v * 16 + (digitIn? 16 c).getD 0) v

theorem digitIn?_digitChar : ∀ d < 16, digitIn? 16 d.digitChar = some d := by decide

theorem hexValue_toDigits (p : Nat) : hexValue 0 (Nat.toDigits 16 p) = p := by
  induction p using Nat.strongRecOn with
  | _ p ih =>
    rw [Nat.toDigits_eq_if (by decide)]
    split
    · rename_i hp
      simp [hexValue, digitIn?_digitChar p hp]
    · rename_i hp
      have hdigit := digitIn?_digitChar (p % 16) (Nat.mod_lt _ (by decide))
      have hfront := ih (p / 16) (Nat.div_lt_self (by omega) (by decide))
      rw [hexValue] at hfront ⊢
      rw [List.foldl_append, hfront]
      simp only [List.foldl_cons, List.foldl_nil, hdigit, Option.getD_some]
      omega

/-- Hexadecimal digits are read off the front of what follows them. -/
theorem hexPrefix_append {ds rest : List Char} (hds : ∀ c ∈ ds, (digitIn? 16 c).isSome = true)
    (hrest : ∀ c ∈ rest.head?, digitIn? 16 c = none) {k : Nat} (hk : ds.length ≤ k) (v n : Nat) :
    hexPrefix k (ds ++ rest) v n = (hexValue v ds, n + ds.length, rest) := by
  induction ds generalizing k v n with
  | nil =>
    cases k with
    | zero => rfl
    | succ k =>
      cases rest with
      | nil => rfl
      | cons c rest =>
        rw [List.nil_append, hexPrefix, hrest c rfl]
        rfl
  | cons c ds ih =>
    obtain ⟨hc, hds⟩ := List.forall_mem_cons.1 hds
    obtain ⟨d, hd⟩ := Option.isSome_iff_exists.1 hc
    obtain ⟨k, rfl⟩ : ∃ j, k = j + 1 := ⟨k - 1, by rw [List.length_cons] at hk; omega⟩
    rw [List.length_cons] at hk
    rw [List.cons_append, hexPrefix, hd]
    dsimp only
    rw [ih hds (by omega), List.length_cons]
    simp only [hexValue, List.foldl_cons, hd, Option.getD_some]
    congr 2
    omega

theorem isSome_of_mem_toDigits {p : Nat} {c : Char} (h : c ∈ Nat.toDigits 16 p) :
    (digitIn? 16 c).isSome = true := by
  obtain ⟨d, hd, rfl⟩ := mem_toDigits (by decide) h
  rw [digitIn?_digitChar d hd]
  rfl

/-- Pieces in hexadecimal, with colons between them. -/
def pieceChars (ps : List Nat) : List Char := [':'].intercalate (ps.map (Nat.toDigits 16))

theorem toList_pieceText (ps : List Nat) : (pieceText ps).toList = pieceChars ps := by
  rw [pieceText, String.toList_intercalate, List.map_map, pieceChars]
  congr 1
  exact List.map_congr_left fun p _ => String.toList_ofList

theorem pieceChars_cons_cons (p q : Nat) (ps : List Nat) :
    pieceChars (p :: q :: ps) = Nat.toDigits 16 p ++ ':' :: pieceChars (q :: ps) := by
  simp [pieceChars, List.intercalate_cons_cons]

theorem pieceChars_singleton (p : Nat) : pieceChars [p] = Nat.toDigits 16 p := by
  simp [pieceChars, List.intercalate_singleton]

/-- Pieces start with a digit. -/
theorem exists_pieceChars_cons (p : Nat) (ps : List Nat) :
    ∃ c cs, c ≠ ':' ∧ pieceChars (p :: ps) = c :: cs := by
  obtain ⟨c, cs, hc⟩ := List.exists_cons_of_ne_nil (Nat.toDigits_ne_nil (b := 16) (n := p))
  have hdigit : c ≠ ':' := by
    rintro rfl
    exact absurd (isSome_of_mem_toDigits (p := p) (by rw [hc]; exact List.mem_cons_self))
      (by decide)
  cases ps with
  | nil => exact ⟨c, cs, hdigit, by rw [pieceChars_singleton, hc]⟩
  | cons q ps => exact ⟨c, _, hdigit, by rw [pieceChars_cons_cons, hc, List.cons_append]⟩

theorem length_le_pieceChars (ps : List Nat) : ps.length ≤ (pieceChars ps).length := by
  have hone (p : Nat) : 1 ≤ (Nat.toDigits 16 p).length :=
    List.length_pos_iff.2 Nat.toDigits_ne_nil
  induction ps with
  | nil => exact Nat.zero_le _
  | cons p ps ih =>
    cases ps with
    | nil => simpa [pieceChars_singleton] using hone p
    | cons q ps =>
      have := hone p
      simp only [pieceChars_cons_cons, List.length_append, List.length_cons] at ih ⊢
      omega

/-- How many pieces are used up, where the two colons count as one. -/
def used (done : List Nat) (gap : Option Nat) : Nat :=
  done.length + if gap.isSome then 1 else 0

theorem used_append_singleton (done : List Nat) (p : Nat) (gap : Option Nat) :
    used (done ++ [p]) gap = used done gap + 1 := by
  rw [used, used, List.length_append, List.length_singleton]
  omega

/-- What the front of a piece and of what follows it is read as. -/
theorem hexPrefix_toDigits {p : Nat} (hp : p < 65536) {rest : List Char}
    (hrest : ∀ c ∈ rest.head?, digitIn? 16 c = none) :
    hexPrefix 4 (Nat.toDigits 16 p ++ rest) 0 0 = (p, (Nat.toDigits 16 p).length, rest) := by
  have hlen := Nat.toDigits_length 16 p 4 (by decide) (by simpa using hp)
  rw [hexPrefix_append (fun c hc => isSome_of_mem_toDigits hc) hrest hlen, hexValue_toDigits,
    Nat.zero_add]

section Reading

variable {fuel : Nat} {done : List Nat} {gap : Option Nat} {p : Nat}

/-- A piece at the end is read. -/
theorem ipv6Pieces?_last (hp : p < 65536) (hused : used done gap < 8) :
    ipv6Pieces? (fuel + 1) done gap (Nat.toDigits 16 p) = some (done ++ [p], gap) := by
  obtain ⟨c, cs, hc, htext⟩ := exists_pieceChars_cons p []
  have hread := hexPrefix_toDigits hp (show ∀ c ∈ ([] : List Char).head?, _ from by simp)
  rw [pieceChars_singleton] at htext
  rw [List.append_nil, htext] at hread
  rw [used] at hused
  rw [htext, ipv6Pieces?]
  rw [if_neg (by omega), if_neg hc, hread]

/-- A piece before a colon is read, if something follows the colon. -/
theorem ipv6Pieces?_colon (hp : p < 65536) (hused : used done gap < 8) {rest : List Char}
    (hrest : rest ≠ []) :
    ipv6Pieces? (fuel + 1) done gap (Nat.toDigits 16 p ++ ':' :: rest) =
      ipv6Pieces? fuel (done ++ [p]) gap rest := by
  obtain ⟨c, cs, hc, htext⟩ := exists_pieceChars_cons p []
  have hcolon : ∀ c ∈ (':' :: rest).head?, digitIn? 16 c = none := by
    intro c hc
    obtain rfl := Option.some.inj hc
    decide
  have hread := hexPrefix_toDigits hp hcolon
  rw [pieceChars_singleton] at htext
  rw [htext, List.cons_append] at hread
  rw [used] at hused
  rw [htext, List.cons_append, ipv6Pieces?]
  rw [if_neg (by omega), if_neg hc, hread]
  dsimp only
  rw [if_neg (by decide), if_pos rfl, if_neg (by simpa using hrest)]

end Reading

/-- Pieces are read up to the end. -/
theorem ipv6Pieces?_pieceChars {ps : List Nat} (hps : ArePieces ps) {done : List Nat}
    {gap : Option Nat} (hused : used done gap + ps.length ≤ 8) (fuel : Nat) :
    ipv6Pieces? (fuel + ps.length + 1) done gap (pieceChars ps) = some (done ++ ps, gap) := by
  induction ps generalizing done with
  | nil => rw [List.append_nil]; rfl
  | cons p ps ih =>
    obtain ⟨hp, hps⟩ := List.forall_mem_cons.1 hps
    rw [List.length_cons] at hused
    cases ps with
    | nil => rw [pieceChars_singleton, ipv6Pieces?_last hp (by omega)]
    | cons q ps =>
      obtain ⟨c, cs, -, htext⟩ := exists_pieceChars_cons q ps
      rw [pieceChars_cons_cons,
        ipv6Pieces?_colon hp (by omega) (by rw [htext]; exact List.cons_ne_nil _ _),
        List.length_cons, ← Nat.add_assoc fuel,
        ih hps (by rw [used_append_singleton]; omega), List.append_assoc, List.singleton_append]

/-- Pieces are read up to two colons. -/
theorem ipv6Pieces?_colons {ps : List Nat} (hne : ps ≠ []) (hps : ArePieces ps) {done : List Nat}
    (hlen : done.length + ps.length < 8) (fuel : Nat) (rest : List Char) :
    ipv6Pieces? (fuel + ps.length + 1) done none (pieceChars ps ++ ':' :: ':' :: rest) =
      ipv6Pieces? fuel (done ++ ps) (some (done ++ ps).length) rest := by
  induction ps generalizing done with
  | nil => exact absurd rfl hne
  | cons p ps ih =>
    obtain ⟨hp, hps⟩ := List.forall_mem_cons.1 hps
    have hused : used done none < 8 := by
      rw [used, Option.isSome_none, if_neg Bool.false_ne_true]
      omega
    cases ps with
    | nil =>
      rw [pieceChars_singleton, ipv6Pieces?_colon hp hused (List.cons_ne_nil _ _),
        List.length_singleton, ipv6Pieces?]
      simp only [Option.isSome_none, Bool.false_eq_true, if_false, if_true]
      rw [if_neg]
      rw [List.length_append, List.length_singleton]
      rw [List.length_singleton] at hlen
      omega
    | cons q ps =>
      rw [List.length_cons] at hlen
      rw [pieceChars_cons_cons, List.append_assoc, List.cons_append,
        ipv6Pieces?_colon hp hused (by simp), List.length_cons, ← Nat.add_assoc fuel,
        ih (List.cons_ne_nil _ _) hps
          (by rw [List.length_append, List.length_singleton]; omega),
        List.append_assoc, List.singleton_append]

/-! ### The longest run of zeros -/

theorem takeWhile_zero (ps : List Nat) :
    ps.takeWhile (· == 0) = List.replicate (zeroRun ps) 0 :=
  List.eq_replicate_iff.2 ⟨rfl, fun p hp => by simpa using List.mem_takeWhile_imp hp⟩

theorem replicate_zeroRun_append_drop (ps : List Nat) :
    List.replicate (zeroRun ps) 0 ++ ps.drop (zeroRun ps) = ps := by
  have hdrop := @List.drop_left _ (ps.takeWhile (· == 0)) (ps.dropWhile (· == 0))
  rw [List.takeWhile_append_dropWhile] at hdrop
  rw [zeroRun, hdrop, ← zeroRun, ← takeWhile_zero, List.takeWhile_append_dropWhile]

/-- Where the longest run starts, there is a run of its length. -/
theorem longestZeros_spec (ps : List Nat) :
    (longestZeros ps).2 = 0 ∨ 2 ≤ (longestZeros ps).2 ∧
      zeroRun (ps.drop (longestZeros ps).1) = (longestZeros ps).2 := by
  refine List.foldlRecOn _ _ (motive := fun best : Nat × Nat =>
    best.2 = 0 ∨ 2 ≤ best.2 ∧ zeroRun (ps.drop best.1) = best.2) (.inl rfl)
    fun best hbest i _ => ?_
  dsimp only
  split
  · rename_i hi
    exact .inr ⟨hi.1, rfl⟩
  · exact hbest

/-! ### The pieces of an address that has been read -/

theorem digitIn?_lt {base d : Nat} {c : Char} (h : digitIn? base c = some d) : d < base := by
  unfold digitIn? at h
  simpa using (Option.filter_eq_some_iff.1 h).2

theorem hexPrefix_lt (k : Nat) (cs : List Char) (v n : Nat) :
    (hexPrefix k cs v n).1 < (v + 1) * 16 ^ k := by
  induction k generalizing cs v n with
  | zero => cases cs <;> simp [hexPrefix]
  | succ k ih =>
    have hpos : 0 < 16 ^ k := Nat.pow_pos (by decide)
    have hstop : v < (v + 1) * 16 ^ (k + 1) :=
      Nat.lt_of_lt_of_le (Nat.lt_succ_self v) (Nat.le_mul_of_pos_right _ (Nat.pow_pos (by decide)))
    cases cs with
    | nil => exact hstop
    | cons c cs =>
      rw [hexPrefix]
      split
      · rename_i d hd
        have hd := digitIn?_lt hd
        calc (hexPrefix k cs (v * 16 + d) (n + 1)).1
            < (v * 16 + d + 1) * 16 ^ k := ih _ _ _
          _ ≤ ((v + 1) * 16) * 16 ^ k := Nat.mul_le_mul_right _ (by omega)
          _ = (v + 1) * 16 ^ (k + 1) := by rw [Nat.pow_succ, Nat.mul_assoc, Nat.mul_comm 16]
      · exact hstop

theorem decimalByte?_le {cs : List Char} {b : Nat} (h : decimalByte? cs = some b) : b ≤ 255 := by
  unfold decimalByte? at h
  split at h
  · cases h
  · obtain rfl := Option.some.inj h
    decide
  · cases h
  · simpa using (Option.filter_eq_some_iff.1 h).2

theorem embeddedIpv4?_pieces {cs : List Char} {ps : List Nat} (h : embeddedIpv4? cs = some ps) :
    ps.length = 2 ∧ ArePieces ps := by
  unfold embeddedIpv4? at h
  split at h
  · rename_i a b c d heq
    obtain rfl := Option.some.inj h
    have hbyte {x : Nat} (hx : some x ∈ (splitOn '.' cs).map decimalByte?) : x ≤ 255 := by
      obtain ⟨part, -, hpart⟩ := List.mem_map.1 hx
      exact decimalByte?_le hpart
    rw [heq] at hbyte
    have ha := @hbyte a (by simp)
    have hb := @hbyte b (by simp)
    have hc := @hbyte c (by simp)
    have hd := @hbyte d (by simp)
    refine ⟨rfl, ?_⟩
    simp only [ArePieces, List.forall_mem_cons]
    exact ⟨by omega, by omega, List.forall_mem_nil _⟩
  · cases h

theorem ArePieces.append {ps qs : List Nat} (hps : ArePieces ps) (hqs : ArePieces qs) :
    ArePieces (ps ++ qs) := fun p hp =>
  (List.mem_append.1 hp).elim (hps p) (hqs p)

theorem arePieces_singleton {p : Nat} (hp : p < 65536) : ArePieces [p] := fun q hq => by
  rwa [List.mem_singleton.1 hq]

/-- **What reading pieces preserves**: they are pieces, and with the two colons they are not more
than eight. -/
theorem ipv6Pieces?_arePieces {fuel : Nat} {done : List Nat} {gap : Option Nat} {cs : List Char}
    {ps : List Nat} {gap' : Option Nat} (h : ipv6Pieces? fuel done gap cs = some (ps, gap'))
    (hdone : ArePieces done) (hused : used done gap ≤ 8) : ArePieces ps ∧ used ps gap' ≤ 8 := by
  induction fuel generalizing done gap cs with
  | zero => cases h
  | succ fuel ih =>
    cases cs with
    | nil =>
      cases h
      exact ⟨hdone, hused⟩
    | cons c cs =>
      rw [ipv6Pieces?] at h
      by_cases hfull : done.length + (if gap.isSome then 1 else 0) = 8
      · rw [if_pos hfull] at h
        cases h
      · have hlt : used done gap < 8 := Nat.lt_of_le_of_ne hused hfull
        rw [if_neg hfull] at h
        split at h
        · -- two colons
          split at h
          · cases h
          · rename_i hgap
            refine ih h hdone ?_
            rw [used, if_neg hgap] at hlt
            rw [used, Option.isSome_some, if_pos rfl]
            omega
        · have hv := hexPrefix_lt 4 (c :: cs) 0 0
          split at h
          · rename_i v n heq
            rw [heq] at hv
            cases h
            exact ⟨hdone.append (arePieces_singleton (by simpa using hv)), by
              rw [used_append_singleton]; exact hlt⟩
          · rename_i v n d rest heq
            rw [heq] at hv
            split at h
            · by_cases hroom : n = 0 ∨ 6 < done.length + (if gap.isSome then 1 else 0)
              · rw [if_pos hroom] at h
                cases h
              · rw [if_neg hroom] at h
                obtain ⟨qs, hqs, hout⟩ := Option.map_eq_some_iff.1 h
                obtain ⟨hlen, hqs⟩ := embeddedIpv4?_pieces hqs
                cases hout
                refine ⟨hdone.append hqs, ?_⟩
                rw [used, List.length_append, hlen]
                omega
            · split at h
              · split at h
                · cases h
                · exact ih h (hdone.append (arePieces_singleton (by simpa using hv)))
                    (by rw [used_append_singleton]; exact hlt)
              · cases h

theorem fillGap?_arePieces {ps : List Nat} {gap : Option Nat} {out : List Nat}
    (h : fillGap? ps gap = some out) (hps : ArePieces ps) (hused : used ps gap ≤ 8) :
    out.length = 8 ∧ ArePieces out := by
  unfold fillGap? at h
  cases gap with
  | none =>
    dsimp only at h
    split at h
    · rename_i hlen
      obtain rfl := Option.some.inj h
      exact ⟨hlen, hps⟩
    · cases h
  | some i =>
    obtain rfl := Option.some.inj h
    rw [used, Option.isSome_some, if_pos rfl] at hused
    constructor
    · simp only [List.length_append, List.length_take, List.length_replicate, List.length_drop]
      omega
    · refine (ArePieces.append (fun p hp => hps p (List.mem_of_mem_take hp)) fun p hp => ?_).append
        fun p hp => hps p (List.mem_of_mem_drop hp)
      rw [List.eq_of_mem_replicate hp]
      decide

/-- What is read of an address between brackets. -/
def ipv6Read? : List Char → Option (List Nat × Option Nat)
  | [] => none
  | [_] => none
  | c :: d :: rest =>
    if c = ':' then if d = ':' then ipv6Pieces? (rest.length + 3) [] (some 0) rest else none
    else ipv6Pieces? (rest.length + 3) [] none (c :: d :: rest)

/-- The address that comes of what has been read. -/
def ofRead (read : Option (List Nat × Option Nat)) : Except Fault (List Nat) :=
  match read.bind fun (ps, gap) => fillGap? ps gap with
  | some ps => .ok ps
  | none => .error .invalidIpv6

theorem ofRead_eq_ok_iff {read : Option (List Nat × Option Nat)} {out : List Nat} :
    ofRead read = .ok out ↔ ∃ ps gap, read = some (ps, gap) ∧ fillGap? ps gap = some out := by
  unfold ofRead
  split
  · rename_i filled hfill
    obtain ⟨⟨ps, gap⟩, hread, hfill⟩ := Option.bind_eq_some_iff.1 hfill
    simp [hread, hfill]
  · rename_i hnone
    refine iff_of_false (fun h => (by cases h)) ?_
    rintro ⟨ps, gap, rfl, hfill⟩
    rw [Option.bind_some] at hnone
    exact absurd (hnone.symm.trans hfill) (Option.some_ne_none _).symm

set_option linter.auxLemma false in
/-- An address between brackets is what comes of what is read of it. -/
theorem parseIpv6_eq (cs : List Char) : parseIpv6 cs = ofRead (ipv6Read? cs) := by
  -- the patterns of `parseIpv6` overlap in their first character, so the match is opened by hand
  unfold parseIpv6 parseIpv6.match_1
  match cs with
  | [] => rfl
  | [c] =>
    by_cases hc : c = ':'
    · subst hc
      rfl
    · exact congrArg ofRead (dif_neg hc)
  | c :: d :: rest =>
    by_cases hc : c = ':'
    · subst hc
      by_cases hd : d = ':'
      · subst hd
        rfl
      · exact congrArg ofRead ((dif_neg hd).trans (if_neg hd).symm)
    · exact congrArg ofRead ((dif_neg hc).trans (if_neg hc).symm)

theorem ipv6Read?_arePieces {cs : List Char} {ps : List Nat} {gap : Option Nat}
    (h : ipv6Read? cs = some (ps, gap)) : ArePieces ps ∧ used ps gap ≤ 8 := by
  unfold ipv6Read? at h
  split at h
  · cases h
  · cases h
  · split at h
    · split at h
      · exact ipv6Pieces?_arePieces h (List.forall_mem_nil _) (by decide)
      · cases h
    · exact ipv6Pieces?_arePieces h (List.forall_mem_nil _) (by decide)

theorem parseIpv6_arePieces {cs : List Char} {ps : List Nat} (h : parseIpv6 cs = .ok ps) :
    ps.length = 8 ∧ ArePieces ps := by
  rw [parseIpv6_eq] at h
  obtain ⟨qs, gap, hread, hfill⟩ := ofRead_eq_ok_iff.1 h
  obtain ⟨hqs, hused⟩ := ipv6Read?_arePieces hread
  exact fillGap?_arePieces hfill hqs hused

/-! ### Reading an address of eight pieces -/

/-- The text of pieces does not start with a colon. -/
theorem ne_colon_of_head?_pieceChars {ps : List Nat} (hne : ps ≠ []) (rest : List Char) :
    ∀ c ∈ (pieceChars ps ++ rest).head?, c ≠ ':' := by
  obtain ⟨p, qs, rfl⟩ := List.exists_cons_of_ne_nil hne
  obtain ⟨c, cs, hc, htext⟩ := exists_pieceChars_cons p qs
  intro d hd
  rw [htext] at hd
  obtain rfl := Option.some.inj hd
  exact hc

/-- A text without a colon at its front is read as its pieces. -/
theorem parseIpv6_of_ipv6Pieces? {cs : List Char} (hlen : 2 ≤ cs.length)
    (hcolon : ∀ c ∈ cs.head?, c ≠ ':') {ps out : List Nat} {gap : Option Nat}
    (hread : ipv6Pieces? (cs.length + 1) [] none cs = some (ps, gap))
    (hfill : fillGap? ps gap = some out) : parseIpv6 cs = .ok out := by
  match cs with
  | [] => cases hlen
  | [c] => exact absurd hlen (by rw [List.length_singleton]; decide)
  | c :: d :: rest =>
    have hc : c ≠ ':' := hcolon c rfl
    rw [parseIpv6_eq, ofRead_eq_ok_iff]
    refine ⟨ps, gap, ?_, hfill⟩
    rw [ipv6Read?, if_neg hc]
    exact hread

theorem fillGap?_append {front back : List Nat} {n : Nat}
    (hlen : front.length + n + back.length = 8) :
    fillGap? (front ++ back) (some front.length) = some (front ++ List.replicate n 0 ++ back) := by
  rw [fillGap?, List.take_left, List.drop_left, List.length_append,
    show 8 - (front.length + back.length) = n by omega]

/-- Pieces behind two colons are read. -/
theorem parseIpv6_colons_pieceChars {back : List Nat} (hback : ArePieces back) {n : Nat}
    (hlen : n + back.length = 8) (hn : 2 ≤ n) :
    parseIpv6 (':' :: ':' :: pieceChars back) = .ok (List.replicate n 0 ++ back) := by
  have hbackLen := length_le_pieceChars back
  obtain ⟨k, hk⟩ : ∃ k, (pieceChars back).length + 1 + 1 + 1 = k + back.length + 1 :=
    ⟨(pieceChars back).length + 2 - back.length, by omega⟩
  have hused : used [] (some 0) + back.length ≤ 8 := by
    rw [used, List.length_nil, Option.isSome_some, if_pos rfl]
    omega
  have hread := ipv6Pieces?_pieceChars hback hused k
  have hfill : fillGap? back (some 0) = some (List.replicate n 0 ++ back) :=
    @fillGap?_append [] back n (by rw [List.length_nil]; omega)
  rw [← hk, List.nil_append] at hread
  rw [parseIpv6_eq, ofRead_eq_ok_iff]
  exact ⟨back, some 0, hread, hfill⟩

/-- Pieces around two colons are read. -/
theorem parseIpv6_pieceChars_colons {front back : List Nat} (hne : front ≠ [])
    (hfront : ArePieces front) (hback : ArePieces back) {n : Nat}
    (hlen : front.length + n + back.length = 8) (hn : 2 ≤ n) :
    parseIpv6 (pieceChars front ++ ':' :: ':' :: pieceChars back) =
      .ok (front ++ List.replicate n 0 ++ back) := by
  have hfrontLen := length_le_pieceChars front
  have hbackLen := length_le_pieceChars back
  have hcs : (pieceChars front ++ ':' :: ':' :: pieceChars back).length =
      (pieceChars front).length + ((pieceChars back).length + 1 + 1) := by
    rw [List.length_append, List.length_cons, List.length_cons]
  have hread (k : Nat) : ipv6Pieces? (k + back.length + 1 + front.length + 1) [] none
      (pieceChars front ++ ':' :: ':' :: pieceChars back) =
      some (front ++ back, some front.length) := by
    rw [ipv6Pieces?_colons hne hfront (by rw [List.length_nil]; omega)]
    refine ipv6Pieces?_pieceChars hback ?_ k
    rw [used, Option.isSome_some, if_pos rfl, List.nil_append]
    omega
  have hfuel : (pieceChars front ++ ':' :: ':' :: pieceChars back).length + 1 =
      (pieceChars front).length - front.length + ((pieceChars back).length - back.length + 1) +
        back.length + 1 + front.length + 1 := by
    rw [hcs]
    omega
  refine parseIpv6_of_ipv6Pieces? (by rw [hcs]; omega) (ne_colon_of_head?_pieceChars hne _) ?_
    (fillGap?_append hlen)
  rw [hfuel]
  exact hread _

/-- Eight pieces are read. -/
theorem parseIpv6_pieceChars {ps : List Nat} (hps : ArePieces ps) (hlen : ps.length = 8) :
    parseIpv6 (pieceChars ps) = .ok ps := by
  have hchars := length_le_pieceChars ps
  have hne : ps ≠ [] := List.ne_nil_of_length_eq_add_one hlen
  have hhead := ne_colon_of_head?_pieceChars hne []
  rw [List.append_nil] at hhead
  have hused : used [] none + ps.length ≤ 8 := by
    rw [used, hlen]
    exact Nat.le_refl 8
  have hread := ipv6Pieces?_pieceChars hps hused ((pieceChars ps).length - ps.length)
  rw [Nat.sub_add_cancel hchars] at hread
  exact parseIpv6_of_ipv6Pieces? (by omega) hhead hread (if_pos hlen)

/-- **An address of eight pieces is read again from its text.** -/
theorem parseIpv6_ipv6Text {ps : List Nat} (hps : ArePieces ps) (hlen : ps.length = 8) :
    parseIpv6 (ipv6Text ps).toList = .ok ps := by
  have hspec := longestZeros_spec ps
  unfold ipv6Text
  split
  · rw [toList_pieceText]
    exact parseIpv6_pieceChars hps hlen
  · rename_i start n hn heq
    rw [heq] at hspec
    obtain ⟨h2, hrun⟩ := hspec.resolve_left hn
    dsimp only at h2 hrun
    have hsplit : ps.take start ++ List.replicate n 0 ++ ps.drop (start + n) = ps := by
      rw [List.append_assoc, ← List.drop_drop, ← hrun, replicate_zeroRun_append_drop,
        List.take_append_drop]
    have hfront : ArePieces (ps.take start) := fun p hp => hps p (List.mem_of_mem_take hp)
    have hback : ArePieces (ps.drop (start + n)) := fun p hp => hps p (List.mem_of_mem_drop hp)
    have hlengths := congrArg List.length hsplit
    rw [hlen, List.length_append, List.length_append, List.length_replicate] at hlengths
    have htext : (pieceText (ps.take start) ++ "::" ++ pieceText (ps.drop (start + n))).toList =
        pieceChars (ps.take start) ++ ':' :: ':' :: pieceChars (ps.drop (start + n)) := by
      simp [toList_pieceText]
    rw [htext]
    by_cases hne : ps.take start = []
    · rw [hne] at hsplit hlengths ⊢
      rw [List.length_nil, Nat.zero_add] at hlengths
      exact (parseIpv6_colons_pieceChars hback hlengths h2).trans (congrArg Except.ok hsplit)
    · rw [parseIpv6_pieceChars_colons hne hfront hback hlengths h2, hsplit]

/-- **An address of eight pieces that has been read is read again.** -/
theorem Host.readsBack_ipv6 {cs : List Char} {ps : List Nat}
    (h : parseWebHost cs = .ok (.ipv6 ps)) : (Host.ipv6 ps).ReadsBack := by
  obtain ⟨hlen, hps⟩ : ps.length = 8 ∧ ArePieces ps := by
    obtain ⟨_, pieces, hpieces, heq⟩ | ⟨_, n, -, heq⟩ | ⟨_, domain, -, -, heq⟩ :=
      parseWebHost_eq_ok h
    · cases heq
      exact parseIpv6_arePieces hpieces
    · cases heq
    · cases heq
  have htext : (Host.ipv6 ps).text.toList = '[' :: ((ipv6Text ps).toList ++ [']']) := by
    simp [text]
  have hread : parseWebHost ('[' :: ((ipv6Text ps).toList ++ [']'])) =
      parseBracketed ((ipv6Text ps).toList ++ [']']) := rfl
  rw [ReadsBack, htext, hread, parseBracketed, if_pos List.getLast?_concat, List.dropLast_concat,
    parseIpv6_ipv6Text hps hlen]
  rfl

/-- **A host that has been read is read again**, if it is not a name that is not. -/
theorem Host.readsBack_of_parseWebHost {cs : List Char} {host : Host}
    (h : parseWebHost cs = .ok host) (hname : ∀ s, host = .name s → (Host.name s).ReadsBack) :
    host.ReadsBack := by
  cases host with
  | name s => exact hname s rfl
  | ipv4 n => exact readsBack_ipv4 h
  | ipv6 ps => exact readsBack_ipv6 h

end SignIn.Url
