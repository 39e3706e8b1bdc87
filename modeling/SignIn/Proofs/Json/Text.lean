import SignIn.Json.Read
import SignIn.Json.Write
import SignIn.Proofs.Text.Utf8

/-!
# Written strings are read back
-/

namespace SignIn.Json

open SignIn.Text

/-- A byte that is no control, no quote and no backslash stands for itself. -/
theorem stringBytes_plain {b : UInt8} (h : 0x20 ≤ b.toNat) (hq : b ≠ 0x22) (hs : b ≠ 0x5C)
    (rest : Bytes) : stringBytes (b :: rest) = prepend [b] (stringBytes rest) := by
  have hlt : ¬ b < 0x20 := by
    rw [UInt8.lt_iff_toNat_lt]
    exact Nat.not_lt.2 h
  rw [stringBytes.eq_7 b rest hq (fun _ _ _ _ _ h => (hs h).elim) (fun _ h => (hs h).elim)
    (fun h => (hs h).elim) (fun _ _ h => (hs h).elim), if_neg hlt]

theorem stringBytes_short {b e : UInt8} (h : shortEscape? b = some e) (hu : b ≠ 0x75)
    (rest : Bytes) : stringBytes (0x5C :: b :: rest) = prepend [e] (stringBytes rest) := by
  rw [stringBytes.eq_6 b rest (fun _ _ _ _ _ h => (hu h).elim) hu, h]

theorem stringBytes_unit {a b c d : UInt8} {n : Nat} (h : hexUnit? a b c d = some n)
    (hn : n < 0xD800) (rest : Bytes) :
    stringBytes (0x5C :: 0x75 :: a :: b :: c :: d :: rest) =
      prepend (String.utf8EncodeChar (Char.ofNat n)) (stringBytes rest) := by
  rw [stringBytes.eq_3, h]
  dsimp only
  rw [if_neg (by omega), if_neg (by omega)]

/-- The bytes of a character that is no control, no quote and no backslash are none of these. -/
theorem plain_of_mem_encoded {c : Char} (hc : 0x20 ≤ c.toNat) (hq : c ≠ '"') (hs : c ≠ '\\')
    {b : UInt8} (hb : b ∈ String.utf8EncodeChar c) : 0x20 ≤ b.toNat ∧ b ≠ 0x22 ∧ b ≠ 0x5C := by
  by_cases h : c.toNat < 128
  · rw [Utf8.encoded_of_lt h, List.mem_singleton] at hb
    have hn : b.toNat = c.toNat := hb ▸ Utf8.toNat_byte (by omega)
    have hne (d : Char) (hd : c ≠ d) (n : UInt8) (hdn : n.toNat = d.toNat) : b ≠ n := by
      rintro rfl
      exact hd (Char.toNat_inj.1 (hn.symm.trans hdn))
    exact ⟨by omega, hne '"' hq 0x22 rfl, hne '\\' hs 0x5C rfl⟩
  · have hle : 128 ≤ b.toNat := Utf8.le_of_mem_encoded (by omega) hb
    have hne (n : UInt8) (hn : n.toNat < 128) : b ≠ n := by
      rintro rfl
      omega
    exact ⟨by omega, hne _ (by decide), hne _ (by decide)⟩

/-- Such bytes stand for themselves. -/
theorem stringBytes_append {bs : Bytes} (h : ∀ b ∈ bs, 0x20 ≤ b.toNat ∧ b ≠ 0x22 ∧ b ≠ 0x5C)
    (rest : Bytes) : stringBytes (bs ++ rest) = prepend bs (stringBytes rest) := by
  induction bs with
  | nil =>
    rw [List.nil_append]
    cases stringBytes rest with
    | error f => rfl
    | ok r => rfl
  | cons b bs ih =>
    obtain ⟨hb, hq, hs⟩ := h b List.mem_cons_self
    rw [List.cons_append, stringBytes_plain hb hq hs, ih fun b hb => h b (List.mem_cons_of_mem _ hb)]
    cases stringBytes rest with
    | error f => rfl
    | ok r => rfl

/-- A character that is no control, no quote and no backslash stands for itself. -/
theorem stringBytes_self {c : Char} (hc : 0x20 ≤ c.toNat) (hq : c ≠ '"') (hs : c ≠ '\\')
    (rest : Bytes) : stringBytes (String.utf8EncodeChar c ++ rest) =
      prepend (String.utf8EncodeChar c) (stringBytes rest) :=
  stringBytes_append (fun _ hb => plain_of_mem_encoded hc hq hs hb) rest

/-- The digits of a control character give it back. -/
theorem hexUnit?_control : ∀ n < 32,
    hexUnit? 0x30 0x30 (UInt8.ofNat (hexDigit (n / 16)).toNat)
      (UInt8.ofNat (hexDigit (n % 16)).toNat) = some n ∧
    (hexDigit (n / 16)).toNat < 128 ∧ (hexDigit (n % 16)).toNat < 128 := by
  decide

/-- What stands for a character is read as the character. -/
theorem stringBytes_escaped (c : Char) (rest : Bytes) :
    stringBytes (Utf8.bytes (escapeJson c) ++ rest) =
      prepend (String.utf8EncodeChar c) (stringBytes rest) := by
  unfold escapeJson
  -- seven characters have a letter of their own
  iterate 7
    split
    · rename_i h
      subst h
      exact stringBytes_short rfl (by decide) rest
  split
  · rename_i h
    obtain ⟨hunit, hhigh, hlow⟩ := hexUnit?_control c.toNat h
    have hbytes : Utf8.bytes
        ['\\', 'u', '0', '0', hexDigit (c.toNat / 16), hexDigit (c.toNat % 16)] =
        [0x5C, 0x75, 0x30, 0x30, UInt8.ofNat (hexDigit (c.toNat / 16)).toNat,
          UInt8.ofNat (hexDigit (c.toNat % 16)).toNat] := by
      simp only [Utf8.bytes_cons, Utf8.encoded_of_lt hhigh, Utf8.encoded_of_lt hlow]
      rfl
    rw [hbytes]
    have hread := stringBytes_unit hunit (by omega) rest
    rw [Char.ofNat_toNat] at hread
    exact hread
  · rename_i hquote hbackslash _ _ _ _ _ hcontrol
    rw [Utf8.bytes_cons, Utf8.bytes_nil, List.append_nil]
    exact stringBytes_self (by omega) hquote hbackslash rest

theorem prepend_ok (front body rest : Bytes) :
    prepend front (.ok (body, rest)) = .ok (front ++ body, rest) := rfl

/-- The escaped characters of a string are read back, up to the closing quote. -/
theorem stringBytes_written (cs : List Char) (rest : Bytes) :
    stringBytes (Utf8.bytes (cs.flatMap escapeJson) ++ 0x22 :: rest) =
      .ok (Utf8.bytes cs, rest) := by
  induction cs with
  | nil => exact stringBytes.eq_2 rest
  | cons c cs ih =>
    rw [List.flatMap_cons, Utf8.bytes_append, List.append_assoc, stringBytes_escaped, ih,
      prepend_ok, Utf8.bytes_cons]

/-- A string between quotes, as bytes. -/
def quoted (s : String) : Bytes := Utf8.bytes (stringText s)

/-- **A written string is read back**, after its opening quote. -/
theorem string_quoted (s : String) (rest : Bytes) :
    ∃ after, quoted s ++ rest = 0x22 :: after ∧ string after = .ok (s, rest) := by
  refine ⟨Utf8.bytes (s.toList.flatMap escapeJson) ++ 0x22 :: rest, ?_, ?_⟩
  · have hquote : Utf8.bytes ['"'] = [0x22] := rfl
    rw [quoted, stringText, Utf8.bytes_append, hquote, List.append_assoc]
    rfl
  · have hdecode : Utf8.decode? (Utf8.bytes s.toList) = some s := Utf8.decode?_encode s
    rw [string, stringBytes_written]
    simp only [bind, Except.bind, hdecode]
    rfl

end SignIn.Json
