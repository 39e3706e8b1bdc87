import SignIn.Text.Utf8

/-!
# Text survives its bytes

What is written as bytes is read back: the bytes of a character form a sequence of their own,
whatever follows, and the reader takes exactly this sequence off.

Only the first 128 characters have a byte below 0x80, and then they are that byte.

## Main results

* `front_encoded` — the first sequence of the bytes of a character is the whole of them.
* `encoded_of_front` — and every sequence is that of a character.
* `decode?_encode` — a text is read back from its bytes.
* `decode?_eq_some_iff` — and from no others.
* `encoded_of_lt`, `le_of_mem_encoded` — the bytes of a character.
-/

namespace SignIn.Text.Utf8

/-! ### Bytes from numbers -/

theorem toNat_byte {n : Nat} (h : n < 256) : (UInt8.ofNat n).toNat = n :=
  UInt8.toNat_ofNat_of_lt' h

/-- Six bits, marked as the tail of a sequence. -/
theorem isTail_byte (n : Nat) : isTail (UInt8.ofNat (n % 64 + 128)) = true := by
  have hb : (UInt8.ofNat (n % 64 + 128)).toNat = n % 64 + 128 := toNat_byte (by omega)
  rw [isTail, Bool.and_eq_true, decide_eq_true_eq, decide_eq_true_eq, UInt8.le_iff_toNat_le,
    UInt8.lt_iff_toNat_lt, hb]
  change 128 ≤ n % 64 + 128 ∧ n % 64 + 128 < 192
  omega

theorem tailBits_byte (n : Nat) : tailBits (UInt8.ofNat (n % 64 + 128)) = n % 64 := by
  rw [tailBits, toNat_byte (by omega)]
  omega

/-- Which second bytes may follow a first one, in numbers. -/
theorem isSecond_of {b c : UInt8} (hc : 128 ≤ c.toNat ∧ c.toNat ≤ 191)
    (hE0 : b.toNat = 224 → 160 ≤ c.toNat) (hED : b.toNat = 237 → c.toNat ≤ 159)
    (hF0 : b.toNat = 240 → 144 ≤ c.toNat) (hF4 : b.toNat = 244 → c.toNat ≤ 143) :
    isSecond b c = true := by
  rw [isSecond, Bool.and_eq_true, decide_eq_true_eq, decide_eq_true_eq, UInt8.le_iff_toNat_le,
    UInt8.le_iff_toNat_le, secondRange]
  split
  · rename_i h
    exact ⟨hE0 (congrArg UInt8.toNat h), hc.2⟩
  split
  · rename_i h
    exact ⟨hc.1, hED (congrArg UInt8.toNat h)⟩
  split
  · rename_i h
    exact ⟨hF0 (congrArg UInt8.toNat h), hc.2⟩
  split
  · rename_i h
    exact ⟨hc.1, hF4 (congrArg UInt8.toNat h)⟩
  · exact hc

/-! ### Sequences -/

theorem front_one {n : Nat} (h : n < 128) (rest : Bytes) :
    front (UInt8.ofNat n) rest = (some (Char.ofNat n), rest) := by
  have hb : (UInt8.ofNat n).toNat = n := toNat_byte (by omega)
  generalize UInt8.ofNat n = b at hb ⊢
  have h₁ : b.toNat < 128 := by omega
  unfold front
  rw [if_pos (UInt8.lt_iff_toNat_lt.2 h₁), hb]

theorem front_two {n : Nat} (hl : 128 ≤ n) (hu : n < 2048) (rest : Bytes) :
    front (UInt8.ofNat (n / 64 % 32 + 192)) (UInt8.ofNat (n % 64 + 128) :: rest) =
      (some (Char.ofNat n), rest) := by
  have hb : (UInt8.ofNat (n / 64 % 32 + 192)).toNat = n / 64 % 32 + 192 := toNat_byte (by omega)
  generalize UInt8.ofNat (n / 64 % 32 + 192) = b at hb ⊢
  have h₁ : ¬ b.toNat < 128 := by omega
  have h₂ : ¬ b.toNat < 194 := by omega
  have h₃ : b.toNat < 224 := by omega
  have hn : b.toNat % 32 * 64 + n % 64 = n := by omega
  rw [front, if_neg (mt UInt8.lt_iff_toNat_lt.1 h₁), if_neg (mt UInt8.lt_iff_toNat_lt.1 h₂),
    if_pos (UInt8.lt_iff_toNat_lt.2 h₃), if_pos (isTail_byte n),
    tailBits_byte, hn]

theorem front_three {n : Nat} (hl : 2048 ≤ n) (hu : n < 65536)
    (hsurrogate : n < 55296 ∨ 57343 < n) (rest : Bytes) :
    front (UInt8.ofNat (n / 4096 % 16 + 224))
        (UInt8.ofNat (n / 64 % 64 + 128) :: UInt8.ofNat (n % 64 + 128) :: rest) =
      (some (Char.ofNat n), rest) := by
  have hb : (UInt8.ofNat (n / 4096 % 16 + 224)).toNat = n / 4096 % 16 + 224 :=
    toNat_byte (by omega)
  have hc : (UInt8.ofNat (n / 64 % 64 + 128)).toNat = n / 64 % 64 + 128 := toNat_byte (by omega)
  have htail := tailBits_byte (n / 64)
  generalize UInt8.ofNat (n / 4096 % 16 + 224) = b at hb ⊢
  generalize UInt8.ofNat (n / 64 % 64 + 128) = c at hc htail ⊢
  have h₁ : ¬ b.toNat < 128 := by omega
  have h₂ : ¬ b.toNat < 194 := by omega
  have h₃ : ¬ b.toNat < 224 := by omega
  have h₄ : b.toNat < 240 := by omega
  have hsecond : isSecond b c = true :=
    isSecond_of (by omega) (by omega) (by omega) (by omega) (by omega)
  have hn : b.toNat % 16 * 4096 + n / 64 % 64 * 64 + n % 64 = n := by omega
  rw [front, if_neg (mt UInt8.lt_iff_toNat_lt.1 h₁), if_neg (mt UInt8.lt_iff_toNat_lt.1 h₂),
    if_neg (mt UInt8.lt_iff_toNat_lt.1 h₃), if_pos (UInt8.lt_iff_toNat_lt.2 h₄)]
  dsimp only
  rw [hsecond, isTail_byte, htail, tailBits_byte, hn]
  rfl

theorem front_four {n : Nat} (hl : 65536 ≤ n) (hu : n < 1114112) (rest : Bytes) :
    front (UInt8.ofNat (n / 262144 % 8 + 240))
        (UInt8.ofNat (n / 4096 % 64 + 128) :: UInt8.ofNat (n / 64 % 64 + 128) ::
          UInt8.ofNat (n % 64 + 128) :: rest) =
      (some (Char.ofNat n), rest) := by
  have hb : (UInt8.ofNat (n / 262144 % 8 + 240)).toNat = n / 262144 % 8 + 240 :=
    toNat_byte (by omega)
  have hc : (UInt8.ofNat (n / 4096 % 64 + 128)).toNat = n / 4096 % 64 + 128 :=
    toNat_byte (by omega)
  have htail := tailBits_byte (n / 4096)
  generalize UInt8.ofNat (n / 262144 % 8 + 240) = b at hb ⊢
  generalize UInt8.ofNat (n / 4096 % 64 + 128) = c at hc htail ⊢
  have h₁ : ¬ b.toNat < 128 := by omega
  have h₂ : ¬ b.toNat < 194 := by omega
  have h₃ : ¬ b.toNat < 224 := by omega
  have h₄ : ¬ b.toNat < 240 := by omega
  have h₅ : b.toNat < 245 := by omega
  have hsecond : isSecond b c = true :=
    isSecond_of (by omega) (by omega) (by omega) (by omega) (by omega)
  have hn : b.toNat % 8 * 262144 + n / 4096 % 64 * 4096 + n / 64 % 64 * 64 + n % 64 = n := by
    omega
  rw [front, if_neg (mt UInt8.lt_iff_toNat_lt.1 h₁), if_neg (mt UInt8.lt_iff_toNat_lt.1 h₂),
    if_neg (mt UInt8.lt_iff_toNat_lt.1 h₃), if_neg (mt UInt8.lt_iff_toNat_lt.1 h₄),
    if_pos (UInt8.lt_iff_toNat_lt.2 h₅)]
  dsimp only
  rw [hsecond, isTail_byte, isTail_byte, htail, tailBits_byte, tailBits_byte, hn]
  rfl

/-! ### Characters -/

/-- The numbers of characters. -/
theorem toNat_char (c : Char) :
    c.toNat < 1114112 ∧ (c.toNat < 55296 ∨ 57343 < c.toNat) := by
  obtain h | h := c.valid
  · have hlt : c.toNat < 55296 := h
    exact ⟨by omega, .inl hlt⟩
  · obtain ⟨hl, hu⟩ := h
    exact ⟨hu, .inr hl⟩

/-- The bytes of a character, by its number. -/
theorem encoded_eq (c : Char) : String.utf8EncodeChar c =
    if c.toNat ≤ 127 then [UInt8.ofNat c.toNat]
    else if c.toNat ≤ 2047 then
      [UInt8.ofNat (c.toNat / 64 % 32 + 192), UInt8.ofNat (c.toNat % 64 + 128)]
    else if c.toNat ≤ 65535 then
      [UInt8.ofNat (c.toNat / 4096 % 16 + 224), UInt8.ofNat (c.toNat / 64 % 64 + 128),
        UInt8.ofNat (c.toNat % 64 + 128)]
    else
      [UInt8.ofNat (c.toNat / 262144 % 8 + 240), UInt8.ofNat (c.toNat / 4096 % 64 + 128),
        UInt8.ofNat (c.toNat / 64 % 64 + 128), UInt8.ofNat (c.toNat % 64 + 128)] := rfl

/-- The first 128 characters are bytes. -/
theorem encoded_of_lt {c : Char} (h : c.toNat < 128) :
    String.utf8EncodeChar c = [UInt8.ofNat c.toNat] := by
  rw [encoded_eq, if_pos (by omega)]

/-- All bytes of the other characters are beyond them. -/
theorem le_of_mem_encoded {c : Char} (h : 128 ≤ c.toNat) {b : UInt8}
    (hb : b ∈ String.utf8EncodeChar c) : 128 ≤ b.toNat := by
  rw [encoded_eq, if_neg (by omega)] at hb
  split at hb
  · simp only [List.mem_cons, List.not_mem_nil, or_false] at hb
    obtain rfl | rfl := hb <;> rw [toNat_byte (by omega)] <;> omega
  split at hb
  · simp only [List.mem_cons, List.not_mem_nil, or_false] at hb
    obtain rfl | rfl | rfl := hb <;> rw [toNat_byte (by omega)] <;> omega
  · simp only [List.mem_cons, List.not_mem_nil, or_false] at hb
    obtain rfl | rfl | rfl | rfl := hb <;> rw [toNat_byte (by omega)] <;> omega

/-- **The first sequence of the bytes of a character is the whole of them.** -/
theorem front_encoded (c : Char) : ∃ b tail, String.utf8EncodeChar c = b :: tail ∧
    ∀ rest, front b (tail ++ rest) = (some c, rest) := by
  obtain ⟨hu, hsurrogate⟩ := toNat_char c
  rw [encoded_eq]
  -- by the number of bytes
  split
  · rename_i h
    refine ⟨_, _, rfl, fun rest => ?_⟩
    rw [List.nil_append, front_one (by omega), Char.ofNat_toNat]
  split
  · rename_i h
    refine ⟨_, _, rfl, fun rest => ?_⟩
    rw [List.singleton_append, front_two (by omega) (by omega), Char.ofNat_toNat]
  split
  · rename_i h
    refine ⟨_, _, rfl, fun rest => ?_⟩
    rw [List.cons_append, List.singleton_append, front_three (by omega) (by omega) hsurrogate,
      Char.ofNat_toNat]
  · refine ⟨_, _, rfl, fun rest => ?_⟩
    rw [List.cons_append, List.cons_append, List.singleton_append, front_four (by omega) hu,
      Char.ofNat_toNat]

/-- The first byte of a character is no tail of a sequence, and all others are. -/
theorem encoded_eq_cons (c : Char) : ∃ b tail, String.utf8EncodeChar c = b :: tail ∧
    isTail b = false ∧ ∀ t ∈ tail, isTail t = true := by
  obtain ⟨hu, -⟩ := toNat_char c
  have hfirst {n : Nat} (hn : n < 128 ∨ 192 ≤ n ∧ n < 256) : isTail (UInt8.ofNat n) = false := by
    have hb : (UInt8.ofNat n).toNat = n := toNat_byte (by omega)
    rw [isTail, Bool.and_eq_false_iff, decide_eq_false_iff_not, decide_eq_false_iff_not,
      UInt8.le_iff_toNat_le, UInt8.lt_iff_toNat_lt, hb]
    change ¬ 128 ≤ n ∨ ¬ n < 192
    omega
  rw [encoded_eq]
  split
  · exact ⟨_, _, rfl, hfirst (by omega), List.forall_mem_nil _⟩
  split
  · refine ⟨_, _, rfl, hfirst (by omega), fun t ht => ?_⟩
    obtain rfl := List.mem_singleton.1 ht
    exact isTail_byte _
  split
  · refine ⟨_, _, rfl, hfirst (by omega), fun t ht => ?_⟩
    simp only [List.mem_cons, List.not_mem_nil, or_false] at ht
    obtain rfl | rfl := ht <;> exact isTail_byte _
  · refine ⟨_, _, rfl, hfirst (by omega), fun t ht => ?_⟩
    simp only [List.mem_cons, List.not_mem_nil, or_false] at ht
    obtain rfl | rfl | rfl := ht <;> exact isTail_byte _

/-! ### No other sequences -/

theorem byte_eq {b : UInt8} {n : Nat} (h : b.toNat = n) : UInt8.ofNat n = b := by
  rw [← h, UInt8.ofNat_toNat]

theorem toNat_ofNat {n : Nat} (hn : n < 55296 ∨ 57343 < n ∧ n < 1114112) :
    (Char.ofNat n).toNat = n := by
  rw [Char.ofNat, dif_pos (show n.isValidChar from hn)]
  rfl

theorem isTail_eq_true_iff {b : UInt8} : isTail b = true ↔ 128 ≤ b.toNat ∧ b.toNat < 192 := by
  rw [isTail, Bool.and_eq_true, decide_eq_true_eq, decide_eq_true_eq, UInt8.le_iff_toNat_le,
    UInt8.lt_iff_toNat_lt]
  rfl

/-- Which second bytes follow a first one, in numbers. -/
theorem of_isSecond {b c : UInt8} (h : isSecond b c = true) :
    (128 ≤ c.toNat ∧ c.toNat ≤ 191) ∧ (b.toNat = 224 → 160 ≤ c.toNat) ∧
      (b.toNat = 237 → c.toNat ≤ 159) ∧ (b.toNat = 240 → 144 ≤ c.toNat) ∧
      (b.toNat = 244 → c.toNat ≤ 143) := by
  rw [isSecond, Bool.and_eq_true, decide_eq_true_eq, decide_eq_true_eq, UInt8.le_iff_toNat_le,
    UInt8.le_iff_toNat_le, secondRange] at h
  -- four first bytes have a range of their own
  split at h
  · rename_i hb
    subst hb
    change 160 ≤ c.toNat ∧ c.toNat ≤ 191 at h
    refine ⟨by omega, fun _ => h.1, ?_, ?_, ?_⟩ <;> exact fun h => absurd h (by decide)
  rename_i hE0
  split at h
  · rename_i hb
    subst hb
    change 128 ≤ c.toNat ∧ c.toNat ≤ 159 at h
    refine ⟨by omega, ?_, fun _ => h.2, ?_, ?_⟩ <;> exact fun h => absurd h (by decide)
  rename_i hED
  split at h
  · rename_i hb
    subst hb
    change 144 ≤ c.toNat ∧ c.toNat ≤ 191 at h
    refine ⟨by omega, ?_, ?_, fun _ => h.1, ?_⟩ <;> exact fun h => absurd h (by decide)
  rename_i hF0
  split at h
  · rename_i hb
    subst hb
    change 128 ≤ c.toNat ∧ c.toNat ≤ 143 at h
    refine ⟨by omega, ?_, ?_, ?_, fun _ => h.2⟩ <;> exact fun h => absurd h (by decide)
  rename_i hF4
  change 128 ≤ c.toNat ∧ c.toNat ≤ 191 at h
  have hne {n : UInt8} (hn : ¬ b = n) : b.toNat ≠ n.toNat := fun h => hn (UInt8.toNat_inj.1 h)
  exact ⟨h, fun hb => (hne hE0 hb).elim, fun hb => (hne hED hb).elim,
    fun hb => (hne hF0 hb).elim, fun hb => (hne hF4 hb).elim⟩

theorem encoded_one {b : UInt8} (hb : b.toNat < 128) :
    String.utf8EncodeChar (Char.ofNat b.toNat) = [b] := by
  have hn := toNat_ofNat (n := b.toNat) (by omega)
  rw [encoded_of_lt (by omega), byte_eq hn.symm]

theorem encoded_two {b c : UInt8} (hl : 194 ≤ b.toNat) (hu : b.toNat < 224)
    (hc : isTail c = true) :
    String.utf8EncodeChar (Char.ofNat (b.toNat % 32 * 64 + tailBits c)) = [b, c] := by
  have hc := isTail_eq_true_iff.1 hc
  rw [tailBits]
  have hn := toNat_ofNat (n := b.toNat % 32 * 64 + c.toNat % 64) (by omega)
  rw [encoded_eq, hn, if_neg (by omega), if_pos (by omega), byte_eq (b := b) (by omega),
    byte_eq (b := c) (by omega)]

theorem encoded_three {b c d : UInt8} (hl : 224 ≤ b.toNat) (hu : b.toNat < 240)
    (hc : isSecond b c = true) (hd : isTail d = true) :
    String.utf8EncodeChar
      (Char.ofNat (b.toNat % 16 * 4096 + tailBits c * 64 + tailBits d)) = [b, c, d] := by
  obtain ⟨hc, hE0, hED, -, -⟩ := of_isSecond hc
  have hd := isTail_eq_true_iff.1 hd
  rw [tailBits, tailBits]
  have hn := toNat_ofNat (n := b.toNat % 16 * 4096 + c.toNat % 64 * 64 + d.toNat % 64) (by omega)
  rw [encoded_eq, hn, if_neg (by omega), if_neg (by omega), if_pos (by omega),
    byte_eq (b := b) (by omega), byte_eq (b := c) (by omega), byte_eq (b := d) (by omega)]

theorem encoded_four {b c d e : UInt8} (hl : 240 ≤ b.toNat) (hu : b.toNat < 245)
    (hc : isSecond b c = true) (hd : isTail d = true) (he : isTail e = true) :
    String.utf8EncodeChar (Char.ofNat
      (b.toNat % 8 * 262144 + tailBits c * 4096 + tailBits d * 64 + tailBits e)) = [b, c, d, e] := by
  obtain ⟨hc, -, -, hF0, hF4⟩ := of_isSecond hc
  have hd := isTail_eq_true_iff.1 hd
  have he := isTail_eq_true_iff.1 he
  rw [tailBits, tailBits, tailBits]
  have hn := toNat_ofNat
    (n := b.toNat % 8 * 262144 + c.toNat % 64 * 4096 + d.toNat % 64 * 64 + e.toNat % 64) (by omega)
  rw [encoded_eq, hn, if_neg (by omega), if_neg (by omega), if_neg (by omega),
    byte_eq (b := b) (by omega), byte_eq (b := c) (by omega), byte_eq (b := d) (by omega),
    byte_eq (b := e) (by omega)]

/-- **Every sequence is that of a character.** -/
theorem encoded_of_front {b : UInt8} {rest r : Bytes} {c : Char}
    (h : front b rest = (some c, r)) : b :: rest = String.utf8EncodeChar c ++ r := by
  unfold front at h
  simp only [UInt8.lt_iff_toNat_lt, show (0x80 : UInt8).toNat = 128 from rfl,
    show (0xC2 : UInt8).toNat = 194 from rfl, show (0xE0 : UInt8).toNat = 224 from rfl,
    show (0xF0 : UInt8).toNat = 240 from rfl, show (0xF5 : UInt8).toNat = 245 from rfl] at h
  -- by the number of bytes that the first one asks for
  split at h
  · rename_i hone
    obtain ⟨hc, rfl⟩ := Prod.mk.inj h
    rw [← Option.some.inj hc, encoded_one hone]
    rfl
  split at h
  · cases h
  split at h
  · rcases rest with _ | ⟨d, rest⟩
    · cases h
    dsimp only at h
    split at h
    · rename_i hd
      obtain ⟨hc, rfl⟩ := Prod.mk.inj h
      rw [← Option.some.inj hc, encoded_two (by omega) (by omega) hd]
      rfl
    · cases h
  split at h
  · rcases rest with _ | ⟨d, _ | ⟨e, rest⟩⟩
    · cases h
    · cases h
    simp only [Bool.not_eq_true'] at h
    split at h
    · cases h
    rename_i hd
    split at h
    · cases h
    rename_i he
    obtain ⟨hc, rfl⟩ := Prod.mk.inj h
    rw [← Option.some.inj hc, encoded_three (by omega) (by omega) (by simpa using hd)
      (by simpa using he)]
    rfl
  split at h
  · rcases rest with _ | ⟨d, _ | ⟨e, _ | ⟨f, rest⟩⟩⟩
    · cases h
    · cases h
    · cases h
    simp only [Bool.not_eq_true'] at h
    split at h
    · cases h
    rename_i hd
    split at h
    · cases h
    rename_i he
    split at h
    · cases h
    rename_i hf
    obtain ⟨hc, rfl⟩ := Prod.mk.inj h
    rw [← Option.some.inj hc, encoded_four (by omega) (by omega) (by simpa using hd)
      (by simpa using he) (by simpa using hf)]
    rfl
  · cases h

/-! ### Texts -/

/-- The bytes of characters, one after the other. -/
def bytes (cs : List Char) : Bytes := cs.flatMap String.utf8EncodeChar

@[simp] theorem bytes_nil : bytes [] = [] := rfl

@[simp] theorem bytes_append (cs ds : List Char) : bytes (cs ++ ds) = bytes cs ++ bytes ds :=
  List.flatMap_append

theorem bytes_cons (c : Char) (cs : List Char) :
    bytes (c :: cs) = String.utf8EncodeChar c ++ bytes cs := List.flatMap_cons

theorem encode_eq_bytes (s : String) : encode s = bytes s.toList := rfl

theorem decodeChars?_of_front {b : UInt8} {rest r : Bytes} {c : Char}
    (h : front b rest = (some c, r)) :
    decodeChars? (b :: rest) = (decodeChars? r).map (c :: ·) := by
  rw [decodeChars?]
  split
  · rename_i c' r' heq
    obtain ⟨rfl, rfl⟩ : c = c' ∧ r = r' := by simpa [h] using heq
    rfl
  · rename_i heq
    simp [h] at heq

theorem decodeChars?_of_front_none {b : UInt8} {rest : Bytes} (h : (front b rest).1 = none) :
    decodeChars? (b :: rest) = none := by
  rw [decodeChars?]
  split
  · rename_i heq
    simp [heq] at h
  · rfl

theorem decodeChars?_append (c : Char) (bs : Bytes) :
    decodeChars? (String.utf8EncodeChar c ++ bs) = (decodeChars? bs).map (c :: ·) := by
  obtain ⟨b, tail, he, hfront⟩ := front_encoded c
  rw [he, List.cons_append, decodeChars?_of_front (hfront bs)]

theorem decodeChars?_bytes (cs : List Char) : decodeChars? (bytes cs) = some cs := by
  induction cs with
  | nil => rw [bytes_nil, decodeChars?]
  | cons c cs ih => rw [bytes_cons, decodeChars?_append, ih, Option.map_some]

/-- **A text is read back from its bytes.** -/
theorem decode?_encode (s : String) : decode? (encode s) = some s := by
  rw [decode?, encode_eq_bytes, decodeChars?_bytes, Option.map_some, String.ofList_toList]

theorem eq_bytes_of_decodeChars? {bs : Bytes} {cs : List Char}
    (h : decodeChars? bs = some cs) : bs = bytes cs := by
  induction cs generalizing bs with
  | nil =>
    cases bs with
    | nil => rfl
    | cons b rest =>
      rw [decodeChars?] at h
      split at h
      · simp at h
      · cases h
  | cons c cs ih =>
    cases bs with
    | nil =>
      rw [decodeChars?] at h
      cases h
    | cons b rest =>
      rw [decodeChars?] at h
      split at h
      · rename_i c' r hfront
        obtain ⟨cs', hr, heq⟩ := Option.map_eq_some_iff.1 h
        obtain ⟨rfl, rfl⟩ := List.cons.inj heq
        rw [encoded_of_front hfront, bytes_cons, ih hr]
      · cases h

theorem bytes_eq_nil_iff {cs : List Char} : bytes cs = [] ↔ cs = [] := by
  cases cs with
  | nil => simp
  | cons c cs =>
    obtain ⟨b, tail, hc, -⟩ := encoded_eq_cons c
    simp [bytes_cons, hc]

/-- What starts with the bytes of a character starts with the character. -/
theorem eq_cons_of_bytes {cs : List Char} {c : Char} {more : Bytes}
    (h : bytes cs = String.utf8EncodeChar c ++ more) : ∃ cs', cs = c :: cs' ∧ more = bytes cs' := by
  have hread := decodeChars?_bytes cs
  rw [h, decodeChars?_append] at hread
  obtain ⟨cs', hmore, rfl⟩ := Option.map_eq_some_iff.1 hread
  exact ⟨cs', rfl, eq_bytes_of_decodeChars? hmore⟩

/-- **Exactly the bytes of a text are read as the text.** -/
theorem decode?_eq_some_iff {bs : Bytes} {s : String} : decode? bs = some s ↔ bs = encode s := by
  constructor
  · intro h
    obtain ⟨cs, hcs, rfl⟩ := Option.map_eq_some_iff.1 h
    rw [encode_eq_bytes, String.toList_ofList]
    exact eq_bytes_of_decodeChars? hcs
  · rintro rfl
    exact decode?_encode s

end SignIn.Text.Utf8
