/-!
# Text as bytes

Characters are written as one to four bytes.  Reading goes sequence by sequence:
`front` takes the first well-formed sequence off a list of bytes, or the longest
part of it that could have started one.  A strict reader refuses such a part, a
lenient one shows it as one replacement character.

## Main definitions

* `encode` — the bytes of a text.
* `front` — the first sequence of a list of bytes.
* `decode?` — strict reading: `none` unless every sequence is well formed.
* `illFormed` — where strict reading stops.
* `decodeLossy` — lenient reading.
-/

namespace SignIn

/-- Raw bytes, as they travel and as files hold them. -/
abbrev Bytes := List UInt8

namespace Text.Utf8

/-- The bytes of a text. -/
def encode (s : String) : Bytes :=
  s.toList.flatMap String.utf8EncodeChar

@[simp] theorem encode_ofList (cs : List Char) :
    encode (String.ofList cs) = cs.flatMap String.utf8EncodeChar := by
  simp [encode]

/-- Whether a byte carries six further bits of a sequence. -/
def isTail (b : UInt8) : Bool := 0x80 ≤ b && b < 0xC0

/-- The six bits of a tail byte. -/
def tailBits (b : UInt8) : Nat := b.toNat % 64

/-- The range of second bytes that may follow the first byte of a sequence of
three or four: it excludes overlong forms, surrogates and values past the last
character. -/
def secondRange (b : UInt8) : UInt8 × UInt8 :=
  if b = 0xE0 then (0xA0, 0xBF)
  else if b = 0xED then (0x80, 0x9F)
  else if b = 0xF0 then (0x90, 0xBF)
  else if b = 0xF4 then (0x80, 0x8F)
  else (0x80, 0xBF)

/-- Whether `c` may be the second byte after `b`. -/
def isSecond (b c : UInt8) : Bool := (secondRange b).1 ≤ c && c ≤ (secondRange b).2

/-- The sequence that starts with the byte `b`: its character and the bytes after
it, or no character and the bytes after the longest part that could have started
one (at least `b` itself). -/
def front (b : UInt8) (rest : Bytes) : Option Char × Bytes :=
  if b < 0x80 then (some (Char.ofNat b.toNat), rest)
  else if b < 0xC2 then (none, rest)
  else if b < 0xE0 then
    match rest with
    | c :: r =>
      if isTail c then (some (Char.ofNat ((b.toNat % 32) * 64 + tailBits c)), r) else (none, rest)
    | [] => (none, [])
  else if b < 0xF0 then
    match rest with
    | c :: d :: r =>
      if !isSecond b c then (none, rest)
      else if !isTail d then (none, d :: r)
      else (some (Char.ofNat ((b.toNat % 16) * 4096 + tailBits c * 64 + tailBits d)), r)
    | [c] => (none, if isSecond b c then [] else rest)
    | [] => (none, [])
  else if b < 0xF5 then
    match rest with
    | c :: d :: e :: r =>
      if !isSecond b c then (none, rest)
      else if !isTail d then (none, d :: e :: r)
      else if !isTail e then (none, e :: r)
      else
        (some (Char.ofNat
          ((b.toNat % 8) * 262144 + tailBits c * 4096 + tailBits d * 64 + tailBits e)), r)
    | [c, d] =>
      (none, if !isSecond b c then rest else if isTail d then [] else [d])
    | [c] => (none, if isSecond b c then [] else rest)
    | [] => (none, [])
  else (none, rest)

/-- Reading a sequence never gives bytes back. -/
theorem length_front_le (b : UInt8) (rest : Bytes) : (front b rest).2.length ≤ rest.length := by
  unfold front
  repeat' split
  all_goals simp
  all_goals omega

/-- Strict reading: the characters of a list of bytes, if every sequence is well
formed. -/
def decodeChars? : Bytes → Option (List Char)
  | [] => some []
  | b :: rest =>
    match h : front b rest with
    | (some c, r) =>
      have : r.length ≤ rest.length := by simpa [h] using length_front_le b rest
      (decodeChars? r).map (c :: ·)
    | (none, _) => none
termination_by bs => bs.length

/-- Strict reading of a text. -/
def decode? (bs : Bytes) : Option String := (decodeChars? bs).map String.ofList

/-- What is left from the first sequence on that is not well formed. -/
def illFormed : Bytes → Bytes
  | [] => []
  | b :: rest =>
    match h : front b rest with
    | (some _, r) =>
      have : r.length ≤ rest.length := by simpa [h] using length_front_le b rest
      illFormed r
    | (none, _) => b :: rest
termination_by bs => bs.length

/-- Lenient reading: each part that is not well formed becomes U+FFFD. -/
def decodeLossyChars : Bytes → List Char
  | [] => []
  | b :: rest =>
    have : (front b rest).2.length ≤ rest.length := length_front_le b rest
    (front b rest).1.getD '\uFFFD' :: decodeLossyChars (front b rest).2
termination_by bs => bs.length

/-- Lenient reading of a text. -/
def decodeLossy (bs : Bytes) : String := String.ofList (decodeLossyChars bs)

end Text.Utf8

end SignIn
