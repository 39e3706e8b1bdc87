import SignIn.Text.Utf8

/-!
# Percent-encoding

A character that a part of a URL does not admit is written as its bytes, each as
`%` and two upper-case hexadecimal digits.  Which characters that are depends on
the part; characters outside ASCII are encoded everywhere.

## Main definitions

* `EncodeSet` and its members — what is encoded in which part.
* `percentEncode`, `percentDecode` — writing, and reading into bytes.
-/

namespace SignIn.Url

open SignIn.Text

/-- The ASCII characters that a part of a URL does not admit. -/
abbrev EncodeSet := Char → Bool

/-- Controls are admitted nowhere. -/
def isControl (c : Char) : Bool := c.toNat < 0x20 || c.toNat == 0x7F

/-- What opaque parts do not admit. -/
def controlSet : EncodeSet := isControl

/-- What a fragment does not admit. -/
def fragmentSet : EncodeSet := fun c =>
  controlSet c || c == ' ' || c == '"' || c == '<' || c == '>' || c.toNat == 0x60

/-- What a path does not admit. -/
def pathSet : EncodeSet := fun c =>
  fragmentSet c || c == '#' || c == '?' || c == '\x7b' || c == '\x7d'

/-- What a user name or password does not admit. -/
def userSet : EncodeSet := fun c =>
  pathSet c || c == '/' || c == ':' || c == ';' || c == '=' || c == '@' || c == '['
    || c == '\\' || c == ']' || c == '^' || c == '|'

/-- What a query does not admit. -/
def querySet : EncodeSet := fun c =>
  controlSet c || c == ' ' || c == '"' || c == '#' || c == '<' || c == '>'

/-- What a query does not admit under a special scheme. -/
def specialQuerySet : EncodeSet := fun c => querySet c || c.toNat == 0x27

/-- The upper-case hexadecimal digit of a number below sixteen. -/
def upperHex (n : Nat) : Char :=
  if n < 10 then Char.ofNat (0x30 + n) else Char.ofNat (0x37 + n)

/-- A byte as `%` and two digits. -/
def encodeByte (b : UInt8) : List Char := ['%', upperHex (b.toNat / 16), upperHex (b.toNat % 16)]

/-- A character, encoded if the set or its size asks for it. -/
def encodeChar (set : EncodeSet) (c : Char) : List Char :=
  if set c || 0x80 ≤ c.toNat then (String.utf8EncodeChar c).flatMap encodeByte else [c]

/-- Characters with those of the set encoded. -/
def percentEncode (set : EncodeSet) (cs : List Char) : List Char := cs.flatMap (encodeChar set)

/-- The value of a hexadecimal digit of either case. -/
def hexDigit? (b : UInt8) : Option Nat :=
  if 0x30 ≤ b ∧ b ≤ 0x39 then some (b.toNat - 0x30)
  else if 0x41 ≤ b ∧ b ≤ 0x46 then some (b.toNat - 0x37)
  else if 0x61 ≤ b ∧ b ≤ 0x66 then some (b.toNat - 0x57)
  else none

/-- The bytes that percent-encoded bytes stand for; a `%` without two digits after
it stands for itself. -/
def percentDecode : Bytes → Bytes
  | [] => []
  | 0x25 :: a :: b :: rest =>
    match hexDigit? a, hexDigit? b with
    | some x, some y => UInt8.ofNat (16 * x + y) :: percentDecode rest
    | _, _ => 0x25 :: percentDecode (a :: b :: rest)
  | b :: rest => b :: percentDecode rest

end SignIn.Url
