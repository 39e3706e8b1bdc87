import SignIn.Json.Fault

/-!
# The pieces of a JSON text

Blanks, words, strings and numbers, read from the front of a list of bytes.  Every
reader stops right after the last byte it needed, because messages count bytes.

## Main definitions

* `skipBlanks`, `word` — blanks and the tails of `null`, `true` and `false`.
* `string` — a string after its opening quote, with its escapes resolved.
* `number` — a number; long ones lose digits in a fixed way.
-/

namespace SignIn.Json

open SignIn.Text SignIn.Number

/-- Whether a byte is a blank of JSON. -/
def isBlankByte (b : UInt8) : Bool := b == 0x20 || b == 0x0A || b == 0x09 || b == 0x0D

/-- What is left after leading blanks. -/
def skipBlanks (bs : Bytes) : Bytes := bs.dropWhile isBlankByte

/-- Whether a byte is a decimal digit. -/
def isDigit (b : UInt8) : Bool := 0x30 ≤ b && b ≤ 0x39

/-- The value of a decimal digit. -/
def digitValue (b : UInt8) : Nat := b.toNat - 0x30

/-- Reads the bytes given, one by one. -/
def word : Bytes → Bytes → Except Fault Bytes
  | [], bs => .ok bs
  | _ :: _, [] => .error (.here .endInValue [])
  | w :: ws, b :: bs => if b = w then word ws bs else .error (.here .expectedWord bs)

/-- What is left of `null` after its first letter. -/
def nullTail : Bytes := [0x75, 0x6C, 0x6C]

/-- What is left of `true` after its first letter. -/
def trueTail : Bytes := [0x72, 0x75, 0x65]

/-- What is left of `false` after its first letter. -/
def falseTail : Bytes := [0x61, 0x6C, 0x73, 0x65]

/-! ### Strings -/

/-- The value of a hexadecimal digit of either case. -/
def hexValue? (b : UInt8) : Option Nat :=
  if isDigit b then some (digitValue b)
  else if 0x61 ≤ b ∧ b ≤ 0x66 then some (b.toNat - 0x57)
  else if 0x41 ≤ b ∧ b ≤ 0x46 then some (b.toNat - 0x37)
  else none

/-- The number that four hexadecimal digits give. -/
def hexUnit? (a b c d : UInt8) : Option Nat := do
  return (((← hexValue? a) * 16 + (← hexValue? b)) * 16 + (← hexValue? c)) * 16 + (← hexValue? d)

/-- The byte that a one-letter escape stands for. -/
def shortEscape? (b : UInt8) : Option UInt8 :=
  if b = 0x22 ∨ b = 0x5C ∨ b = 0x2F then some b
  else if b = 0x62 then some 0x08
  else if b = 0x66 then some 0x0C
  else if b = 0x6E then some 0x0A
  else if b = 0x72 then some 0x0D
  else if b = 0x74 then some 0x09
  else none

/-- Puts bytes before what a string reader found. -/
def prepend (front : Bytes) (r : Reading Bytes) : Reading Bytes :=
  r.map fun (bs, rest) => (front ++ bs, rest)

/-- The bytes of a string after its opening quote.  A character beyond the basic
plane is written as two escapes, the first in D800–DBFF and the second in
DC00–DFFF. -/
def stringBytes : Bytes → Reading Bytes
  | [] => .error (.here .endInString [])
  | 0x22 :: rest => .ok ([], rest)
  | 0x5C :: 0x75 :: a :: b :: c :: d :: rest =>
    match hexUnit? a b c d with
    | none => .error (.here .invalidEscape rest)
    | some n =>
      if 0xDC00 ≤ n ∧ n ≤ 0xDFFF then .error (.here .loneSurrogate rest)
      else if 0xD800 ≤ n ∧ n ≤ 0xDBFF then
        match rest with
        | [] => .error (.here .endInString [])
        | 0x5C :: 0x75 :: e :: f :: g :: h :: rest =>
          match hexUnit? e f g h with
          | none => .error (.here .invalidEscape rest)
          | some m =>
            if 0xDC00 ≤ m ∧ m ≤ 0xDFFF then
              prepend (String.utf8EncodeChar
                (Char.ofNat ((n - 0xD800) * 1024 + (m - 0xDC00) + 0x10000))) (stringBytes rest)
            else .error (.here .loneSurrogate rest)
        | 0x5C :: 0x75 :: _ => .error (.here .endInString [])
        | [0x5C] => .error (.here .endInString [])
        | 0x5C :: _ :: rest => .error (.here .unfinishedSurrogate rest)
        | _ :: rest => .error (.here .unfinishedSurrogate rest)
      else prepend (String.utf8EncodeChar (Char.ofNat n)) (stringBytes rest)
  | 0x5C :: 0x75 :: _ => .error (.here .endInString [])
  | [0x5C] => .error (.here .endInString [])
  | 0x5C :: b :: rest =>
    match shortEscape? b with
    | some e => prepend [e] (stringBytes rest)
    | none => .error (.here .invalidEscape rest)
  | b :: rest =>
    if b < 0x20 then .error (.here .controlCharacter rest)
    else prepend [b] (stringBytes rest)

/-- A string after its opening quote.  Bytes that are no text are found once the
string is complete, and the fault lies at the first of them. -/
def string (bs : Bytes) : Except Fault (String × Bytes) := do
  let (body, rest) ← stringBytes bs
  match Utf8.decode? body with
  | some s => return (s, rest)
  | none => throw (.ahead .invalidCodePoint (Utf8.illFormed bs))

/-! ### Numbers -/

/-- The greatest whole number of 64 bits. -/
def maxWord : Nat := 0xFFFFFFFFFFFFFFFF

/-- The greatest exponent that is read digit by digit. -/
def maxExponent : Nat := 0x7FFFFFFF

/-- Appends digits to a significand as long as it fits 64 bits: the significand,
how many digits it took, and what is left. -/
def gather (significand : Nat) : Bytes → Nat × Nat × Bytes
  | [] => (significand, 0, [])
  | b :: bs =>
    if isDigit b ∧ significand * 10 + digitValue b ≤ maxWord then
      let (s, n, rest) := gather (significand * 10 + digitValue b) bs
      (s, n + 1, rest)
    else (significand, 0, b :: bs)

/-- The double that a significand and an exponent give. -/
def scaled (negative : Bool) (significand : Nat) (exponent : Int) (rest : Bytes) :
    Reading Numeral :=
  match Binary64.ofDecimal? negative (UInt64.ofNat significand) exponent with
  | some x => .ok (.float x, rest)
  | none => .error (.here .numberOutOfRange rest)

/-- The digits of an exponent after the first, and `none` for its value as soon as
it is greater than `maxExponent`; what is left then starts after the digit that
made it so. -/
def exponentDigits (e : Nat) : Bytes → Option Nat × Bytes
  | [] => (some e, [])
  | b :: bs =>
    if isDigit b then
      let e' := e * 10 + digitValue b
      if e' ≤ maxExponent then exponentDigits e' bs else (none, bs)
    else (some e, b :: bs)

/-- The rest of a number after the letter of its exponent. -/
def exponentPart (negative : Bool) (significand : Nat) (shift : Int) (bs : Bytes) :
    Reading Numeral :=
  let (up, bs) := match bs with
    | 0x2B :: r => (true, r)
    | 0x2D :: r => (false, r)
    | r => (true, r)
  match bs with
  | [] => .error (.here .endInValue [])
  | b :: rest =>
    if isDigit b then
      match exponentDigits (digitValue b) rest with
      | (some e, rest) => scaled negative significand (if up then shift + e else shift - e) rest
      | (none, rest) =>
        if significand ≠ 0 ∧ up then .error (.here .numberOutOfRange rest)
        else scaled negative 0 0 (rest.dropWhile isDigit)
    else .error (.here .invalidNumber rest)

/-- The rest of a number that stands after its digits: an exponent or nothing. -/
def exponentOrEnd (negative : Bool) (significand : Nat) (shift : Int) (bs : Bytes) :
    Reading Numeral :=
  match bs with
  | 0x65 :: rest => exponentPart negative significand shift rest
  | 0x45 :: rest => exponentPart negative significand shift rest
  | _ => scaled negative significand shift bs

/-- The rest of a number after its point.  Digits that no longer fit the
significand are dropped. -/
def fractionPart (negative : Bool) (significand : Nat) (shift : Int) (bs : Bytes) :
    Reading Numeral :=
  match bs with
  | [] => .error (.ahead .endInValue [])
  | b :: _ =>
    if isDigit b then
      let (s, n, rest) := gather significand bs
      exponentOrEnd negative s (shift - n) (rest.dropWhile isDigit)
    else .error (.ahead .invalidNumber bs)

/-- A whole number within 64 bits; below that range, and for minus zero, a double. -/
def wholeNumeral (negative : Bool) (significand : Nat) : Numeral :=
  if negative then
    if 1 ≤ significand ∧ significand ≤ 0x8000000000000000 then .integer (-(significand : Int))
    else .float ((Binary64.ofFloat (UInt64.ofNat significand).toFloat).withSign true)
  else .integer significand

/-- What follows the whole part of a number. -/
def afterWhole (negative : Bool) (significand : Nat) (bs : Bytes) : Reading Numeral :=
  match bs with
  | 0x2E :: rest => fractionPart negative significand 0 rest
  | 0x65 :: rest => exponentPart negative significand 0 rest
  | 0x45 :: rest => exponentPart negative significand 0 rest
  | _ => .ok (wholeNumeral negative significand, bs)

/-- What follows a whole part that does not fit 64 bits: its further digits only
raise the exponent. -/
def afterLongWhole (negative : Bool) (significand : Nat) (bs : Bytes) : Reading Numeral :=
  let rest := bs.dropWhile isDigit
  let shift : Int := (bs.takeWhile isDigit).length
  match rest with
  | 0x2E :: rest => fractionPart negative significand shift rest
  | _ => exponentOrEnd negative significand shift rest

/-- A number after its sign. -/
def number (negative : Bool) (bs : Bytes) : Reading Numeral :=
  match bs with
  | [] => .error (.here .endInValue [])
  | b :: rest =>
    if b = 0x30 then
      match rest with
      | d :: _ =>
        if isDigit d then .error (.ahead .invalidNumber rest) else afterWhole negative 0 rest
      | [] => afterWhole negative 0 rest
    else if isDigit b then
      let (s, _, rest) := gather 0 bs
      match rest with
      | d :: _ => if isDigit d then afterLongWhole negative s rest else afterWhole negative s rest
      | [] => afterWhole negative s []
    else .error (.here .invalidNumber rest)

end SignIn.Json
