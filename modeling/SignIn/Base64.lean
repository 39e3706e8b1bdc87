import SignIn.Text.Utf8

/-!
# Base64

Three bytes are written as four characters of the standard alphabet; a last group
of one or two bytes is filled up with `=`.  Reading accepts exactly what writing
produces: no missing padding, no bits that writing would leave zero.

## Main definitions

* `encode`, `decode?` — writing and reading.
-/

namespace SignIn.Base64

/-- The character for six bits. -/
def digit (n : Nat) : Char :=
  if n < 26 then Char.ofNat (65 + n)
  else if n < 52 then Char.ofNat (71 + n)
  else if n < 62 then Char.ofNat (n - 4)
  else if n = 62 then '+'
  else '/'

/-- The six bits that a character stands for. -/
def value? (c : Char) : Option Nat :=
  let n := c.toNat
  if 65 ≤ n ∧ n ≤ 90 then some (n - 65)
  else if 97 ≤ n ∧ n ≤ 122 then some (n - 71)
  else if 48 ≤ n ∧ n ≤ 57 then some (n + 4)
  else if c = '+' then some 62
  else if c = '/' then some 63
  else none

/-- The characters for a list of bytes. -/
def encodeChars : Bytes → List Char
  | [] => []
  | [a] =>
    let n := a.toNat * 16
    [digit (n / 64), digit (n % 64), '=', '=']
  | [a, b] =>
    let n := (a.toNat * 256 + b.toNat) * 4
    [digit (n / 4096), digit (n / 64 % 64), digit (n % 64), '=']
  | a :: b :: c :: rest =>
    let n := (a.toNat * 256 + b.toNat) * 256 + c.toNat
    digit (n / 262144) :: digit (n / 4096 % 64) :: digit (n / 64 % 64) :: digit (n % 64) ::
      encodeChars rest

/-- The text for a list of bytes. -/
def encode (bs : Bytes) : String := String.ofList (encodeChars bs)

/-- The bytes of a group of two characters before padding. -/
def single? (a b : Char) : Option Bytes := do
  let n := (← value? a) * 64 + (← value? b)
  if n % 16 = 0 then return [UInt8.ofNat (n / 16)] else none

/-- The bytes of a group of three characters before padding. -/
def pair? (a b c : Char) : Option Bytes := do
  let n := ((← value? a) * 64 + (← value? b)) * 64 + (← value? c)
  if n % 4 = 0 then return [UInt8.ofNat (n / 1024), UInt8.ofNat (n / 4)] else none

/-- The bytes of a full group. -/
def triple? (a b c d : Char) : Option Bytes := do
  let n := (((← value? a) * 64 + (← value? b)) * 64 + (← value? c)) * 64 + (← value? d)
  return [UInt8.ofNat (n / 65536), UInt8.ofNat (n / 256), UInt8.ofNat n]

/-- The bytes that a list of characters stands for. -/
def decodeChars? : List Char → Option Bytes
  | [] => some []
  | [a, b, '=', '='] => single? a b
  | [a, b, c, '='] => pair? a b c
  | a :: b :: c :: d :: rest => do return (← triple? a b c d) ++ (← decodeChars? rest)
  | _ => none

/-- The bytes that a text stands for. -/
def decode? (s : String) : Option Bytes := decodeChars? s.toList

end SignIn.Base64
