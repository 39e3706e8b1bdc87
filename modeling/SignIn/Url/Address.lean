import SignIn.Text.Blank
import SignIn.Url.Basic

/-!
# Addresses

A host that ends in a number has to be an IPv4 address, in any of the forms that
count as one: up to four numbers, decimal, octal or hexadecimal, of which the last
fills the remaining bytes.  A host in brackets has to be an IPv6 address.

## Main definitions

* `endsInNumber`, `parseIpv4` — IPv4.
* `parseIpv6` — IPv6.
-/

namespace SignIn.Url

open SignIn.Text

/-- The value of a digit in a base up to sixteen. -/
def digitIn? (base : Nat) (c : Char) : Option Nat :=
  let n := c.toNat
  let v := if 0x30 ≤ n ∧ n ≤ 0x39 then some (n - 0x30)
    else if 0x41 ≤ n ∧ n ≤ 0x46 then some (n - 0x37)
    else if 0x61 ≤ n ∧ n ≤ 0x66 then some (n - 0x57)
    else none
  v.filter (· < base)

/-- The number that digits give in a base; `none` if one of them is no digit. -/
def numberIn? (base : Nat) (cs : List Char) : Option Nat :=
  cs.foldlM (fun n c => (digitIn? base c).map (n * base + ·)) 0

/-! ### IPv4 -/

/-- A number of an IPv4 address: hexadecimal after `0x`, octal after `0`, else
decimal. -/
def ipv4Number? (cs : List Char) : Option Nat :=
  match cs with
  | [] => none
  | '0' :: 'x' :: rest => numberIn? 16 rest
  | '0' :: 'X' :: rest => numberIn? 16 rest
  | '0' :: c :: rest => numberIn? 8 (c :: rest)
  | cs => numberIn? 10 cs

/-- The parts between points, without an empty last one. -/
def dottedParts (cs : List Char) : List (List Char) :=
  let parts := splitOn '.' cs
  if parts.getLast? = some [] then parts.dropLast else parts

/-- Whether the last part is a number, so that the host has to be an address. -/
def endsInNumber (cs : List Char) : Bool :=
  match (dottedParts cs).getLast? with
  | none => false
  | some last => (!last.isEmpty && last.all Char.isDigit) || (ipv4Number? last).isSome

/-- The address that numbers give; the last one fills the remaining bytes. -/
def ipv4Of? (numbers : List Nat) : Option Nat :=
  match numbers.reverse with
  | [] => none
  | last :: before =>
    let k := before.length
    if 3 < k ∨ Nat.pow 256 (4 - k) ≤ last ∨ before.any (255 < ·) then none
    else
      some (before.reverse.zipIdx.foldl (fun sum (n, i) => sum + n * Nat.pow 256 (3 - i)) last)

/-- The address that a dotted text gives. -/
def parseIpv4 (cs : List Char) : Except Fault Nat :=
  match (dottedParts cs).mapM ipv4Number? >>= ipv4Of? with
  | some n => .ok n
  | none => .error .invalidIpv4

/-! ### IPv6 -/

/-- Up to so many hexadecimal digits at the front: their value, how many they are
and what follows. -/
def hexPrefix : Nat → List Char → Nat → Nat → Nat × Nat × List Char
  | 0, cs, v, n => (v, n, cs)
  | _ + 1, [], v, n => (v, n, [])
  | k + 1, c :: cs, v, n =>
    match digitIn? 16 c with
    | some d => hexPrefix k cs (v * 16 + d) (n + 1)
    | none => (v, n, c :: cs)

/-- A decimal number up to 255 without leading zeros. -/
def decimalByte? (cs : List Char) : Option Nat :=
  match cs with
  | [] => none
  | ['0'] => some 0
  | '0' :: _ => none
  | cs => (numberIn? 10 cs).filter (· ≤ 255)

/-- Two pieces from the four bytes of an IPv4 address. -/
def embeddedIpv4? (cs : List Char) : Option (List Nat) :=
  match (splitOn '.' cs).map decimalByte? with
  | [some a, some b, some c, some d] => some [a * 256 + b, c * 256 + d]
  | _ => none

/-- The pieces of an address: those read so far, with the place of the two colons
once they have been seen.  The fuel bounds the number of characters. -/
def ipv6Pieces? : Nat → List Nat → Option Nat → List Char → Option (List Nat × Option Nat)
  | 0, _, _, _ => none
  | _ + 1, done, gap, [] => some (done, gap)
  | fuel + 1, done, gap, c :: cs =>
    -- two colons stand for a run of zeros and count as a piece while reading
    let used := done.length + (if gap.isSome then 1 else 0)
    if used = 8 then none
    else if c = ':' then
      if gap.isSome then none else ipv6Pieces? fuel done (some done.length) cs
    else
      match hexPrefix 4 (c :: cs) 0 0 with
      | (v, _, []) => some (done ++ [v], gap)
      | (v, n, d :: rest) =>
        if d = '.' then
          if n = 0 ∨ 6 < used then none
          else (embeddedIpv4? (c :: cs)).map fun ps => (done ++ ps, gap)
        else if d = ':' then
          if rest.isEmpty then none else ipv6Pieces? fuel (done ++ [v]) gap rest
        else none

/-- The eight pieces, with zeros in the place of the two colons. -/
def fillGap? (pieces : List Nat) (gap : Option Nat) : Option (List Nat) :=
  match gap with
  | none => if pieces.length = 8 then some pieces else none
  | some i => some (pieces.take i ++ List.replicate (8 - pieces.length) 0 ++ pieces.drop i)

/-- The pieces of an address between brackets. -/
def parseIpv6 (cs : List Char) : Except Fault (List Nat) :=
  let read := match cs with
    | ':' :: ':' :: rest => ipv6Pieces? (cs.length + 1) [] (some 0) rest
    | ':' :: _ => none
    | [_] => none
    | [] => none
    | cs => ipv6Pieces? (cs.length + 1) [] none cs
  match read.bind fun (ps, gap) => fillGap? ps gap with
  | some ps => .ok ps
  | none => .error .invalidIpv6

end SignIn.Url
