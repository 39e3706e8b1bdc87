import SignIn.Number.Binary64

/-!
# The shortest decimal text of a number

A double is written with the fewest decimal digits that read back as it, and of
those with the digits nearest to it.  For one digit, two digits and so on, the two
multiples of a power of ten next to the number are tested in exact whole-number
arithmetic; seventeen digits always suffice.

## Main definitions

* `Grid` — comparing decimals with the interval of numbers that round to a double.
* `shortest` — the digits and the power of ten of their last place.
* `Binary64.text` — positional text for moderate exponents, otherwise one digit
  before the point and an exponent.
-/

namespace SignIn.Number

/-- The interval that rounds to a double of whole part `m` and exponent `q`, on a
decimal grid of step `10^k`.  Both are scaled to whole numbers: `value`, `low` and
`high` count units in which one step of the grid has the size `step`. -/
structure Grid where
  /-- The double itself. -/
  value : Nat
  /-- The lower end of the interval. -/
  low : Nat
  /-- The upper end of the interval. -/
  high : Nat
  /-- The distance of two grid points. -/
  step : Nat
  /-- Whether the ends round to the double too. -/
  closed : Bool

namespace Grid

/-- The grid of step `10^k` about `m · 2^q`.  Below the least number of a binade
the neighbours are half as far away. -/
def around (m : Nat) (q k : Int) : Grid :=
  -- a quarter of the distance of neighbours is the unit
  let u := q - 2
  let unit := Nat.pow 2 u.toNat * Nat.pow 10 (-k).toNat
  let below := if m = 0x10000000000000 ∧ q ≠ -1074 then 1 else 2
  { value := 4 * m * unit
    low := (4 * m - below) * unit
    high := (4 * m + 2) * unit
    step := Nat.pow 2 (-u).toNat * Nat.pow 10 k.toNat
    closed := m % 2 == 0 }

/-- Whether the grid point number `d` rounds to the double. -/
def holds (g : Grid) (d : Nat) : Bool :=
  let x := d * g.step
  if g.closed then g.low ≤ x && x ≤ g.high else g.low < x && x < g.high

/-- The nearest grid point that rounds to the double, if one does; of two equally
near ones the even one. -/
def nearest? (g : Grid) : Option Nat :=
  let d := g.value / g.step
  match g.holds d, g.holds (d + 1) with
  | false, false => none
  | true, false => some d
  | false, true => some (d + 1)
  | true, true =>
    let before := g.value - d * g.step
    let after := (d + 1) * g.step - g.value
    some (if before < after then d else if after < before then d + 1
      else if d % 2 == 0 then d else d + 1)

end Grid

/-- The least `n` with `value < 10^n`, for a ratio `num / den`, counted from
`start` by at most `fuel` steps. -/
def magnitude (num den : Nat) : Nat → Int → Int
  | 0, start => start
  | fuel + 1, start =>
    if num * Nat.pow 10 (-start).toNat < den * Nat.pow 10 start.toNat then start
    else magnitude num den fuel (start + 1)

/-- Digits (as a number) and the power of ten of the last one, the fewest that
read back as `m · 2^q`; `m` is positive. -/
def shortest (m : Nat) (q : Int) : Nat × Int :=
  let top := magnitude (m * Nat.pow 2 q.toNat) (Nat.pow 2 (-q).toNat) 700 (-330)
  let tries := (List.range 17).findSome? fun n =>
    let k := top - (n + 1 : Nat)
    (Grid.around m q k).nearest?.map (·, k)
  tries.getD (0, 0)

/-- A number without its trailing zeros, and how many there were; `fuel` bounds
their count. -/
def stripZeros : Nat → Nat → Nat × Nat
  | 0, d => (d, 0)
  | fuel + 1, d =>
    if d ≠ 0 ∧ d % 10 = 0 then
      let (d', n) := stripZeros fuel (d / 10)
      (d', n + 1)
    else (d, 0)

/-- The least decimal exponent written positionally. -/
def positionalBottom : Int := -4

/-- The first decimal exponent that is too great to be written positionally. -/
def positionalTop : Int := 16

/-- The text of the digits `digits` whose last place is `10^k`: positional with a
point and at least one digit after it for moderate exponents, otherwise scientific
with a sign and at least two digits of exponent. -/
def decimalText (digits : List Char) (k : Int) : String :=
  let n : Int := digits.length
  -- the decimal exponent of the first digit
  let e := n + k - 1
  if e < positionalBottom ∨ positionalTop ≤ e then
    let mantissa := match digits with
      | [] => []
      | [d] => [d]
      | d :: ds => d :: '.' :: ds
    let size := toString e.natAbs
    let size := if size.length < 2 then "0" ++ size else size
    String.ofList mantissa ++ "e" ++ (if e < 0 then "-" else "+") ++ size
  else if 0 ≤ k then
    String.ofList (digits ++ List.replicate k.toNat '0') ++ ".0"
  else if 0 ≤ e then
    let whole := (e + 1).toNat
    String.ofList (digits.take whole) ++ "." ++ String.ofList (digits.drop whole)
  else
    "0." ++ String.ofList (List.replicate (-e - 1).toNat '0' ++ digits)

/-- The shortest text that reads back as the number. -/
def Binary64.text (x : Binary64) : String :=
  let sign := if x.isNegative then "-" else ""
  let (m, q) := x.parts
  if m = 0 then sign ++ "0.0"
  else
    let (d, k) := shortest m q
    let (d, zeros) := stripZeros 20 d
    sign ++ decimalText (Nat.toDigits 10 d) (k + zeros)

end SignIn.Number
