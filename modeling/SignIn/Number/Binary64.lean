/-!
# Double-precision numbers

A number written with a fraction or an exponent is kept as a 64-bit
floating-point number.  It is made from a whole significand and a power of ten in
one rounding step per power: the significand is rounded to a double and multiplied
by, or divided by, the double nearest to the power of ten.

## Main definitions

* `Binary64` — a number, given by its bits, so that equality is decidable.
* `Binary64.ofDecimal?` — significand times a power of ten; `none` when too large.
* `Binary64.parts` — the sign, and the whole `m` and exponent `q` with value `m · 2^q`.
-/

namespace SignIn.Number

/-- A double-precision number, given by its bits. -/
structure Binary64 where
  /-- Sign, exponent and fraction, from the highest bit down. -/
  bits : UInt64
  deriving DecidableEq, Repr, Inhabited

namespace Binary64

/-- The number with the bits of a hardware double. -/
def ofFloat (x : Float) : Binary64 := ⟨x.toBits⟩

/-- The hardware double with the same bits. -/
def toFloat (x : Binary64) : Float := Float.ofBits x.bits

/-- The sign bit. -/
def isNegative (x : Binary64) : Bool := x.bits >>> 63 == 1

/-- The same magnitude with the sign given. -/
def withSign (negative : Bool) (x : Binary64) : Binary64 :=
  let magnitude := x.bits &&& 0x7FFFFFFFFFFFFFFF
  ⟨if negative then magnitude ||| 0x8000000000000000 else magnitude⟩

/-- The greatest power of ten that is a double. -/
def maxPower : Nat := 308

/-- The double nearest to a power of ten, up to `maxPower`. -/
def powerOfTen (k : Nat) : Float := Float.ofScientific 1 false k

/-- Divides by `10^k`, in steps of the greatest power of ten. -/
def divideByPower (x : Float) (k : Nat) : Float :=
  if k ≤ maxPower then x / powerOfTen k
  else if x == 0 then x
  else divideByPower (x / powerOfTen maxPower) (k - maxPower)
termination_by k
decreasing_by simp [maxPower] at *; omega

/-- The significand times `10^exponent`; `none` when the result is too large.
Zero stays zero however large the exponent. -/
def ofDecimal? (negative : Bool) (significand : UInt64) (exponent : Int) : Option Binary64 :=
  let x := significand.toFloat
  match exponent with
  | .ofNat k =>
    if k ≤ maxPower then
      let y := x * powerOfTen k
      if y.isInf then none else some ((ofFloat y).withSign negative)
    else if significand = 0 then some ((ofFloat x).withSign negative)
    else none
  | .negSucc k => some ((ofFloat (divideByPower x (k + 1))).withSign negative)

/-- The whole number `m` and the exponent `q` with magnitude `m · 2^q`. -/
def parts (x : Binary64) : Nat × Int :=
  let exponent := ((x.bits >>> 52) &&& 0x7FF).toNat
  let fraction := (x.bits &&& 0xFFFFFFFFFFFFF).toNat
  if exponent = 0 then (fraction, -1074) else (fraction + 0x10000000000000, (exponent : Int) - 1075)

end Binary64

end SignIn.Number
