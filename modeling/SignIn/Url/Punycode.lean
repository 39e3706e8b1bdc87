/-!
# Punycode

A label with characters outside ASCII is written in ASCII: first its ASCII
characters, then, after a hyphen, the others in ascending order of code point, each
as the distance from the one before.  A distance is written in digits of base 36
whose weights adapt to the size of the distances so far.

## Main definitions

* `encode` — the ASCII form of a label.
* `decode?` — the label of an ASCII form.
-/

namespace SignIn.Url.Punycode

/-- The character of a digit below 36. -/
def digit (d : Nat) : Char := if d < 26 then Char.ofNat (0x61 + d) else Char.ofNat (0x16 + d)

/-- The digit of a character. -/
def value? (c : Char) : Option Nat :=
  let n := c.toNat
  if 0x61 ≤ n ∧ n ≤ 0x7A then some (n - 0x61)
  else if 0x41 ≤ n ∧ n ≤ 0x5A then some (n - 0x41)
  else if 0x30 ≤ n ∧ n ≤ 0x39 then some (n - 0x30 + 26)
  else none

/-- The digit from which on another digit follows, at the place `k`. -/
def threshold (k bias : Nat) : Nat :=
  if k ≤ bias then 1 else if bias + 26 ≤ k then 26 else k - bias

/-- Scales a distance down and counts the scaling. -/
def scaleDown (delta k : Nat) : Nat × Nat :=
  if 455 < delta then scaleDown (delta / 35) (k + 36) else (delta, k)
termination_by delta
decreasing_by omega

/-- The bias after a distance, for so many characters. -/
def adapt (delta count : Nat) (first : Bool) : Nat :=
  let delta := if first then delta / 700 else delta / 2
  let (delta, k) := scaleDown (delta + delta / count) 0
  k + 36 * delta / (delta + 38)

/-! ### Writing -/

/-- A distance in digits.  The fuel bounds their number. -/
def distanceDigits (bias : Nat) : Nat → Nat → Nat → List Char
  | 0, _, _ => []
  | fuel + 1, k, q =>
    let t := threshold k bias
    if q < t then [digit q]
    else digit (t + (q - t) % (36 - t)) :: distanceDigits bias fuel (k + 36) ((q - t) / (36 - t))

/-- The state of writing: what is written, the distance since the last character,
the bias and how many characters are written. -/
structure State where
  /-- What is written, in order. -/
  out : List Char
  /-- The distance so far. -/
  delta : Nat
  /-- The bias. -/
  bias : Nat
  /-- How many characters are written. -/
  count : Nat

/-- Passes one character of the label while writing the code point `m`. -/
def State.pass (basic m : Nat) (s : State) (c : Char) : State :=
  if c.toNat < m then { s with delta := s.delta + 1 }
  else if c.toNat = m then
    { out := s.out ++ distanceDigits s.bias 64 36 s.delta
      delta := 0
      bias := adapt s.delta (s.count + 1) (s.count == basic)
      count := s.count + 1 }
  else s

/-- Writes the code points given, which ascend, from the code point `n` on. -/
def writeAll (label : List Char) (basic : Nat) : List Nat → Nat → State → State
  | [], _, s => s
  | m :: ms, n, s =>
    let s := { s with delta := s.delta + (m - n) * (s.count + 1) }
    let s := label.foldl (State.pass basic m) s
    writeAll label basic ms (m + 1) { s with delta := s.delta + 1 }

/-- The code points outside ASCII, ascending, each once. -/
def extended (label : List Char) : List Nat :=
  (((label.map Char.toNat).filter (0x80 ≤ ·)).mergeSort (· ≤ ·)).eraseReps

/-- The ASCII form of a label, without any mark in front. -/
def encode (label : List Char) : List Char :=
  let basic := label.filter (·.toNat < 0x80)
  let s := writeAll label basic.length (extended label) 0x80 ⟨[], 0, 72, basic.length⟩
  basic ++ (if basic.isEmpty then [] else ['-']) ++ s.out

/-! ### Reading -/

/-- Reads one distance: the distance and what follows. -/
def readDistance (bias : Nat) : List Char → Nat → Nat → Nat → Option (Nat × List Char)
  | [], _, _, _ => none
  | c :: cs, k, weight, sum => do
    let d ← value? c
    let t := threshold k bias
    let sum := sum + d * weight
    if sum ≥ UInt32.size then none
    else if d < t then return (sum, cs)
    else readDistance bias cs (k + 36) (weight * (36 - t)) sum

/-- Puts a character before the one number `i`. -/
def insertAt (c : Char) : Nat → List Char → List Char
  | 0, cs => c :: cs
  | _ + 1, [] => [c]
  | i + 1, d :: cs => d :: insertAt c i cs

/-- Reads all distances.  The fuel bounds their number. -/
def readAll : Nat → List Char → Nat → Nat → Nat → List Char → Option (List Char)
  | _, [], _, _, _, done => some done
  | 0, _ :: _, _, _, _, _ => none
  | fuel + 1, c :: cs, n, i, bias, done => do
    let (delta, rest) ← readDistance bias (c :: cs) 36 1 0
    let size := done.length + 1
    let n := n + (i + delta) / size
    let place := (i + delta) % size
    if !n.isValidChar then none
    else
      readAll fuel rest n (place + 1) (adapt delta size (i == 0))
        (insertAt (Char.ofNat n) place done)

/-- The part before the last hyphen, and the part after it. -/
def splitLast (cs : List Char) : List Char × List Char :=
  match cs.reverse.span (· != '-') with
  | (tail, _ :: front) => (front.reverse, tail.reverse)
  | (tail, []) => ([], tail.reverse)

/-- The label of an ASCII form. -/
def decode? (cs : List Char) : Option (List Char) :=
  let (basic, tail) := splitLast cs
  if basic.any (0x80 ≤ ·.toNat) then none else readAll (tail.length + 1) tail 0x80 0 72 basic

end SignIn.Url.Punycode
