import SignIn.Text.Blank
import SignIn.Time.Calendar

/-!
# Points in time

A point in time is a date and a time of day in universal time, to the nanosecond.
A minute may have a leap second, which counts as a second half of its last second.

It is written as date, `T`, time and `Z`, with as many digits of the fraction as it
needs in groups of three, and with a sign before years outside four digits.  Reading
is more generous: blanks between the parts, years of any length after a sign, a
blank for the `T`, and any offset from universal time.

## Main definitions

* `Instant` — a point in time.
* `Instant.text` — the written form.
* `Instant.read` — reading; `Unreadable` says why a text is no point in time.
-/

namespace SignIn.Time

open SignIn.Text

/-- A second counts this many nanoseconds. -/
def giga : Nat := 1000000000

/-- What makes a second of the day and nanoseconds a time of day: only the last
second of a minute may be twice as long. -/
abbrev IsTime (second nano : Nat) : Prop :=
  second < 86400 ∧ nano < 2 * giga ∧ (giga ≤ nano → second % 60 = 59)

/-- A point in time, in universal time. -/
structure Instant where
  /-- The date. -/
  date : Date
  /-- The second of the day. -/
  second : Nat
  /-- The nanosecond; a leap second counts on from the second before. -/
  nano : Nat
  /-- The time of day exists. -/
  isTime : IsTime second nano
  deriving DecidableEq, Repr

namespace Instant

/-- The point in time of a date and a time of day. -/
def of? (date : Date) (second nano : Nat) : Option Instant :=
  if h : IsTime second nano then some ⟨date, second, nano, h⟩ else none

/-- The first day of 1970. -/
def epoch : Date := ⟨1970, 1, 1, by decide⟩

/-- The point in time that clocks of machines count as so many seconds, and nanoseconds on
top. -/
def ofUnix? (seconds nano : Nat) : Option Instant := do
  of? (← epoch.after? (seconds / 86400)) (seconds % 86400) nano

/-! ### Writing -/

/-- A number with leading zeros up to a width. -/
def padded (width n : Nat) : List Char :=
  let digits := Nat.toDigits 10 n
  List.replicate (width - digits.length) '0' ++ digits

/-- A year: four digits, or a sign and at least four digits. -/
def yearText (year : Int) : List Char :=
  if 0 ≤ year ∧ year ≤ 9999 then padded 4 year.toNat
  else (if year < 0 then '-' else '+') :: padded 4 year.natAbs

/-- The fraction of a second: nothing, or three, six or nine digits. -/
def fractionText (nano : Nat) : List Char :=
  if nano = 0 then []
  else if nano % 1000000 = 0 then '.' :: padded 3 (nano / 1000000)
  else if nano % 1000 = 0 then '.' :: padded 6 (nano / 1000)
  else '.' :: padded 9 nano

/-- The written form. -/
def chars (t : Instant) : List Char :=
  let leap := giga ≤ t.nano
  yearText t.date.year ++ '-' :: padded 2 t.date.month ++ '-' :: padded 2 t.date.day ++
    'T' :: padded 2 (t.second / 3600) ++ ':' :: padded 2 (t.second / 60 % 60) ++
    ':' :: padded 2 (t.second % 60 + if leap then 1 else 0) ++
    fractionText (if leap then t.nano - giga else t.nano) ++ ['Z']

/-- The written form. -/
def text (t : Instant) : String := String.ofList t.chars

end Instant

/-! ### Reading -/

/-- Why a text is no point in time. -/
inductive Unreadable where
  /-- A part has a value that it cannot have. -/
  | outOfRange
  /-- The range of dates ends before the point in time. -/
  | impossible
  /-- A character that cannot stand where it does. -/
  | invalid
  /-- The text ends too early. -/
  | tooShort
  /-- The text goes on after its end. -/
  | tooLong
  deriving DecidableEq, Repr

/-- The words for it. -/
def Unreadable.message : Unreadable → String
  | .outOfRange => "input is out of range"
  | .impossible => "no possible date and time matching input"
  | .invalid => "input contains invalid characters"
  | .tooShort => "premature end of input"
  | .tooLong => "trailing input"

namespace Instant

/-- The greatest number of digits read without a limit: a word of 63 bits. -/
def maxNumber : Nat := 0x7FFFFFFFFFFFFFFF

/-- Reads digits after the first into a number, at most `width` of them. -/
def digitsFrom (n : Nat) : Nat → List Char → Except Unreadable (Nat × List Char)
  | 0, cs => .ok (n, cs)
  | _ + 1, [] => .ok (n, [])
  | width + 1, c :: cs =>
    if c.isDigit then
      let n := n * 10 + (c.toNat - 0x30)
      if maxNumber < n then .error .outOfRange else digitsFrom n width cs
    else .ok (n, c :: cs)

/-- Reads a number of one to `width` digits. -/
def number (width : Nat) (cs : List Char) : Except Unreadable (Nat × List Char) :=
  match cs with
  | [] => .error .tooShort
  | c :: _ => if c.isDigit then digitsFrom 0 width cs else .error .invalid

/-- Reads a number after blanks, which has to lie in a range. -/
def part (low high : Nat) (cs : List Char) : Except Unreadable (Nat × List Char) := do
  let (n, cs) ← number 2 (cs.dropWhile isBlank)
  if low ≤ n ∧ n ≤ high then return (n, cs) else throw .outOfRange

/-- Reads a separator after blanks. -/
def separator (c : Char) (cs : List Char) : Except Unreadable (List Char) :=
  match cs.dropWhile isBlank with
  | [] => .error .tooShort
  | d :: rest => if d = c then .ok rest else .error .invalid

/-- Reads a year after blanks: up to four digits, or any number after a sign. -/
def year (cs : List Char) : Except Unreadable (Int × List Char) := do
  let cs := cs.dropWhile isBlank
  let (y, cs) ← match cs with
    | '-' :: rest => (number rest.length rest).map fun (n, r) => (-(n : Int), r)
    | '+' :: rest => (number rest.length rest).map fun (n, r) => ((n : Int), r)
    | _ => (number 4 cs).map fun (n, r) => ((n : Int), r)
  if -0x80000000 ≤ y ∧ y < 0x80000000 then return (y, cs) else throw .outOfRange

/-- Reads a fraction of a second, if there is one, in nanoseconds; digits after
the ninth are passed over. -/
def fraction (cs : List Char) : Except Unreadable (Nat × List Char) :=
  match cs with
  | '.' :: rest => do
    let (n, after) ← number 9 rest
    let read := rest.length - after.length
    return (n * Nat.pow 10 (9 - read), after.dropWhile Char.isDigit)
  | _ => .ok (0, cs)

/-- Two digits at the front, where a single ASCII character is too short. -/
def twoDigits (cs : List Char) : Except Unreadable (Nat × Nat × List Char) :=
  match cs with
  | [] => .error .tooShort
  | [c] => if c.toNat < 0x80 then .error .tooShort else .error .invalid
  | c :: d :: rest =>
    if c.isDigit ∧ d.isDigit then .ok (c.toNat - 0x30, d.toNat - 0x30, rest)
    else .error .invalid

/-- Reads the minutes of an offset, which may be missing at the end. -/
def offsetMinutes (cs : List Char) : Except Unreadable (Nat × List Char) :=
  match cs with
  | [] => .ok (0, [])
  | _ => do
    let (a, b, rest) ← twoDigits cs
    if a ≤ 5 then return (a * 10 + b, rest) else throw .outOfRange

/-- Whether the text starts with the name of universal time, in any case. -/
def startsUtc (cs : List Char) : Bool :=
  (cs.take 3).map Char.toUpper == ['U', 'T', 'C']

/-- Reads the offset from universal time, in minutes. -/
def offset (cs : List Char) : Except Unreadable (Int × List Char) :=
  let cs := cs.dropWhile isBlank
  if startsUtc cs then .ok (0, cs.drop 3)
  else
    match cs with
    | [] => .error .tooShort
    | c :: rest =>
      if c = 'Z' ∨ c = 'z' then .ok (0, rest)
      else if c = '+' ∨ c = '-' ∨ c = '\u2212' then do
        let (a, b, rest) ← twoDigits rest
        let (m, rest) ← offsetMinutes (rest.dropWhile fun c => c == ':' || isBlank c)
        let minutes : Int := ((a * 10 + b) * 60 + m : Nat)
        return (if c = '+' then minutes else -minutes, rest)
      else .error .invalid

/-- The point in time at which a clock set off by `minutes` shows the date and time
given. -/
def ofLocal (date : Date) (second nano : Nat) (minutes : Int) : Except Unreadable Instant :=
  if minutes ≤ -1440 ∨ 1440 ≤ minutes then .error .outOfRange
  else
    let shifted : Int := second - 60 * minutes
    let date := if shifted < 0 then date.previous?
      else if 86400 ≤ shifted then date.next?
      else some date
    match date.bind (of? · (shifted % 86400).toNat nano) with
    | some t => .ok t
    | none => .error .impossible

/-- Reads the date in front: year, month and day. -/
def readDate (cs : List Char) : Except Unreadable ((Int × Nat × Nat) × List Char) := do
  let (y, cs) ← year cs
  let cs ← separator '-' cs
  let (m, cs) ← part 1 12 cs
  let cs ← separator '-' cs
  let (d, cs) ← part 1 31 cs
  return ((y, m, d), cs)

/-- Reads the time of day in front, in seconds and nanoseconds. -/
def readTime (cs : List Char) : Except Unreadable ((Nat × Nat) × List Char) := do
  let (h, cs) ← part 0 23 cs
  let cs ← separator ':' cs
  let (m, cs) ← part 0 59 cs
  let cs ← separator ':' cs
  let (s, cs) ← part 0 60 cs
  let (nano, cs) ← fraction cs
  let whole := h * 3600 + m * 60
  if s = 60 then return ((whole + 59, nano + giga), cs) else return ((whole + s, nano), cs)

/-- Reads a point in time. -/
def readChars (cs : List Char) : Except Unreadable Instant := do
  let ((y, m, d), cs) ← readDate cs
  let cs ← match cs with
    | [] => .error .tooShort
    | c :: rest => if c = 'T' ∨ c = 't' ∨ c = ' ' then .ok rest else .error .invalid
  let ((second, nano), cs) ← readTime cs
  let (minutes, cs) ← offset cs
  if (cs.dropWhile isBlank) ≠ [] then throw .tooLong
  match Date.of? y m d with
  | none => throw .outOfRange
  | some date => ofLocal date second nano minutes

/-- Reads a point in time. -/
def read (s : String) : Except Unreadable Instant := readChars s.toList

end Instant

end SignIn.Time
