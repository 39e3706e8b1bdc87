/-!
# Dates

The Gregorian calendar, extended in both directions with a year zero.  A date is
always a date of the calendar and lies in a fixed range of years; the days next to
the ends of the range have a neighbour missing.

## Main definitions

* `Date` — a date of the calendar.
* `Date.of?` — the date of a year, month and day.
* `Date.next?`, `Date.previous?` — its neighbours.
* `Date.after?` — a later date.
-/

namespace SignIn.Time

/-- Whether a year has a 29th of February. -/
def isLeapYear (year : Int) : Bool := year % 4 == 0 && (year % 100 != 0 || year % 400 == 0)

/-- The number of days of a month. -/
def daysInMonth (year : Int) (month : Nat) : Nat :=
  if month = 2 then (if isLeapYear year then 29 else 28)
  else if month = 4 ∨ month = 6 ∨ month = 9 ∨ month = 11 then 30
  else 31

/-- The first year of the range. -/
def firstYear : Int := -262143

/-- The last year of the range. -/
def lastYear : Int := 262142

/-- What makes a year, month and day a date. -/
abbrev IsDate (year : Int) (month day : Nat) : Prop :=
  firstYear ≤ year ∧ year ≤ lastYear ∧ 1 ≤ month ∧ month ≤ 12 ∧ 1 ≤ day ∧
    day ≤ daysInMonth year month

/-- A date of the calendar. -/
structure Date where
  /-- The year. -/
  year : Int
  /-- The month, from one. -/
  month : Nat
  /-- The day of the month, from one. -/
  day : Nat
  /-- The date exists. -/
  isDate : IsDate year month day
  deriving DecidableEq, Repr

namespace Date

/-- The date of a year, month and day, if there is one. -/
def of? (year : Int) (month day : Nat) : Option Date :=
  if h : IsDate year month day then some ⟨year, month, day, h⟩ else none

/-- A date is found from its parts. -/
@[simp] theorem of?_self (d : Date) : of? d.year d.month d.day = some d := by
  simp only [of?, dif_pos d.isDate]

/-- The day after. -/
def next? (d : Date) : Option Date :=
  if d.day < daysInMonth d.year d.month then of? d.year d.month (d.day + 1)
  else if d.month < 12 then of? d.year (d.month + 1) 1
  else of? (d.year + 1) 1 1

/-- The day before. -/
def previous? (d : Date) : Option Date :=
  if 1 < d.day then of? d.year d.month (d.day - 1)
  else if 1 < d.month then of? d.year (d.month - 1) (daysInMonth d.year (d.month - 1))
  else of? (d.year - 1) 12 31

/-- The date a number of days later. -/
def after? (d : Date) : Nat → Option Date
  | 0 => some d
  | n + 1 => d.next?.bind (after? · n)

end Date

end SignIn.Time
