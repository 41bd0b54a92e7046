/-!
# Dates

The proleptic Gregorian calendar: valid dates and their numbers, counted in days from 1970-01-01.
-/

namespace SeriesQuery

/-- A day of the calendar. -/
structure Date where
  year : Int
  month : Nat
  day : Nat
  deriving DecidableEq, Repr

namespace Date

/-- The year has a 29th of February. -/
def isLeapYear (year : Int) : Bool :=
  year % 4 == 0 && (year % 100 != 0 || year % 400 == 0)

/-- The lengths of the twelve months. -/
def monthLengths (year : Int) : List Nat :=
  [31, if isLeapYear year then 29 else 28, 31, 30, 31, 30, 31, 31, 30, 31, 30, 31]

/-- The least and the greatest year that an instant can have. -/
def firstYear : Int := -262143

/-- See `firstYear`. -/
def lastYear : Int := 262142

/-- The date exists. -/
def isValid (d : Date) : Bool :=
  1 ≤ d.month && d.month ≤ 12 && 1 ≤ d.day &&
    d.day ≤ ((monthLengths d.year)[d.month - 1]?).getD 0

/-- The number of days from 0001-01-01 to the first day of the year. -/
def daysBeforeYear (year : Int) : Int :=
  let y := year - 1
  365 * y + y / 4 - y / 100 + y / 400

/-- The day that is counted as zero, 1970-01-01, in days from 0001-01-01. -/
def epochDay : Int := 719162

/-- The number of the day. -/
def toDays (d : Date) : Int :=
  daysBeforeYear d.year + (((monthLengths d.year).take (d.month - 1)).foldl (· + ·) 0 : Nat) +
    ((d.day : Int) - 1) - epochDay

/-- The year of the day that comes `n` days after 0001-01-01. A year has 146097 / 400 days on average,
so the quotient is off by one at most. -/
def yearOfDay (n : Int) : Int :=
  let guess := 400 * n / 146097 + 1
  if n < daysBeforeYear guess then guess - 1
  else if daysBeforeYear (guess + 1) ≤ n then guess + 1
  else guess

/-- The month and the day of the month, from the months that are left and the days to go. -/
def monthDay : List Nat → (month rest : Nat) → Nat × Nat
  | [], month, rest => (month, rest + 1)
  | [_], month, rest => (month, rest + 1)
  | length :: lengths, month, rest =>
    if rest < length then (month, rest + 1) else monthDay lengths (month + 1) (rest - length)

/-- The day with the given number. -/
def ofDays (days : Int) : Date :=
  let n := days + epochDay
  let year := yearOfDay n
  let (month, day) := monthDay (monthLengths year) 1 (n - daysBeforeYear year).toNat
  ⟨year, month, day⟩

end Date

end SeriesQuery
