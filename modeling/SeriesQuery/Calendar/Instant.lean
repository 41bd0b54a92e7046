import SeriesQuery.Calendar.Date

/-!
# Instants

Points of UTC time to the nanosecond. A leap second is written as a second that lasts longer: its
nanoseconds run on from 1000000000. Adding an offset leaves a leap second at once or not at all.
-/

namespace SeriesQuery

/-- The nanoseconds of a second. -/
def nanosPerSecond : Nat := 1000000000

/-- The seconds of a day. -/
def secondsPerDay : Nat := 86400

/-- A point of UTC time: seconds since 1970, and nanoseconds within the second. -/
structure Instant where
  secs : Int
  nanos : Nat := 0
  deriving DecidableEq, Repr

namespace Instant

/-- Earlier in time. -/
def Before (a b : Instant) : Prop := a.secs < b.secs ∨ (a.secs = b.secs ∧ a.nanos < b.nanos)

instance : LT Instant := ⟨Before⟩

instance : LE Instant := ⟨fun a b => ¬ b < a⟩

instance (a b : Instant) : Decidable (a < b) :=
  inferInstanceAs (Decidable (a.secs < b.secs ∨ (a.secs = b.secs ∧ a.nanos < b.nanos)))

instance (a b : Instant) : Decidable (a ≤ b) := inferInstanceAs (Decidable (¬ b < a))

/-- The first second that an instant can have. -/
def firstSecond : Int := (Date.mk Date.firstYear 1 1).toDays * secondsPerDay

/-- The last second that an instant can have. -/
def lastSecond : Int := ((Date.mk Date.lastYear 12 31).toDays + 1) * secondsPerDay - 1

/-- The instant is inside a leap second. -/
def inLeapSecond (t : Instant) : Bool := nanosPerSecond ≤ t.nanos

/-- The instant, unless its second is beyond the limits. -/
def within? (t : Instant) : Option Instant :=
  if firstSecond ≤ t.secs ∧ t.secs ≤ lastSecond then some t else none

/-- The instant that is `total` nanoseconds after the start of 1970. -/
def ofNanos? (total : Int) : Option Instant :=
  within? ⟨total / nanosPerSecond, (total % nanosPerSecond).toNat⟩

/-- The instant `offset` nanoseconds later. From inside a leap second, an offset that ends before the
leap second or after it counts from the same place in the second that follows a whole one back. -/
def add? (t : Instant) (offset : Int) : Option Instant :=
  let whole := offset.tdiv nanosPerSecond
  let part := offset.tmod nanosPerSecond
  if t.inLeapSecond then
    let total := t.secs * nanosPerSecond + ((t.nanos : Int) - nanosPerSecond) + offset
    if 0 < whole ∨ (0 < part ∧ 2 * nanosPerSecond ≤ t.nanos + part) then ofNanos? total
    else if whole < 0 then ofNanos? (total + nanosPerSecond)
    else some ⟨t.secs, (t.nanos + part).toNat⟩
  else ofNanos? (t.secs * nanosPerSecond + t.nanos + offset)

/-- The instant with its second moved by `seconds`. -/
def shift? (t : Instant) (seconds : Int) : Option Instant := within? ⟨t.secs + seconds, t.nanos⟩

/-- The date of the instant. -/
def date (t : Instant) : Date := Date.ofDays (t.secs / secondsPerDay)

/-- The second of the day. -/
def secondOfDay (t : Instant) : Nat := (t.secs % secondsPerDay).toNat

/-- The hour of the day. -/
def hour (t : Instant) : Nat := t.secondOfDay / 3600

/-- The minute of the hour. -/
def minute (t : Instant) : Nat := t.secondOfDay / 60 % 60

/-- The second of the minute; a leap second counts as one more. -/
def second (t : Instant) : Nat := t.secondOfDay % 60 + t.nanos / nanosPerSecond

/-- The instant with the given calendar fields. Second 60 is the leap second after second 59. -/
def ofFields? (date : Date) (hour minute second nanos : Nat) : Option Instant :=
  if date.isValid ∧ Date.firstYear ≤ date.year ∧ date.year ≤ Date.lastYear ∧
      hour < 24 ∧ minute < 60 ∧ second ≤ 60 then
    let secondOfMinute := min second 59
    some ⟨date.toDays * secondsPerDay + ((hour * 3600 + minute * 60 + secondOfMinute : Nat) : Int),
      nanos + (if second = 60 then nanosPerSecond else 0)⟩
  else none

end Instant

end SeriesQuery
