import SeriesQuery.Calendar.Instant

/-!
# Time zones

A zone has one offset, or one change of offset. Going from the wall clock to UTC, a time is shown by
one instant, by two (the clock was set back), or by none (it was set forward).
-/

namespace SeriesQuery

/-- An offset from UTC, constant or changed once. Offsets are seconds east. -/
inductive Zone where
  | fixed (east : Int)
  | change (before : Int) (moment : Int) (after : Int)
  deriving DecidableEq, Repr

namespace Zone

/-- UTC itself. -/
def utc : Zone := fixed 0

/-- Offsets are shorter than a day. -/
def isOffset (east : Int) : Bool := east.natAbs < secondsPerDay

/-- Every offset of the zone is one. -/
def isValid : Zone → Bool
  | fixed east => isOffset east
  | change before _ after => isOffset before && isOffset after

/-- The offset in force at a UTC second. -/
def offsetAt (zone : Zone) (secs : Int) : Int :=
  match zone with
  | fixed east => east
  | change before moment after => if secs < moment then before else after

/-- The offsets under which a clock can show the wall-clock second, the earlier instant first. -/
def offsetsFor (zone : Zone) (shown : Int) : List Int :=
  match zone with
  | fixed east => [east]
  | change before moment after =>
    (if shown - before < moment then [before] else []) ++
      (if moment ≤ shown - after then [after] else [])

/-- The earliest instant at which a clock in the zone shows the wall-clock time. None when the clock
skips that time, or when an instant that shows it is beyond the limits. -/
def earliest? (zone : Zone) (shown : Instant) : Option Instant := do
  let instants ← (zone.offsetsFor shown.secs).mapM fun east => shown.shift? (-east)
  instants.head?

end Zone

end SeriesQuery
