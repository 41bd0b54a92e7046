import SeriesQuery.Calendar.Instant
import SeriesQuery.Text.Scan

/-!
# Written times

Three layouts of an instant, and one of a wall-clock time. The canonical one, `YYYY-MM-DDThh:mm:ssZ`, is
the only one that queries use. RFC 3339 with an offset is the one of result cells. The loose one reads
JSON samples: like RFC 3339, with blanks between the fields, unpadded fields and signed years. Wall-clock
times are `YYYY-MM-DD hh:mm:ss`, read leniently too; their result is the time as a clock in UTC would show
it.
-/

namespace SeriesQuery

open Text

/-! ## Unpadded fields

Fields of a date or a time of day as lenient layouts have them: after any blanks, in as few digits as the
number needs. -/

namespace LooseField

/-- A field of one or two digits. -/
def twoDigits : Scan Nat := do
  Scan.blanks
  natOfDigits <$> Scan.digitsUpTo 1 2

/-- The number written by a run of digits, made an integer. -/
def signed (sign : Int) (run : List Char × List Char) : Int × List Char :=
  (sign * (natOfDigits run.1 : Int), run.2)

/-- The year. Without a sign it has four digits at most. -/
def year : Scan Int := do
  Scan.blanks
  fun cs => match cs with
    | '-' :: rest => (Scan.digits rest).map (signed (-1))
    | '+' :: rest => (Scan.digits rest).map (signed 1)
    | _ => (Scan.digitsUpTo 1 4 cs).map (signed 1)

end LooseField

/-! ## In UTC -/

/-- The year with at least four digits; outside 0 to 9999 it carries a sign. -/
def writeYear (year : Int) : List Char :=
  if year < 0 then '-' :: padded 4 year.natAbs
  else if year ≤ 9999 then padded 4 year.natAbs
  else '+' :: padded 4 year.natAbs

namespace Timestamp

/-- Date and time of day to the second, without a zone. -/
def writeSecond (t : Instant) : List Char :=
  let d := t.date
  writeYear d.year ++ '-' :: padded 2 d.month ++ '-' :: padded 2 d.day ++ 'T' :: padded 2 t.hour ++
    ':' :: padded 2 t.minute ++ ':' :: padded 2 t.second

/-- The canonical text of the instant; fractions of the second are dropped. -/
def render (t : Instant) : String := String.ofList (writeSecond t ++ ['Z'])

/-- The fields of a canonical timestamp. -/
def canonical : Scan (Date × Nat × Nat × Nat) := do
  let year ← Scan.number 4
  Scan.char '-'
  let month ← Scan.number 2
  Scan.char '-'
  let day ← Scan.number 2
  Scan.char 'T'
  let hour ← Scan.number 2
  Scan.char ':'
  let minute ← Scan.number 2
  Scan.char ':'
  let second ← Scan.number 2
  Scan.char 'Z'
  pure (⟨year, month, day⟩, hour, minute, second)

/-- The instant of a canonical timestamp. Second 60 is refused. -/
def parse? (text : String) : Option Instant := do
  let (date, hour, minute, second) ← canonical.all? text.toList
  if second < 60 then Instant.ofFields? date hour minute second 0 else none

/-! ## With a zone -/

/-- A fraction of a second after its point, in nanoseconds; digits after the ninth are dropped. -/
def fraction : Scan Nat := do
  let digits ← Scan.digits
  let kept := digits.take 9
  pure (natOfDigits kept * tenTo (9 - kept.length))

/-- The fraction of a second, if a point follows. -/
def optionalFraction : Scan Nat := fun cs =>
  match cs with
  | '.' :: rest => fraction rest
  | _ => some (0, cs)

/-- Hours and minutes east of UTC, in seconds, with `between` separating the two. The minus sign may be
the typographic one. -/
def signedOffset (between : Scan Unit) : Scan Int := do
  let sign ← Scan.oneOf ['+', '-', '\u2212']
  let hours ← Scan.number 2
  between
  let minutes ← Scan.number 2
  if 60 ≤ minutes then failure
  let seconds : Int := (hours * 3600 + minutes * 60 : Nat)
  pure (if sign = '+' then seconds else -seconds)

/-- An offset, or `Z` for none. -/
def offset (between : Scan Unit) : Scan Int := fun cs =>
  match cs with
  | 'Z' :: rest => some (0, rest)
  | 'z' :: rest => some (0, rest)
  | _ => signedOffset between cs

/-- The instant of fields read in a zone `east` seconds east of UTC. Offsets of a day and more do not
exist. -/
def inZone? (date : Date) (hour minute second nanos : Nat) (east : Int) : Option Instant := do
  let shown ← Instant.ofFields? date hour minute second nanos
  if east.natAbs < secondsPerDay then shown.shift? (-east) else none

/-- The letter or the blank between date and time. -/
def dateEnd : Scan Unit := do
  let _ ← Scan.oneOf ['T', 't', ' ']

/-- A timestamp with an offset, in the layout of RFC 3339. -/
def strict : Scan (Option Instant) := do
  let year ← Scan.number 4
  Scan.char '-'
  let month ← Scan.number 2
  Scan.char '-'
  let day ← Scan.number 2
  dateEnd
  let hour ← Scan.number 2
  Scan.char ':'
  let minute ← Scan.number 2
  Scan.char ':'
  let second ← Scan.number 2
  let nanos ← optionalFraction
  let east ← offset (Scan.char ':')
  pure (inZone? ⟨year, month, day⟩ hour minute second nanos east)

/-- The instant of an RFC 3339 timestamp. -/
def parseRfc3339? (text : String) : Option Instant := (strict.all? text.toList).join

/-- Blanks, then the given character. -/
def looseChar (c : Char) : Scan Unit := do
  Scan.blanks
  Scan.char c

/-- Colons and blanks in any number. -/
def colonsAndBlanks : Scan Unit := fun cs =>
  some ((), cs.dropWhile fun c => c == ':' || isBlank c)

/-- An offset, `Z`, or the letters `UTC` in any case. -/
def looseOffset : Scan Int := fun cs =>
  match cs with
  | a :: b :: c :: rest =>
    if a.toUpper = 'U' ∧ b.toUpper = 'T' ∧ c.toUpper = 'C' then some (0, rest)
    else offset colonsAndBlanks cs
  | _ => offset colonsAndBlanks cs

/-- A timestamp in the loose layout. -/
def loose : Scan (Option Instant) := do
  let year ← LooseField.year
  looseChar '-'
  let month ← LooseField.twoDigits
  looseChar '-'
  let day ← LooseField.twoDigits
  dateEnd
  let hour ← LooseField.twoDigits
  looseChar ':'
  let minute ← LooseField.twoDigits
  looseChar ':'
  let second ← LooseField.twoDigits
  let nanos ← optionalFraction
  Scan.blanks
  let east ← looseOffset
  Scan.blanks
  pure (inZone? ⟨year, month, day⟩ hour minute second nanos east)

/-- The instant of a timestamp in the loose layout. -/
def parseLoose? (text : String) : Option Instant := (loose.all? text.toList).join

/-- The nanoseconds of a second as a fraction of three, six or nine digits, as few as show them. -/
def writeFraction (nanos : Nat) : List Char :=
  if nanos = 0 then []
  else if nanos % 1000000 = 0 then '.' :: padded 3 (nanos / 1000000)
  else if nanos % 1000 = 0 then '.' :: padded 6 (nanos / 1000)
  else '.' :: padded 9 nanos

/-- The text of the instant in samples: the canonical one with the fraction of the second. -/
def renderExact (t : Instant) : String :=
  String.ofList (writeSecond t ++ writeFraction (t.nanos % nanosPerSecond) ++ ['Z'])

end Timestamp

/-! ## On the wall -/

namespace WallClock

/-- Date and time of day. The space between them may be any run of blanks, also none. -/
def layout : Scan (Date × Nat × Nat × Nat) := do
  let year ← LooseField.year
  Scan.char '-'
  let month ← LooseField.twoDigits
  Scan.char '-'
  let day ← LooseField.twoDigits
  let hour ← LooseField.twoDigits
  Scan.char ':'
  let minute ← LooseField.twoDigits
  Scan.char ':'
  let second ← LooseField.twoDigits
  pure (⟨year, month, day⟩, hour, minute, second)

/-- The wall-clock time written by the text. Second 60 is read as a leap second. -/
def parse? (text : String) : Option Instant := do
  let (date, hour, minute, second) ← layout.all? text.toList
  Instant.ofFields? date hour minute second 0

end WallClock

end SeriesQuery
