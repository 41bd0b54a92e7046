import SeriesQuery.Calendar.Instant
import SeriesQuery.Query.Error
import SeriesQuery.Text.Numeral

/-!
# Durations

A duration literal is an optional sign, then `0` or one or more groups of a decimal number and a unit,
as in `-20h5m3s` or `1.5h`. Its value is a whole number of nanoseconds that fits 64 bits.
-/

namespace SeriesQuery

open Text

/-- A signed length of time. -/
structure Duration where
  nanos : Int
  deriving DecidableEq, Repr

namespace Duration

/-- The units of a literal. -/
inductive TimeUnit where
  | nanosecond
  | microsecond
  | millisecond
  | second
  | minute
  | hour
  deriving DecidableEq, Repr

/-- The length of the unit in nanoseconds. -/
def TimeUnit.nanos : TimeUnit → Nat
  | nanosecond => 1
  | microsecond => 1000
  | millisecond => 1000000
  | second => 1000000000
  | minute => 60 * 1000000000
  | hour => 3600 * 1000000000

/-- The unit at the front of the text. Of `ms` and `m`, the longer is taken. -/
def TimeUnit.read? : List Char → Option (TimeUnit × List Char)
  | 'n' :: 's' :: rest => some (nanosecond, rest)
  | 'u' :: 's' :: rest => some (microsecond, rest)
  | '\u00b5' :: 's' :: rest => some (microsecond, rest)
  | '\u03bc' :: 's' :: rest => some (microsecond, rest)
  | 'm' :: 's' :: rest => some (millisecond, rest)
  | 's' :: rest => some (second, rest)
  | 'm' :: rest => some (minute, rest)
  | 'h' :: rest => some (hour, rest)
  | _ => none

/-- A decimal number and its unit. -/
structure Group where
  whole : List Char
  fraction : List Char
  unit : TimeUnit
  deriving DecidableEq, Repr

namespace Group

/-- The digits after a point, and what follows them. -/
def readFraction : List Char → List Char × List Char
  | '.' :: rest => (rest.takeWhile Char.isDigit, rest.dropWhile Char.isDigit)
  | cs => ([], cs)

/-- The group at the front of the text. -/
def read? (cs : List Char) : Option (Group × List Char) :=
  let whole := cs.takeWhile Char.isDigit
  let (fraction, rest) := readFraction (cs.dropWhile Char.isDigit)
  if whole.isEmpty && fraction.isEmpty then none
  else (TimeUnit.read? rest).map fun (unit, rest) => (⟨whole, fraction, unit⟩, rest)

/-- Digits of the fraction that count; with eighteen, every unit is resolved to the nanosecond. -/
def countedDigits : Nat := 18

/-- The greatest magnitude of a duration, and so of a group. -/
def greatest : Nat := twoTo 63

/-- The group in nanoseconds, rounded down. None when the whole part needs more than 64 bits or the
group is longer than any duration. -/
def nanos? (g : Group) : Option Nat :=
  let whole := natOfDigits g.whole
  let digits := g.fraction.take countedDigits
  let nanos := whole * g.unit.nanos + natOfDigits digits * g.unit.nanos / tenTo digits.length
  if fitsUnsigned 64 whole ∧ nanos ≤ greatest then some nanos else none

/-- To read a fraction makes a text no longer. -/
theorem length_readFraction_le (cs : List Char) : (readFraction cs).2.length ≤ cs.length := by
  unfold readFraction
  split
  · exact Nat.le_succ_of_le (List.dropWhile_suffix _).length_le
  · exact Nat.le_refl _

end Group

/-- To read a unit makes a text shorter. -/
theorem TimeUnit.length_lt_of_read? {cs rest : List Char} {u : TimeUnit}
    (h : TimeUnit.read? cs = some (u, rest)) : rest.length < cs.length := by
  unfold TimeUnit.read? at h
  split at h <;> grind

/-- To read a group makes a text shorter. -/
theorem Group.length_lt_of_read? {cs rest : List Char} {g : Group}
    (h : Group.read? cs = some (g, rest)) : rest.length < cs.length := by
  simp only [Group.read?] at h
  split at h
  · simp at h
  · obtain ⟨⟨u, r⟩, hu, he⟩ := Option.map_eq_some_iff.1 h
    simp only [Prod.mk.injEq] at he
    have h1 := TimeUnit.length_lt_of_read? hu
    have h2 := Group.length_readFraction_le (cs.dropWhile Char.isDigit)
    have h3 : (cs.dropWhile Char.isDigit).length ≤ cs.length :=
      (List.dropWhile_suffix _).length_le
    rw [← he.2]
    omega

/-- The groups that make up the whole text, possibly none. -/
def readGroups? (cs : List Char) : Option (List Group) :=
  if cs.isEmpty then some []
  else
    match h : Group.read? cs with
    | none => none
    | some (g, rest) =>
      have := Group.length_lt_of_read? h
      (readGroups? rest).map (g :: ·)
  termination_by cs.length

/-- The sign in front, `true` for minus, and the rest. -/
def readSign : List Char → Bool × List Char
  | '-' :: rest => (true, rest)
  | '+' :: rest => (false, rest)
  | cs => (false, cs)

/-- The nanoseconds of an unsigned literal. -/
def readMagnitude? (cs : List Char) : Option Nat := do
  if cs = ['0'] then return 0
  let groups ← readGroups? cs
  if groups.isEmpty then none
  else return (← groups.mapM Group.nanos?).foldl (· + ·) 0

/-- The duration written by the characters. -/
def read? (cs : List Char) : Option Duration := do
  let (negative, rest) := readSign cs
  let magnitude ← readMagnitude? rest
  let nanos : Int := if negative then -magnitude else magnitude
  if fitsSigned 64 nanos then some ⟨nanos⟩ else none

/-- The duration written by the text. -/
def parse (text : String) : Except QueryError Duration :=
  match read? text.toList with
  | some d => .ok d
  | none => .error (.malformedTime text)

/-- A duration above zero. -/
def parsePositive (text : String) : Except QueryError Duration := do
  let d ← parse text
  if 0 < d.nanos then return d else throw (.nonPositiveDuration text)

/-- The width of a window: above zero, without plus sign and without fractions, since the text is
copied into the script. -/
def parseWindow (text : String) : Except QueryError Duration :=
  if text.toList.head? = some '+' ∨ '.' ∈ text.toList then .error (.malformedTime text)
  else parsePositive text

/-- The duration in seconds, in the form of ISO 8601: `PT1.5S`. -/
def iso (d : Duration) : String :=
  let magnitude := d.nanos.natAbs
  let seconds := magnitude / nanosPerSecond
  let part := magnitude % nanosPerSecond
  let fraction := if part = 0 then [] else '.' :: dropTrailingZeros (padded 9 part)
  let sign := if d.nanos < 0 then "-" else ""
  if magnitude = 0 then "P0D"
  else sign ++ "PT" ++ String.ofList (padded 1 seconds ++ fraction) ++ "S"

/-- The length of time in the largest unit that is not above it: `1.5ms`. -/
def brief (nanos : Nat) : String :=
  let inUnit (unit : Nat) (places : Nat) : List Char :=
    let part := nanos % unit
    padded 1 (nanos / unit) ++
      if part = 0 then [] else '.' :: dropTrailingZeros (padded places part)
  if 1000000000 ≤ nanos then String.ofList (inUnit 1000000000 9) ++ "s"
  else if 1000000 ≤ nanos then String.ofList (inUnit 1000000 6) ++ "ms"
  else if 1000 ≤ nanos then String.ofList (inUnit 1000 3) ++ "\u00b5s"
  else String.ofList (padded 1 nanos) ++ "ns"

end Duration

end SeriesQuery
