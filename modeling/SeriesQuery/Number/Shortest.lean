import SeriesQuery.Number.Binary64
import SeriesQuery.Text.Numeral

/-!
# Shortest decimal text

The text of a binary64 number in samples: the fewest digits that read back as the number, and of those
the nearest to it. Texts are positional from 0.00001 up to below 10 ^ 16 and have an exponent outside.
-/

namespace SeriesQuery.Binary64

open Text

/-- The number is `count * 10 ^ exponent`. -/
structure Decimal where
  count : Nat
  exponent : Int
  deriving DecidableEq, Repr

/-- A magnitude and its neighbourhood in quarters of `2 ^ exponent`: what lies between `low` and `high`
rounds to `value`, the ends too when `closed`. -/
structure Neighbourhood where
  low : Nat
  value : Nat
  high : Nat
  exponent : Int
  closed : Bool

/-- The neighbourhood of a finite magnitude above zero. Below a power of two the spacing halves. -/
def neighbourhood (x : Binary64) : Neighbourhood :=
  let (m, e) := x.significand
  let atPower : Bool := m == fractionRange && -1074 < e
  { low := 4 * m - (if atPower then 1 else 2)
    value := 4 * m
    high := 4 * m + 2
    exponent := e - 2
    closed := m % 2 == 0 }

/-- The units in which multiples of `10 ^ ten` and of `2 ^ two` are compared. -/
def commonUnits (ten two : Int) : Nat × Nat :=
  (tenTo ten.toNat * twoTo (-two).toNat, twoTo two.toNat * tenTo (-ten).toNat)

/-- `count * 10 ^ ten` rounds to the value of the neighbourhood. -/
def Neighbourhood.contains (n : Neighbourhood) (ten : Int) (count : Nat) : Bool :=
  let (a, b) := commonUnits ten n.exponent
  if n.closed then n.low * b ≤ count * a && count * a ≤ n.high * b
  else n.low * b < count * a && count * a < n.high * b

/-- The multiple of `10 ^ ten` that rounds to the value and is nearest to it; of two nearest ones the
even one. -/
def Neighbourhood.onGrid? (n : Neighbourhood) (ten : Int) : Option Nat :=
  let (a, b) := commonUnits ten n.exponent
  let below := n.value * b / a
  let above := below + 1
  match n.contains ten below, n.contains ten above with
  | true, true => some (roundQuotient (n.value * b) a)
  | true, false => some below
  | false, true => some above
  | false, false => none

/-- The greatest power of ten that is at most the value. The guess from the number of bits is one too
small or right. -/
def Neighbourhood.leadingTen (n : Neighbourhood) : Int :=
  let atMost (ten : Int) : Bool :=
    let (a, b) := commonUnits ten n.exponent
    a ≤ n.value * b
  let guess := ((Nat.log2 n.value : Int) + n.exponent) * 30103 / 100000
  if atMost (guess + 1) then guess + 1 else if atMost guess then guess else guess - 1

/-- The coarsest of the grids from `ten` down, at most `fuel` of them, that has a point in the
neighbourhood. -/
def Neighbourhood.coarsest (n : Neighbourhood) : (fuel : Nat) → (ten : Int) → Decimal
  | 0, ten => ⟨roundQuotient (n.value * (commonUnits ten n.exponent).2) (commonUnits ten n.exponent).1, ten⟩
  | fuel + 1, ten =>
    match n.onGrid? ten with
    | some count => ⟨count, ten⟩
    | none => n.coarsest fuel (ten - 1)

/-- The shortest decimal that rounds to a finite magnitude above zero; seventeen digits always do. -/
def shortest (x : Binary64) : Decimal :=
  let n := x.neighbourhood
  n.coarsest 16 n.leadingTen

/-- The text of a decimal from its digits without trailing zeros, with the point after `point` of
them. -/
def writeDigits (digits : List Char) (point : Int) : List Char :=
  let count : Int := digits.length
  if 16 < point ∨ point ≤ -5 then
    let exponent := point - 1
    let mantissa := match digits with
      | d :: (e :: rest) => d :: '.' :: e :: rest
      | ds => ds
    mantissa ++ 'e' :: (if exponent < 0 then '-' else '+') :: Nat.toDigits 10 exponent.natAbs
  else if point ≤ 0 then '0' :: '.' :: List.replicate (-point).toNat '0' ++ digits
  else if count ≤ point then digits ++ List.replicate (point - count).toNat '0' ++ ['.', '0']
  else digits.take point.toNat ++ '.' :: digits.drop point.toNat

/-- The text of a finite number. -/
def write (x : Binary64) : List Char :=
  let sign := if x.isNegative then ['-'] else []
  if x.magnitudeBits = 0 then sign ++ ['0', '.', '0']
  else
    let decimal := x.shortest
    let digits := Nat.toDigits 10 decimal.count
    sign ++ writeDigits (dropTrailingZeros digits) (decimal.exponent + digits.length)

end SeriesQuery.Binary64
