import SeriesQuery.Text.Numeral

/-!
# Binary64 numbers

Floating-point numbers of 64 bits, held as their bits, with exact rounding: `ofRatio` is the nearest
number to a quotient of naturals, and a tie goes to the even neighbour. All arithmetic is in `Nat`.
-/

namespace SeriesQuery

/-- A floating-point number of 64 bits. -/
structure Binary64 where
  bits : UInt64
  deriving DecidableEq, Repr

/-- A floating-point number of 32 bits. -/
structure Binary32 where
  bits : UInt32
  deriving DecidableEq, Repr

/-- The quotient as an integer: the nearest one, of two nearest ones the even one. -/
def roundQuotient (num den : Nat) : Nat :=
  let quotient := num / den
  let rest := num % den
  if 2 * rest < den ∨ (2 * rest = den ∧ quotient % 2 = 0) then quotient else quotient + 1

namespace Binary64

/-- The bits of the fraction. -/
def fractionRange : Nat := twoTo 52

/-- The magnitude bits of infinity. -/
def infinityBits : Nat := 2047 * fractionRange

/-- The bit of the sign. -/
def signBit : Nat := twoTo 63

/-- The number with the given sign and magnitude bits. -/
def ofParts (negative : Bool) (magnitude : Nat) : Binary64 :=
  ⟨UInt64.ofNat (magnitude + if negative then signBit else 0)⟩

/-- Infinity of the given sign. -/
def infinity (negative : Bool) : Binary64 := ofParts negative infinityBits

/-- Of the given sign, but no number. -/
def nan (negative : Bool) : Binary64 := ofParts negative (infinityBits + fractionRange / 2)

/-- Zero of the given sign. -/
def zero (negative : Bool) : Binary64 := ofParts negative 0

/-- The sign is minus. -/
def isNegative (x : Binary64) : Bool := signBit ≤ x.bits.toNat

/-- The bits without the sign. -/
def magnitudeBits (x : Binary64) : Nat := x.bits.toNat % signBit

/-- The number is not a number. -/
def isNaN (x : Binary64) : Bool := infinityBits < x.magnitudeBits

/-- The number is an infinity. -/
def isInfinite (x : Binary64) : Bool := x.magnitudeBits == infinityBits

/-- The number with its sign turned. -/
def neg (x : Binary64) : Binary64 := ofParts (!x.isNegative) x.magnitudeBits

/-- A finite magnitude as an integer times a power of two. -/
def significand (x : Binary64) : Nat × Int :=
  let exponent := x.magnitudeBits / fractionRange
  let fraction := x.magnitudeBits % fractionRange
  if exponent = 0 then (fraction, -1074)
  else (fractionRange + fraction, (exponent : Int) - 1075)

/-- The quotient divided by `2 ^ exponent`. -/
def scaled (num den : Nat) (exponent : Int) : Nat × Nat :=
  (num * twoTo (-exponent).toNat, den * twoTo exponent.toNat)

/-- The power of two whose multiples carry the 53 bits of the quotient. Small numbers keep the least
one. -/
def exponentFor (num den : Nat) : Int :=
  let guess : Int := (Nat.log2 num : Int) - Nat.log2 den - 52
  let (n, d) := scaled num den guess
  max (-1074) (if n / d < fractionRange then guess - 1 else guess)

/-- The magnitude bits of the number nearest to the quotient. A significand that rounds up to the next
power of two carries into the exponent. -/
def nearestBits (num den : Nat) : Nat :=
  if num = 0 then 0
  else
    let exponent := exponentFor num den
    let (n, d) := scaled num den exponent
    min infinityBits ((exponent + 1074).toNat * fractionRange + roundQuotient n d)

/-- The number nearest to a signed quotient. -/
def ofRatio (negative : Bool) (num den : Nat) : Binary64 := ofParts negative (nearestBits num den)

/-- The number nearest to an integer. -/
def ofInt (n : Int) : Binary64 := ofRatio (decide (n < 0)) n.natAbs 1

/-- A magnitude as a quotient of naturals. -/
def ratio (x : Binary64) : Nat × Nat :=
  let (m, e) := x.significand
  (m * twoTo e.toNat, twoTo (-e).toNat)

/-- The product of two finite magnitudes, rounded. -/
def mulMagnitudes (x y : Binary64) : Binary64 :=
  let (a, b) := x.ratio
  let (c, d) := y.ratio
  ofRatio false (a * c) (b * d)

/-- The quotient of two finite magnitudes, rounded. -/
def divMagnitudes (x y : Binary64) : Binary64 :=
  let (a, b) := x.ratio
  let (c, d) := y.ratio
  ofRatio false (a * d) (b * c)

/-- The number of the same value as one of 32 bits. What a NaN carries besides its sign is dropped. -/
def ofBinary32 (x : Binary32) : Binary64 :=
  let bits := x.bits.toNat
  let negative : Bool := twoTo 31 ≤ bits
  let exponent := bits % twoTo 31 / twoTo 23
  let fraction := bits % twoTo 23
  if exponent = 255 then if fraction = 0 then infinity negative else nan negative
  else if exponent = 0 then ofRatio negative fraction (twoTo 149)
  else ofRatio negative ((twoTo 23 + fraction) * twoTo exponent) (twoTo 150)

end Binary64

end SeriesQuery
