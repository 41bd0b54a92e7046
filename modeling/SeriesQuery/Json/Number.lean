import SeriesQuery.Json.Tree
import SeriesQuery.Number.Numeral

/-!
# Numbers in JSON

A number without fraction and exponent that fits 64 bits is an integer. Any other is a real: its leading
digits, as many as fit 64 bits, are rounded to binary64 and then multiplied or divided by a power of ten,
with one more rounding. That is exact to within those two roundings; a real beyond the greatest binary64
number has no value.
-/

namespace SeriesQuery.JsonNumber

open Text

/-- The parts of a written number. The fraction and the exponent have digits when they are present. -/
structure Lexeme where
  negative : Bool
  whole : List Char
  fraction : List Char
  exponent : Option (Bool × List Char)
  deriving DecidableEq, Repr

/-- Appends digits to `n` while it fits 64 bits; gives the number and how many digits it took. -/
def absorb (n taken : Nat) : List Char → Nat × Nat
  | [] => (n, taken)
  | c :: rest =>
    let next := 10 * n + digitValue c
    if fitsUnsigned 64 next then absorb next (taken + 1) rest else (n, taken)

/-- The power of ten as a binary64 number. -/
def power (exponent : Nat) : Binary64 := Binary64.ofDecimal false 1 exponent

/-- The greatest exponent of a power of ten that is a binary64 number. -/
def greatestExponent : Nat := 308

/-- The magnitude `x * 10 ^ exponent`, in steps of one power of ten each. -/
def scale? (x : Binary64) (exponent : Int) : Option Binary64 :=
  if 0 ≤ exponent then
    if exponent ≤ greatestExponent then
      let product := x.mulMagnitudes (power exponent.toNat)
      if product.isInfinite then none else some product
    else if x.magnitudeBits = 0 then some x else none
  else if -greatestExponent ≤ exponent then some (x.divMagnitudes (power (-exponent).toNat))
  else if x.magnitudeBits = 0 then some x
  else scale? (x.divMagnitudes (power greatestExponent)) (exponent + greatestExponent)
  termination_by (-exponent).toNat
  decreasing_by simp only [greatestExponent] at *; omega

/-- The number written by the parts; none when it is out of range. Of an exponent of more than 32 bits only
the sign counts. -/
def ofLexeme? (l : Lexeme) : Option JsonNumber :=
  let (leading, taken) := absorb 0 0 l.whole
  let (significand, takenAfter) := absorb leading 0 l.fraction
  let places : Int := (l.whole.length - taken : Nat) - (takenAfter : Int)
  let signed (x : Binary64) : JsonNumber := real (if l.negative then x.neg else x)
  let rounded := Binary64.ofInt significand
  match l.exponent with
  | some (below, digits) =>
    let exponent := natOfDigits digits
    if fitsSigned 32 exponent then
      (scale? rounded (if below then places - exponent else places + exponent)).map signed
    else if significand = 0 ∨ below then some (signed (.zero false))
    else none
  | none =>
    if l.fraction = [] ∧ taken = l.whole.length then
      if !l.negative then some (integer significand)
      else if 0 < significand ∧ significand ≤ twoTo 63 then some (integer (-significand))
      else some (signed rounded)
    else (scale? rounded places).map signed

/-- The digits before the point: one zero, or digits that start with none. -/
def readWhole? : List Char → Option (List Char × List Char)
  | '0' :: rest =>
    if (rest.head?.map Char.isDigit).getD false then none else some (['0'], rest)
  | cs =>
    let run := cs.takeWhile Char.isDigit
    if run = [] then none else some (run, cs.dropWhile Char.isDigit)

/-- The digits after a point, if there is one. -/
def readFraction? : List Char → Option (List Char × List Char)
  | '.' :: rest =>
    let run := rest.takeWhile Char.isDigit
    if run = [] then none else some (run, rest.dropWhile Char.isDigit)
  | cs => some ([], cs)

/-- The digits of an exponent after its sign. -/
def readExponentDigits? (below : Bool) (cs : List Char) :
    Option (Option (Bool × List Char) × List Char) :=
  let run := cs.takeWhile Char.isDigit
  if run = [] then none else some (some (below, run), cs.dropWhile Char.isDigit)

/-- The exponent, if there is one; `true` for a negative one. -/
def readExponent? : List Char → Option (Option (Bool × List Char) × List Char)
  | [] => some (none, [])
  | e :: rest =>
    if e = 'e' ∨ e = 'E' then
      match rest with
      | '+' :: digits => readExponentDigits? false digits
      | '-' :: digits => readExponentDigits? true digits
      | digits => readExponentDigits? false digits
    else some (none, e :: rest)

/-- The number at the front of the text, and what follows it. -/
def readLexeme? (cs : List Char) : Option (Lexeme × List Char) := do
  let (negative, unsigned) := match cs with
    | '-' :: rest => (true, rest)
    | _ => (false, cs)
  let (whole, rest) ← readWhole? unsigned
  let (fraction, rest) ← readFraction? rest
  let (exponent, rest) ← readExponent? rest
  return (⟨negative, whole, fraction, exponent⟩, rest)

end SeriesQuery.JsonNumber
