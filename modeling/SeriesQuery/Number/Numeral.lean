import SeriesQuery.Number.Binary64
import SeriesQuery.Text.Numeral

/-!
# Reading decimal numbers

A decimal number has digits with or without a point, and an optional exponent; `inf`, `infinity` and
`nan` are read in any case. The result is the nearest binary64 number.
-/

namespace SeriesQuery.Binary64

open Text

/-- The number nearest to `n * 10 ^ exponent`. Far outside the range of the format the answer needs no
power of ten. -/
def ofDecimal (negative : Bool) (n : Nat) (exponent : Int) : Binary64 :=
  let places : Int := (Nat.toDigits 10 n).length
  if n = 0 then zero negative
  else if 400 < exponent + places then infinity negative
  else if exponent + places < -400 then zero negative
  else ofRatio negative (n * tenTo exponent.toNat) (tenTo (-exponent).toNat)

/-- The digits of an exponent. Beyond 65536 further digits do not count. -/
def exponentOfDigits (digits : List Char) : Nat :=
  digits.foldl (fun n c => if n < 65536 then 10 * n + digitValue c else n) 0

/-- The exponent after the digits of a number; no exponent is zero. -/
def readExponent? : List Char → Option Int
  | [] => some 0
  | e :: rest =>
    if e = 'e' ∨ e = 'E' then
      match rest with
      | '+' :: digits => magnitude? digits
      | '-' :: digits => (magnitude? digits).map (- ·)
      | digits => magnitude? digits
    else none
where
  magnitude? (digits : List Char) : Option Int :=
    if isNumeral digits then some (exponentOfDigits digits : Nat) else none

/-- The digits after a point, and what follows them. -/
def readPoint : List Char → List Char × List Char
  | '.' :: rest => (rest.takeWhile Char.isDigit, rest.dropWhile Char.isDigit)
  | cs => ([], cs)

/-- An unsigned number in digits. -/
def readDigits? (negative : Bool) (cs : List Char) : Option Binary64 := do
  let whole := cs.takeWhile Char.isDigit
  let (part, rest) := readPoint (cs.dropWhile Char.isDigit)
  if whole.isEmpty && part.isEmpty then none
  let exponent ← readExponent? rest
  return ofDecimal negative (natOfDigits (whole ++ part)) (exponent - part.length)

/-- An unsigned number, in digits or by name. -/
def readUnsigned? (negative : Bool) (cs : List Char) : Option Binary64 :=
  let name := String.ofList (cs.map Char.toLower)
  if name = "inf" ∨ name = "infinity" then some (infinity negative)
  else if name = "nan" then some (nan negative)
  else readDigits? negative cs

/-- The number written by the text, with an optional sign. -/
def parse? (text : String) : Option Binary64 :=
  match text.toList with
  | '+' :: rest => readUnsigned? false rest
  | '-' :: rest => readUnsigned? true rest
  | cs => readUnsigned? false cs

end SeriesQuery.Binary64
