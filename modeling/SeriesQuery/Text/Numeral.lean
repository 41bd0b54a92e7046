/-!
# Decimal numerals

Powers of two and of ten, the ranges of integers of a width, runs of ASCII digits with their values, and
bounded integers with an optional sign.
-/

namespace SeriesQuery

/-- Two to a power. -/
def twoTo (exponent : Nat) : Nat := Nat.pow 2 exponent

/-- Ten to a power. -/
def tenTo (exponent : Nat) : Nat := Nat.pow 10 exponent

/-- The number can be written with the given number of bits. -/
def fitsUnsigned (bits n : Nat) : Bool := n < twoTo bits

/-- The integer has a two's complement of the given number of bits. -/
def fitsSigned (bits : Nat) (n : Int) : Bool :=
  -(twoTo (bits - 1) : Int) ≤ n && n < twoTo (bits - 1)

/-- One more digit makes the power of ten ten times as great. -/
theorem tenTo_succ (n : Nat) : tenTo (n + 1) = 10 * tenTo n := Nat.mul_comm _ _

namespace Text

/-- The value of an ASCII digit. -/
def digitValue (c : Char) : Nat := c.toNat - '0'.toNat

/-- The value of a run of ASCII digits; the empty run is zero. -/
def natOfDigits (digits : List Char) : Nat :=
  digits.foldl (fun n c => 10 * n + digitValue c) 0

/-- The text is one or more ASCII digits. -/
def isNumeral (cs : List Char) : Bool := !cs.isEmpty && cs.all Char.isDigit

/-- The number written by one or more ASCII digits. -/
def readNat? (cs : List Char) : Option Nat :=
  if isNumeral cs then some (natOfDigits cs) else none

/-- A number of the given bits without minus sign; a plus sign may precede it. -/
def readUnsigned? (bits : Nat) (cs : List Char) : Option Nat := do
  let n ← readNat? (match cs with | '+' :: rest => rest | _ => cs)
  if fitsUnsigned bits n then some n else none

/-- A signed number of the given bits, with an optional sign. -/
def readSigned? (bits : Nat) (cs : List Char) : Option Int := do
  let n : Int ← match cs with
    | '+' :: rest => (readNat? rest).map Int.ofNat
    | '-' :: rest => (readNat? rest).map fun n : Nat => -n
    | _ => (readNat? cs).map Int.ofNat
  if fitsSigned bits n then some n else none

/-- The digits of `n`, with zeros in front up to `width` places. -/
def padded (width n : Nat) : List Char :=
  let digits := Nat.toDigits 10 n
  List.replicate (width - digits.length) '0' ++ digits

/-- The digits without the zeros they end in. -/
def dropTrailingZeros (digits : List Char) : List Char :=
  (digits.reverse.dropWhile (· == '0')).reverse

end Text

end SeriesQuery
