import SeriesQuery.Text.Numeral

/-!
# Scanning from the left

A scan takes a piece off the front of a text and leaves the rest, or fails. The blanks that it skips are
the characters with the White_Space property of Unicode.
-/

namespace SeriesQuery.Text

/-- The character is white space. -/
def isBlank (c : Char) : Bool :=
  let n := c.toNat
  (9 ≤ n && n ≤ 13) || n == 0x20 || n == 0x85 || n == 0xA0 || n == 0x1680 ||
    (0x2000 ≤ n && n ≤ 0x200A) || n == 0x2028 || n == 0x2029 || n == 0x202F || n == 0x205F ||
    n == 0x3000

/-- The text after its leading blanks. -/
def skipBlanks (cs : List Char) : List Char := cs.dropWhile isBlank

/-- A reader of the front of a text. -/
abbrev Scan (α : Type) := StateT (List Char) Option α

namespace Scan

/-- The given character. -/
def char (c : Char) : Scan Unit := fun cs =>
  match cs with
  | d :: rest => if d = c then some ((), rest) else none
  | [] => none

/-- Any one of the given characters. -/
def oneOf (choices : List Char) : Scan Char := fun cs =>
  match cs with
  | d :: rest => if d ∈ choices then some (d, rest) else none
  | [] => none

/-- Leading blanks, possibly none. -/
def blanks : Scan Unit := fun cs => some ((), skipBlanks cs)

/-- Every digit in front, at least one. -/
def digits : Scan (List Char) := fun cs =>
  let run := cs.takeWhile Char.isDigit
  if run.isEmpty then none else some (run, cs.drop run.length)

/-- As many digits as there are in front, from `least` up to `most`. -/
def digitsUpTo (least most : Nat) : Scan (List Char) := fun cs =>
  let run := (cs.take most).takeWhile Char.isDigit
  if run.length < least then none else some (run, cs.drop run.length)

/-- The number written by exactly `width` digits. -/
def number (width : Nat) : Scan Nat := natOfDigits <$> digitsUpTo width width

/-- What the scan reads when it reads all of the text. -/
def all? {α : Type} (scan : Scan α) (cs : List Char) : Option α :=
  match scan cs with
  | some (a, []) => some a
  | _ => none

end Scan

end SeriesQuery.Text
