import SeriesQuery.Text.Quoted

/-!
# Strings in JSON

A string is written with the fewest escapes: quotes, backslashes and characters below the space. It is
read with all escapes of JSON.
-/

namespace SeriesQuery.JsonText

open Text

/-- Four hexadecimal digits. -/
def fourHex (n : Nat) : List Char :=
  let digits := hexDigits n
  List.replicate (4 - digits.length) '0' ++ digits

/-- A character as it stands in a written string. -/
def writeChar (c : Char) : List Char :=
  match c with
  | '\"' => ['\\', '\"']
  | '\\' => ['\\', '\\']
  | '\x08' => ['\\', 'b']
  | '\x0c' => ['\\', 'f']
  | '\n' => ['\\', 'n']
  | '\r' => ['\\', 'r']
  | '\t' => ['\\', 't']
  | c => if c.toNat < 0x20 then ['\\', 'u'] ++ fourHex c.toNat else [c]

/-- The string with its quotes. -/
def write (text : String) : List Char := '\"' :: text.toList.flatMap writeChar ++ ['\"']

/-- The value of a hexadecimal digit. -/
def hexValue? (c : Char) : Option Nat :=
  if c.isDigit then some (c.toNat - '0'.toNat)
  else if 'a' ≤ c ∧ c ≤ 'f' then some (c.toNat - 'a'.toNat + 10)
  else if 'A' ≤ c ∧ c ≤ 'F' then some (c.toNat - 'A'.toNat + 10)
  else none

/-- The unit written by four hexadecimal digits. -/
def unit? (a b c d : Char) : Option Nat := do
  return (← hexValue? a) * 4096 + (← hexValue? b) * 256 + (← hexValue? c) * 16 + (← hexValue? d)

/-- The first half of a surrogate pair. -/
def isHigh (unit : Nat) : Bool := 0xD800 ≤ unit && unit ≤ 0xDBFF

/-- The second half of a surrogate pair. -/
def isLow (unit : Nat) : Bool := 0xDC00 ≤ unit && unit ≤ 0xDFFF

/-- The character of a surrogate pair. -/
def pair (high low : Nat) : Char := Char.ofNat ((high - 0xD800) * 1024 + (low - 0xDC00) + 0x10000)

/-- The character of an escape with one letter. -/
def escaped? : Char → Option Char
  | '\"' => some '\"'
  | '\\' => some '\\'
  | '/' => some '/'
  | 'b' => some '\x08'
  | 'f' => some '\x0c'
  | 'n' => some '\n'
  | 'r' => some '\r'
  | 't' => some '\t'
  | _ => none

/-- The rest of a string after its opening quote and the characters in `before`, the last first, and what
follows the closing quote. Half a surrogate pair leaves the string without a value. -/
def read? (before : Option (List Char)) : List Char → Option (Option String × List Char)
  | [] => none
  | '\"' :: rest => some (before.map fun cs => String.ofList cs.reverse, rest)
  | '\\' :: 'u' :: a :: b :: c :: d :: '\\' :: 'u' :: e :: f :: g :: h :: rest =>
    match unit? a b c d, unit? e f g h with
    | some first, some second =>
      if isHigh first && isLow second then
        read? (before.map (pair first second :: ·)) rest
      else
        read? (if isHigh first || isLow first then none else before.map (Char.ofNat first :: ·))
          ('\\' :: 'u' :: e :: f :: g :: h :: rest)
    | _, _ => none
  | '\\' :: 'u' :: a :: b :: c :: d :: rest =>
    match unit? a b c d with
    | some unit =>
      read? (if isHigh unit || isLow unit then none else before.map (Char.ofNat unit :: ·)) rest
    | none => none
  | '\\' :: e :: rest =>
    match escaped? e with
    | some c => read? (before.map (c :: ·)) rest
    | none => none
  | c :: rest => if c.toNat < 0x20 ∨ c = '\\' then none else read? (before.map (c :: ·)) rest

end SeriesQuery.JsonText
