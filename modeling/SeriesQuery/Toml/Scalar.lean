import SeriesQuery.Calendar.Date
import SeriesQuery.Json.Text
import SeriesQuery.Number.Numeral
import SeriesQuery.Text.Scan
import SeriesQuery.Toml.Value

/-!
# TOML scalars

Strings in their four notations, numbers, dates and times.
-/

namespace SeriesQuery.Toml

open Text

/-- The blanks within a line. -/
def isSpace (c : Char) : Bool := c == ' ' || c == '\t'

/-- The text after its leading blanks. -/
def skipSpace (cs : List Char) : List Char := cs.dropWhile isSpace

/-- A character of comments and literal strings: no control character but the tab. -/
def isPlain (c : Char) : Bool := c == '\t' || (0x20 ≤ c.toNat && c.toNat != 0x7F)

/-- A string that is read so far: its characters, the last one first, and then the rest. -/
abbrev Reading := Option (String × List Char)

/-- The string of the characters. -/
def finish (before : List Char) (rest : List Char) : Reading :=
  some (String.ofList before.reverse, rest)

/-- The character with a code point, if there is one. -/
def scalar? (n : Nat) : Option Char := if n.isValidChar then some (Char.ofNat n) else none

/-- The number written by hexadecimal digits. -/
def hexNumber? (digits : List Char) : Option Nat :=
  digits.foldlM (fun n c => (JsonText.hexValue? c).map (16 * n + ·)) 0

/-- The character of an escape with one letter. -/
def escaped? : Char → Option Char
  | 'b' => some '\x08'
  | 't' => some '\t'
  | 'n' => some '\n'
  | 'f' => some '\x0c'
  | 'r' => some '\r'
  | '\"' => some '\"'
  | '\\' => some '\\'
  | _ => none

/-- The character of an escape by number. -/
def codePoint? (digits : List Char) : Option Char := (hexNumber? digits).bind scalar?

/-- The rest of a string between double quotes. -/
def basicString (before : List Char) : List Char → Reading
  | [] => none
  | '\"' :: rest => finish before rest
  | '\\' :: 'u' :: a :: b :: c :: d :: rest =>
    match codePoint? [a, b, c, d] with
    | some ch => basicString (ch :: before) rest
    | none => none
  | '\\' :: 'U' :: a :: b :: c :: d :: e :: f :: g :: h :: rest =>
    match codePoint? [a, b, c, d, e, f, g, h] with
    | some ch => basicString (ch :: before) rest
    | none => none
  | '\\' :: e :: rest =>
    match escaped? e with
    | some ch => basicString (ch :: before) rest
    | none => none
  | c :: rest => if isPlain c && c != '\\' then basicString (c :: before) rest else none

/-- The rest of a string between single quotes. -/
def literalString (before : List Char) : List Char → Reading
  | [] => none
  | '\x27' :: rest => finish before rest
  | c :: rest => if isPlain c then literalString (c :: before) rest else none

/-- The text starts with the end of a line, after blanks. -/
def lineEndsAfterSpace (cs : List Char) : Bool :=
  match skipSpace cs with
  | '\n' :: _ => true
  | '\r' :: '\n' :: _ => true
  | _ => false

/-- The rest of a string between three double quotes. One or two quotes before the closing ones belong to
the string. A backslash at the end of a line leaves out the blanks and line ends that follow; they are
being `skipped` then. -/
def longBasicString (before : List Char) (skipped : Bool) : List Char → Reading
  | [] => none
  | '\"' :: '\"' :: '\"' :: '\"' :: '\"' :: rest => finish ('\"' :: '\"' :: before) rest
  | '\"' :: '\"' :: '\"' :: '\"' :: rest => finish ('\"' :: before) rest
  | '\"' :: '\"' :: '\"' :: rest => finish before rest
  | '\r' :: '\n' :: rest =>
    if skipped then longBasicString before true rest else longBasicString ('\n' :: before) false rest
  | '\n' :: rest =>
    if skipped then longBasicString before true rest else longBasicString ('\n' :: before) false rest
  | '\\' :: 'u' :: a :: b :: c :: d :: rest =>
    match codePoint? [a, b, c, d] with
    | some ch => longBasicString (ch :: before) false rest
    | none => none
  | '\\' :: 'U' :: a :: b :: c :: d :: e :: f :: g :: h :: rest =>
    match codePoint? [a, b, c, d, e, f, g, h] with
    | some ch => longBasicString (ch :: before) false rest
    | none => none
  | '\\' :: e :: rest =>
    match escaped? e with
    | some ch => longBasicString (ch :: before) false rest
    | none => if lineEndsAfterSpace (e :: rest) then longBasicString before true (e :: rest) else none
  | c :: rest =>
    if skipped && isSpace c then longBasicString before true rest
    else if isPlain c && c != '\\' then longBasicString (c :: before) false rest
    else none

/-- The rest of a string between three single quotes, likewise without escapes. -/
def longLiteralString (before : List Char) : List Char → Reading
  | [] => none
  | '\x27' :: '\x27' :: '\x27' :: '\x27' :: '\x27' :: rest => finish ('\x27' :: '\x27' :: before) rest
  | '\x27' :: '\x27' :: '\x27' :: '\x27' :: rest => finish ('\x27' :: before) rest
  | '\x27' :: '\x27' :: '\x27' :: rest => finish before rest
  | '\r' :: '\n' :: rest => longLiteralString ('\n' :: before) rest
  | '\n' :: rest => longLiteralString ('\n' :: before) rest
  | c :: rest => if isPlain c then longLiteralString (c :: before) rest else none

/-- The text without a line end right at its start. -/
def dropLineEnd : List Char → List Char
  | '\n' :: rest => rest
  | '\r' :: '\n' :: rest => rest
  | cs => cs

/-- The string at the front of the text, in any notation. -/
def readString? : List Char → Reading
  | '\"' :: '\"' :: '\"' :: rest => longBasicString [] false (dropLineEnd rest)
  | '\"' :: rest => basicString [] rest
  | '\x27' :: '\x27' :: '\x27' :: rest => longLiteralString [] (dropLineEnd rest)
  | '\x27' :: rest => literalString [] rest
  | _ => none

/-! ## Numbers -/

/-- Digits, with an underscore between two of them at most; the underscores are left out. -/
def moreDigits (isDigit : Char → Bool) : List Char → List Char × List Char
  | '_' :: d :: rest =>
    if isDigit d then
      let (digits, rest) := moreDigits isDigit rest
      (d :: digits, rest)
    else ([], '_' :: d :: rest)
  | d :: rest =>
    if isDigit d then
      let (digits, rest) := moreDigits isDigit rest
      (d :: digits, rest)
    else ([], d :: rest)
  | [] => ([], [])

/-- One or more digits. -/
def someDigits (isDigit : Char → Bool) : Scan (List Char) := fun cs =>
  match cs with
  | d :: rest =>
    if isDigit d then
      let (digits, rest) := moreDigits isDigit rest
      some (d :: digits, rest)
    else none
  | [] => none

/-- A sign, or none. -/
def sign : Scan (List Char) := fun cs =>
  match cs with
  | '+' :: rest => some (['+'], rest)
  | '-' :: rest => some (['-'], rest)
  | _ => some ([], cs)

/-- A decimal integer: a sign, and digits without zeros in front. -/
def decimal : Scan (List Char) := do
  let s ← sign
  let digits ← fun cs => match cs with
    | '0' :: rest => some (['0'], rest)
    | _ => someDigits Char.isDigit cs
  pure (s ++ digits)

/-- The integer, if it fits 64 bits. -/
def bounded (n : Int) : Scan Value :=
  if fitsSigned 64 n then pure (.integer n) else failure

/-- An integer in base `base`, after its letter. -/
def basedInteger (base : Nat) (letter : Char) : Scan Value := do
  Scan.char '0'
  Scan.char letter
  let digits ← someDigits fun c => (JsonText.hexValue? c).any fun n => n < base
  bounded (digits.foldl (fun n c => base * n + (JsonText.hexValue? c).getD 0) 0)

/-- An integer. -/
def integer : Scan Value := do
  let text ← decimal
  match readSigned? 64 text with
  | some n => pure (.integer n)
  | none => failure

/-- An exponent. -/
def exponent : Scan (List Char) := do
  let _ ← Scan.oneOf ['e', 'E']
  let s ← sign
  let digits ← someDigits Char.isDigit
  pure ('e' :: s ++ digits)

/-- A fraction. -/
def fraction : Scan (List Char) := do
  Scan.char '.'
  let digits ← someDigits Char.isDigit
  pure ('.' :: digits)

/-- A number with fraction or exponent. One that rounds to infinity is refused. -/
def real : Scan Value := do
  let whole ← decimal
  let rest ← exponent <|> (do
    let part ← fraction
    let power ← exponent <|> pure []
    pure (part ++ power))
  if Binary64.parse? (String.ofList (whole ++ rest)) = some (.infinity false) then failure
  else pure .real

/-- The names of numbers that have no digits. -/
def namedReal : Scan Value := do
  let _ ← sign
  fun cs => match cs with
    | 'i' :: 'n' :: 'f' :: rest => some (.real, rest)
    | 'n' :: 'a' :: 'n' :: rest => some (.real, rest)
    | _ => none

/-! ## Dates and times -/

/-- A number of two digits, at most `greatest`. -/
def field (greatest : Nat) : Scan Nat := do
  let n ← Scan.number 2
  if n ≤ greatest then pure n else failure

/-- A date of the calendar. -/
def date : Scan Unit := do
  let year ← Scan.number 4
  Scan.char '-'
  let month ← Scan.number 2
  Scan.char '-'
  let day ← Scan.number 2
  if (Date.mk year month day).isValid then pure () else failure

/-- A time of day. -/
def time : Scan Unit := do
  let _ ← field 23
  Scan.char ':'
  let _ ← field 59
  Scan.char ':'
  let _ ← field 60
  (do
    Scan.char '.'
    let _ ← Scan.digits) <|> pure ()

/-- An offset from UTC. -/
def zoneOffset : Scan Unit :=
  (do let _ ← Scan.oneOf ['Z', 'z']) <|> (do
    let _ ← Scan.oneOf ['+', '-']
    let _ ← field 23
    Scan.char ':'
    let _ ← field 59)

/-- A date, a time, or both. -/
def dateTime : Scan Value := do
  (do
    date
    (do
      let _ ← Scan.oneOf ['T', 't', ' ']
      time
      zoneOffset <|> pure ()) <|> pure ()) <|> time
  pure .dateTime

/-- A number, a date or a time. -/
def quantity : Scan Value :=
  dateTime <|> real <|> namedReal <|> basedInteger 16 'x' <|> basedInteger 8 'o' <|>
    basedInteger 2 'b' <|> integer

end SeriesQuery.Toml
