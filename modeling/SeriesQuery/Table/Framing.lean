import SeriesQuery.Text.Utf8

/-!
# Records of a CSV text

Cuts the bytes of a comma-separated text into records of fields. A line feed or a carriage return ends a
record, and empty lines are skipped. Quotes count at the start of a field only: inside them a quote is
written twice, and what follows the closing quote belongs to the field. A byte order mark in front is
dropped.
-/

namespace SeriesQuery

/-- Why the records end early. -/
inductive FramingFault where
  /-- A field is not UTF-8. The record and the field are counted from 0, the line from 1; `byte` is where
  the record before ended, and `index` is the offset in the field. -/
  | notUtf8 (record line byte field index : Nat)
  /-- The bytes could not be read further. -/
  | unreadable (reason : String)
  deriving DecidableEq, Repr

namespace FramingFault

/-- The sentence for the fault. -/
def message : FramingFault → String
  | notUtf8 record line byte field index =>
    "CSV parse error: record " ++ toString record ++ " (line " ++ toString line ++ ", field: " ++
      toString field ++ ", byte: " ++ toString byte ++ "): invalid utf-8: invalid UTF-8 in field " ++
      toString field ++ " near byte index " ++ toString index
  | unreadable reason => reason

end FramingFault

/-- The fields of a record. -/
abbrev Record := List String

namespace Framing

/-- Where a byte stands. -/
inductive Place where
  /-- At the start of a line. -/
  | lineStart
  /-- At the start of a field that is not the first. -/
  | fieldStart
  /-- Inside a field, outside quotes. -/
  | bare
  /-- Inside quotes. -/
  | quotes
  /-- After a quote inside quotes. -/
  | quoteInQuotes
  deriving DecidableEq, Repr

/-- What is known between two bytes. Bytes and fields are kept the last one first. -/
structure State where
  place : Place := .lineStart
  /-- The bytes of the field so far. -/
  field : List UInt8 := []
  /-- The finished fields of the record. -/
  fields : List (List UInt8) := []
  /-- The finished records. -/
  records : Nat := 0
  /-- The bytes taken. -/
  byte : Nat := 0
  /-- The line of the next byte. -/
  line : Nat := 1
  /-- Line and byte at the end of the record before. -/
  start : Nat × Nat := (1, 0)

/-- The bytes of a record. -/
abbrev RawRecord := List (List UInt8)

/-- The comma. -/
def comma : UInt8 := 0x2C

/-- The double quote. -/
def quote : UInt8 := 0x22

/-- The byte ends a line. -/
def endsLine (b : UInt8) : Bool := b == 0x0A || b == 0x0D

/-- Adds the byte to the field. -/
def State.push (s : State) (b : UInt8) (place : Place) : State :=
  { s with field := b :: s.field, place := place }

/-- Ends the field. -/
def State.endField (s : State) : State :=
  { s with field := [], fields := s.field.reverse :: s.fields, place := .fieldStart }

/-- The record with the field at hand as its last. -/
def State.record (s : State) : RawRecord := (s.field.reverse :: s.fields).reverse

/-- Ends the record. -/
def State.endRecord (s : State) : State :=
  { s with
    field := [], fields := [], place := .lineStart
    records := s.records + 1, start := (s.line, s.byte) }

/-- Counts a byte. -/
def State.count (s : State) (b : UInt8) : State :=
  { s with byte := s.byte + 1, line := if b == 0x0A then s.line + 1 else s.line }

/-- What a byte does after an unquoted part of a field, and whether it ends the record. -/
def State.unquoted (s : State) (b : UInt8) : State × Bool :=
  if b == comma then (s.endField, false)
  else if endsLine b then (s, true)
  else (s.push b .bare, false)

/-- What a byte does, and whether it ends the record. -/
def State.step (s : State) (b : UInt8) : State × Bool :=
  match s.place with
  | .lineStart =>
    if endsLine b then (s, false)
    else if b == quote then ({ s with place := .quotes }, false)
    else s.unquoted b
  | .fieldStart => if b == quote then ({ s with place := .quotes }, false) else s.unquoted b
  | .bare => s.unquoted b
  | .quotes =>
    if b == quote then ({ s with place := .quoteInQuotes }, false) else (s.push b .quotes, false)
  | .quoteInQuotes => if b == quote then (s.push b .quotes, false) else s.unquoted b

/-- The texts of the fields, from the one with the given index on. -/
def texts (record line byte index : Nat) : RawRecord → Except FramingFault Record
  | [] => .ok []
  | bytes :: rest => do
    match Text.decodeUtf8 bytes with
    | .ok text => return text :: (← texts record line byte (index + 1) rest)
    | .error offset => throw (.notUtf8 record line byte index offset)

/-- The record that ends in this state. -/
def State.emit (s : State) : Except FramingFault Record :=
  texts s.records s.start.1 s.start.2 0 s.record

/-- The records of the bytes from a state on. When the bytes cannot be read to their end, that is the last
thing reported, in place of a record that has begun. -/
def recordsFrom (failure : Option String) (s : State) :
    List UInt8 → List (Except FramingFault Record)
  | [] =>
    match failure with
    | some reason => [.error (.unreadable reason)]
    | none => if s.place = .lineStart then [] else [s.emit]
  | b :: rest =>
    let (next, ended) := (s.count b).step b
    if ended then next.emit :: recordsFrom failure next.endRecord rest
    else recordsFrom failure next rest

/-- The bytes after a byte order mark, and the length of the mark. -/
def dropMark : List UInt8 → List UInt8 × Nat
  | 0xEF :: 0xBB :: 0xBF :: rest => (rest, 3)
  | bytes => (bytes, 0)

/-- The records of the bytes, in order. `failure` is why the source of the bytes fails after them, if it
does. -/
def records (bytes : List UInt8) (failure : Option String) : List (Except FramingFault Record) :=
  let (content, mark) := dropMark bytes
  recordsFrom failure { byte := mark } content

end Framing

end SeriesQuery
