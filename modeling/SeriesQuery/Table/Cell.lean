import SeriesQuery.Calendar.Timestamp
import SeriesQuery.Number.Numeral

/-!
# Cells and rows

A row has a time and named cells; a cell holds a number, a flag, a text or a time. Cells are read from
text by the datatype of their column.
-/

namespace SeriesQuery

/-- The value of a cell. -/
inductive Cell where
  | float32 (x : Binary32)
  | float64 (x : Binary64)
  | int64 (n : Int)
  | uint64 (n : Nat)
  | boolean (value : Bool)
  | string (text : String)
  | time (t : Instant)
  deriving DecidableEq, Repr

namespace Cell

/-- The name of the type of the value. -/
def typeName : Cell → String
  | float32 _ => "float32"
  | float64 _ => "float64"
  | int64 _ => "int64"
  | uint64 _ => "uint64"
  | boolean _ => "bool"
  | string _ => "string"
  | time _ => "time"

/-- The value that a text has at a datatype. Datatypes that are not known are texts. -/
def read? (datatype text : String) : Option Cell :=
  match datatype with
  | "double" => (Binary64.parse? text).map float64
  | "long" => (Text.readSigned? 64 text.toList).map int64
  | "unsignedLong" => (Text.readUnsigned? 64 text.toList).map uint64
  | "boolean" =>
    if text = "true" then some (boolean true)
    else if text = "false" then some (boolean false)
    else none
  | "dateTime:RFC3339" => (Timestamp.parseRfc3339? text).map time
  | "dateTime:RFC3339Nano" => (Timestamp.parseRfc3339? text).map time
  | _ => some (string text)

end Cell

/-- A row of a result. A column has one cell at most: the one that was set last. -/
structure Row where
  time : Instant
  cells : List (String × Cell) := []
  deriving DecidableEq, Repr

namespace Row

/-- Sets the cell of a column. -/
def set (r : Row) (column : String) (cell : Cell) : Row :=
  { r with cells := r.cells.filter (·.1 ≠ column) ++ [(column, cell)] }

/-- The cell of a column. -/
def get? (r : Row) (column : String) : Option Cell := r.cells.lookup column

/-- The row with the given cells, set in order. -/
def ofCells (time : Instant) (cells : List (String × Cell)) : Row :=
  cells.foldl (fun row (column, cell) => row.set column cell) { time := time }

end Row

end SeriesQuery
