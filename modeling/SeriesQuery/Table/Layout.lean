import SeriesQuery.Table.Cell
import SeriesQuery.Table.StoreError

/-!
# Table layouts

An annotated result holds tables. A table starts with annotation records, whose first cell starts with
`#`, and a header record, whose first two cells are empty and `result` (or `error`). The other records are
data. The layout says how the cells of a data record are read.
-/

namespace SeriesQuery

/-- The annotations and the header of a table. -/
structure Layout where
  datatypes : Record := []
  defaults : Record := []
  header : Option Record := none
  deriving DecidableEq, Repr

namespace Layout

/-- The column whose cells are the times of the rows. -/
def timeColumn : String := "_time"

/-- Columns that hold times when no datatypes are given. -/
def timeColumns : List String := ["_start", "_stop", timeColumn]

/-- The column that holds the message of an error table. -/
def errorColumn : String := "error"

/-- The record is an annotation. -/
def isRemark (record : Record) : Bool := ((record.head?.getD "").toList.head?) == some '#'

/-- The record is a header. -/
def isHeader (record : Record) : Bool :=
  record[0]? == some "" && (record[1]? == some "result" || record[1]? == some errorColumn)

/-- A layout without header, to be filled; one with a header belongs to the table before. -/
def fresh (l : Layout) : Layout := if l.header.isSome then {} else l

/-- The layout after an annotation. -/
def remark (l : Layout) (record : Record) : Layout :=
  match record.head?.getD "" with
  | "#datatype" => { l.fresh with datatypes := record }
  | "#default" => { l.fresh with defaults := record }
  | _ => l.fresh

/-- The layout after a header. -/
def withHeader (l : Layout) (record : Record) : Layout := { l.fresh with header := some record }

/-- The datatype of a column. -/
def datatype (l : Layout) (index : Nat) (column : String) : String :=
  match l.datatypes[index]? with
  | some datatype => datatype
  | none => if column ∈ timeColumns then "dateTime:RFC3339" else "string"

/-- The text of the cell in a column; an empty one is replaced by the default. -/
def cellText (l : Layout) (record : Record) (index : Nat) : String :=
  let text := record[index]?.getD ""
  if text = "" then l.defaults[index]?.getD "" else text

/-- The present cells of the columns from `index` on, in order. The leftmost bad cell is an error. -/
def cells (l : Layout) (record : Record) (index : Nat) :
    List String → Except StoreError (List (String × Cell))
  | [] => .ok []
  | column :: columns => do
    let text := l.cellText record index
    if text = "" then l.cells record (index + 1) columns
    else
      let datatype := l.datatype index column
      match Cell.read? datatype text with
      | none => throw (.badCell text datatype)
      | some cell => return (column, cell) :: (← l.cells record (index + 1) columns)

/-- The time in a cell of the time column. -/
def timeOf? : String × Cell → Option Instant
  | (column, .time t) => if column = timeColumn then some t else none
  | _ => none

/-- The row of a data record. The first column carries no data. -/
def row (l : Layout) (record : Record) : Except StoreError Row :=
  match l.header with
  | none => .error .rowBeforeHeader
  | some header =>
    match header.idxOf? errorColumn with
    | some index => .error (.failed (record[index]?.getD ""))
    | none => do
      let cells ← l.cells record 1 (header.drop 1)
      match (cells.filterMap timeOf?).getLast? with
      | none => throw .rowWithoutTime
      | some time => return Row.ofCells time cells

end Layout

end SeriesQuery
