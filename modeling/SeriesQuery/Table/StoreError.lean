import SeriesQuery.Table.Framing
import SeriesQuery.Text.Quoted

/-!
# What can go wrong in the store
-/

namespace SeriesQuery

/-- Why the store, or the result it sends, fails. -/
inductive StoreError where
  | connection (reason : String)
  | rejected (reason : String)
  | failed (reason : String)
  | malformedResult (reason : String)
  | io (reason : String)
  | framing (fault : FramingFault)
  deriving DecidableEq, Repr

namespace StoreError

/-- The sentence for the error. -/
def message : StoreError → String
  | connection reason => "Connection error: " ++ reason
  | rejected reason => "Query rejected: " ++ reason
  | failed reason => "Query failed: " ++ reason
  | malformedResult reason => "Malformed result: " ++ reason
  | io reason => "IO error: " ++ reason
  | framing fault => "CSV error: " ++ fault.message

/-- The error behind the error, if there is one. -/
def causes : StoreError → List String
  | io reason => [reason]
  | framing fault => [fault.message]
  | _ => []

/-- A data row that no header precedes in its table. -/
def rowBeforeHeader : StoreError := malformedResult "data row before header"

/-- A row without a cell that tells its time. -/
def rowWithoutTime : StoreError := malformedResult "row has no _time timestamp"

/-- A cell that does not have the datatype of its column. -/
def badCell (text datatype : String) : StoreError :=
  malformedResult ("cannot read " ++ Text.quoted text ++ " as " ++ datatype)

end StoreError

end SeriesQuery
