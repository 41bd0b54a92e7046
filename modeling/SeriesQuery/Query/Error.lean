import SeriesQuery.Text.Quoted

/-!
# What can be wrong with a query

The causes, and one sentence for each.
-/

namespace SeriesQuery

/-- Why a query, its time expressions or its result is refused. -/
inductive QueryError where
  | malformedTime (text : String)
  | futureTime (text : String)
  | nonPositiveDuration (text : String)
  | emptyRequiredField (name : String)
  | invalidAggregateFunction (name : String)
  | invalidRange (reason : String)
  | unsupportedValueType (column found : String)
  | brokenStream (reason : String)
  deriving DecidableEq, Repr

namespace QueryError

/-- A filter whose key or value is empty. -/
def emptyFilter (key value : String) : QueryError :=
  emptyRequiredField ("filter key(value) " ++ Text.quoted key ++ "=" ++ Text.quoted value)

/-- The sentence for the cause. -/
def message : QueryError → String
  | malformedTime text => "Malformed time expression: " ++ text
  | futureTime text => "Time must be before now: " ++ text
  | nonPositiveDuration text => "Duration must be positive: " ++ text
  | emptyRequiredField name => "Required field is empty: " ++ name
  | invalidAggregateFunction name =>
    "Invalid aggregate function: " ++ name ++ " (expected mean or median)"
  | invalidRange reason => "Invalid range: " ++ reason
  | unsupportedValueType column found =>
    "Unsupported value type in column " ++ column ++ ": " ++ found
  | brokenStream reason => "Query parsing error: " ++ reason

end QueryError

end SeriesQuery
