import SeriesQuery.Query.Basic

/-!
# Scripts

The pipeline that the store runs for a query, one stage a line: source, range, measurement, fields,
tags, window, grouping, projection. Values stand in double quotes as they are: a caller keeps texts
with a double quote out of a query.
-/

namespace SeriesQuery.Script

/-- A text in double quotes, without escapes. -/
def literal (text : String) : String := "\"" ++ text ++ "\""

/-- The bucket to read from. -/
def source (bucket : String) : String := "from(bucket: " ++ literal bucket ++ ")"

/-- The bounds of the range, as written. -/
def range (r : TimeRange) : String :=
  " |> range(start: " ++ r.start ++ ", stop: " ++ r.stop ++ ")"

/-- Keeps the rows that satisfy a predicate. -/
def filter (predicate : String) : String := " |> filter(fn: (r) => " ++ predicate ++ ")"

/-- Column `column` of a row equals `value`. -/
def equals (column value : String) : String := "r." ++ column ++ " == " ++ literal value

/-- Keeps one measurement. -/
def measurement (name : String) : String := filter (equals "_measurement" name)

/-- Keeps any of the fields. -/
def field (names : List String) : String :=
  filter (" or ".intercalate (names.map (equals "_field")))

/-- Keeps the rows with all of the tags. -/
def tags? (filters : List TagFilter) : Option String :=
  if filters = [] then none
  else some (filter (" and ".intercalate (filters.map fun f => equals f.key f.value)))

/-- Reduces windows. -/
def window? (a : Aggregation) : Option String :=
  if a.enabled then
    some (" |> aggregateWindow(every: " ++ a.every ++ ", fn: " ++ a.reducer ++ ", createEmpty: " ++
      (if a.createEmpty then "true" else "false") ++ ")")
  else none

/-- The columns that tell series apart. -/
def groupColumns : List String := ["sensor_mac", "sensor_type", "receive_no"]

/-- The columns that samples are made from. -/
def keptColumns : List String := ["_value", "_time", "sensor_type", "sensor_mac"]

/-- Puts the rows of a series together. -/
def group : String :=
  " |> group(columns: [" ++ ", ".intercalate (groupColumns.map literal) ++ "])"

/-- Drops the other columns. -/
def projection : String :=
  " |> drop(fn: (column) => " ++
    " and ".intercalate (keptColumns.map fun c => "column != " ++ literal c) ++ ")"

/-- The stages of the query, in order. -/
def stages (q : Query) : List String :=
  [source q.bucket, range q.range, measurement q.measurement, field q.fields] ++
    (tags? q.filters).toList ++ (window? q.aggregation).toList ++ [group, projection]

/-- The whole script. -/
def render (q : Query) : String := "\n".intercalate (stages q)

end SeriesQuery.Script
