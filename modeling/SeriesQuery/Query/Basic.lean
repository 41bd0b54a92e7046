import SeriesQuery.Query.TimeExpr

/-!
# Queries

A query selects fields of one measurement over a time range, filters by tags, and may reduce windows
of rows. `Query.validate` finds the first rule that a query breaks. A query can be built step by step:
without a field it selects `value`, and without a range it covers the last hour.
-/

namespace SeriesQuery

/-- A tag column must equal a value. -/
structure TagFilter where
  key : String
  value : String
  deriving DecidableEq, Repr

/-- How a window of rows becomes one row. -/
inductive Reducer where
  | mean
  | median
  deriving DecidableEq, Repr

namespace Reducer

/-- The name of the reducer in a script. -/
def name : Reducer → String
  | mean => "mean"
  | median => "median"

/-- The reducer with the given name. -/
def ofName (text : String) : Except QueryError Reducer :=
  match text with
  | "mean" => .ok mean
  | "median" => .ok median
  | _ => .error (.invalidAggregateFunction text)

end Reducer

/-- Windowed aggregation. Window and reducer are kept as written and checked with the query. -/
structure Aggregation where
  enabled : Bool := false
  every : String := ""
  reducer : String := ""
  createEmpty : Bool := false
  deriving DecidableEq, Repr

namespace Aggregation

/-- An enabled aggregation that leaves out empty windows. -/
def ofWindow (window : String) (reducer : Reducer) : Aggregation :=
  { enabled := true, every := window, reducer := reducer.name }

/-- An enabled aggregation has a known reducer and a window. -/
def validate (a : Aggregation) : Except QueryError Unit := do
  if a.enabled then
    let _ ← Reducer.ofName a.reducer
    let _ ← Duration.parseWindow a.every

end Aggregation

/-- A time range, from `start` on and before `stop`, as written. -/
structure TimeRange where
  start : String
  stop : String
  deriving DecidableEq, Repr

namespace TimeRange

/-- The range from `start` up to now. -/
def since (start : String) : TimeRange := ⟨start, TimeExpr.nowText⟩

/-- The last hour. -/
def lastHour : TimeRange := since "-1h"

/-- The instants of both bounds at one and the same now, in order. -/
def resolve (r : TimeRange) (current : Instant) : Except QueryError (Instant × Instant) := do
  if r.start = "" then throw (.invalidRange "start could not be empty")
  if r.stop = "" then throw (.invalidRange "stop could not be empty")
  let start ← TimeExpr.resolve r.start current
  let stop ← TimeExpr.resolve r.stop current
  if start < stop then return (start, stop)
  else throw (.invalidRange ("start " ++ r.start ++ " should be before stop " ++ r.stop))

end TimeRange

/-- A query for time series. Fields are alternatives, filters all hold. -/
structure Query where
  bucket : String
  measurement : String
  fields : List String
  filters : List TagFilter := []
  aggregation : Aggregation := {}
  range : TimeRange
  deriving DecidableEq, Repr

namespace Query

/-- No filter has an empty key or value. -/
def checkFilters : List TagFilter → Except QueryError Unit
  | [] => .ok ()
  | f :: rest =>
    if f.key = "" ∨ f.value = "" then .error (.emptyFilter f.key f.value) else checkFilters rest

/-- The first rule that the query breaks at `current`, if any. -/
def validate (q : Query) (current : Instant) : Except QueryError Unit := do
  if q.bucket = "" then throw (.emptyRequiredField "bucket")
  if q.measurement = "" then throw (.emptyRequiredField "measurement")
  if q.fields = [] then throw (.emptyRequiredField "fields")
  checkFilters q.filters
  q.aggregation.validate
  let _ ← q.range.resolve current

end Query

/-! ## Building queries step by step -/

/-- A query in the making. -/
structure QueryBuilder where
  bucket : String
  measurement : String
  fields : List String := []
  filters : List TagFilter := []
  aggregation : Aggregation := {}
  range : TimeRange := TimeRange.lastHour
  deriving DecidableEq, Repr

namespace QueryBuilder

/-- Selects one more field. -/
def field (b : QueryBuilder) (name : String) : QueryBuilder :=
  { b with fields := b.fields ++ [name] }

/-- Adds a tag filter. -/
def filter (b : QueryBuilder) (key value : String) : QueryBuilder :=
  { b with filters := b.filters ++ [⟨key, value⟩] }

/-- Sets the aggregation. -/
def aggregate (b : QueryBuilder) (a : Aggregation) : QueryBuilder := { b with aggregation := a }

/-- Sets the range. -/
def within (b : QueryBuilder) (r : TimeRange) : QueryBuilder := { b with range := r }

/-- The query so far. -/
def build (b : QueryBuilder) : Query where
  bucket := b.bucket
  measurement := b.measurement
  fields := if b.fields = [] then ["value"] else b.fields
  filters := b.filters
  aggregation := b.aggregation
  range := b.range

end QueryBuilder

end SeriesQuery
