import SeriesQuery.Calendar.Timestamp
import SeriesQuery.Calendar.Zone
import SeriesQuery.Query.Basic

/-!
# Sensor requests

The request of a dashboard: a measurement, two wall-clock times, a window, and filters on the tags of
a sensor. It becomes a query with UTC bounds that takes the mean of `value`.
-/

namespace SeriesQuery

/-- Filters on the tags of a sensor; each may be left out. -/
structure SensorFilter where
  projectId : Option String := none
  sensorMac : Option String := none
  sensorType : Option String := none
  receiveNo : Option String := none
  deriving DecidableEq, Repr

namespace SensorFilter

/-- The tag columns with what is asked of them, in the order of the clauses. -/
def columns (f : SensorFilter) : List (String × Option String) :=
  [("project_id", f.projectId), ("sensor_mac", f.sensorMac), ("sensor_type", f.sensorType),
    ("receive_no", f.receiveNo)]

/-- The filters that were supplied. -/
def tagFilters (f : SensorFilter) : List TagFilter :=
  f.columns.filterMap fun (column, value) => value.map (⟨column, ·⟩)

/-- The first column without a value, if any; with all four the request names one series. -/
def requireComplete (f : SensorFilter) : Except QueryError Unit :=
  match f.columns.find? fun (_, value) => value.getD "" = "" with
  | some (column, _) => .error (.emptyRequiredField column)
  | none => .ok ()

end SensorFilter

/-- A request for one measurement between two wall-clock times. -/
structure SensorRequest where
  measurement : String
  start : String
  stop : String
  interval : String
  filter : SensorFilter := {}
  deriving DecidableEq, Repr

namespace SensorRequest

/-- The query of the request over the given range. -/
def queryOver (r : SensorRequest) (bucket : String) (range : TimeRange) : Query where
  bucket := bucket
  measurement := r.measurement
  fields := ["value"]
  filters := r.filter.tagFilters
  aggregation := Aggregation.ofWindow r.interval .mean
  range := range

/-- The canonical UTC text of a wall-clock time, by whichever rule a zone places it. -/
def utcTextBy (locate : Instant → Option Instant) (text : String) : Except QueryError String :=
  match (WallClock.parse? text).bind locate with
  | some t => .ok (Timestamp.render t)
  | none => .error (.malformedTime text)

/-- The query for the request, by whichever rule a zone places wall-clock times. -/
def toQueryBy (r : SensorRequest) (bucket : String) (locate : Instant → Option Instant) :
    Except QueryError Query := do
  let start ← utcTextBy locate r.start
  let stop ← utcTextBy locate r.stop
  return r.queryOver bucket ⟨start, stop⟩

/-- The canonical UTC text of a wall-clock time in a zone. A time that the clock shows twice is taken
the first time round. -/
def utcText (text : String) (zone : Zone) : Except QueryError String := utcTextBy zone.earliest? text

/-- The query for the request in a zone. -/
def toQuery (r : SensorRequest) (bucket : String) (zone : Zone) : Except QueryError Query :=
  r.toQueryBy bucket zone.earliest?

end SensorRequest

end SeriesQuery
