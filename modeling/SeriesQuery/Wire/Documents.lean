import SeriesQuery.Json.Decode
import SeriesQuery.Json.Writer
import SeriesQuery.Query.SensorRequest
import SeriesQuery.Sample

/-!
# Documents of queries, requests and samples

The JSON documents of the records of the library, for reading (`shape`) and for writing (`toJson`). The
names of the records are those that messages show.
-/

namespace SeriesQuery

open Json

/-! ## Queries -/

namespace TagFilter

/-- The record of a tag filter. -/
def shape : Shape TagFilter where
  name := "KeyValue"
  blank := ⟨"", ""⟩
  fields := [
    .of "key" .required readString fun text f => { f with key := text },
    .of "value" .required readString fun text f => { f with value := text }]

/-- The document of a tag filter. -/
def toJson (f : TagFilter) : Json :=
  ofMembers [("key", ofText f.key), ("value", ofText f.value)]

end TagFilter

namespace Reducer

/-- The reducer with the given name in a document. -/
def ofVariant (name : String) : Except JsonFault Reducer :=
  match Reducer.ofName name with
  | .ok r => .ok r
  | .error _ =>
    .error (.unknownVariant name
      (JsonFault.named Reducer.mean.name ++ " or " ++ JsonFault.named Reducer.median.name))

/-- A reducer is written as its name, or as an object with its name and null. -/
def ofJson : Json → Except JsonFault Reducer
  | .string (some name) => ofVariant name
  | .object (.cons name value rest) => do
    let reducer ← match name with
      | .string (some text) => ofVariant text
      | tree => tree.mismatch "variant identifier"
    match value with
    | .null => pure ()
    | tree => tree.mismatch "unit"
    match rest with
    | .done => return reducer
    | _ => throw .malformed
  | _ => .error .malformed

/-- The document of a reducer. -/
def toJson (r : Reducer) : Json := ofText r.name

end Reducer

namespace Aggregation

/-- The record of an aggregation. -/
def shape : Shape Aggregation where
  name := "Aggregate"
  blank := {}
  fields := [
    { Field.of "enable" .defaulted readBool fun flag a => { a with enabled := flag } with
      aliases := ["enabled"] },
    .of "every" .defaulted readString fun text a => { a with every := text },
    .of "fn" .defaulted readString fun text a => { a with reducer := text },
    .of "create_empty" .defaulted readBool fun flag a => { a with createEmpty := flag }]

/-- The document of an aggregation. -/
def toJson (a : Aggregation) : Json :=
  ofMembers [("enable", .boolean a.enabled), ("every", ofText a.every), ("fn", ofText a.reducer),
    ("create_empty", .boolean a.createEmpty)]

end Aggregation

namespace TimeRange

/-- The record of a range. -/
def shape : Shape TimeRange where
  name := "Range"
  blank := ⟨"", ""⟩
  fields := [
    .of "start" .required readString fun text r => { r with start := text },
    .of "stop" .required readString fun text r => { r with stop := text }]

/-- The document of a range. -/
def toJson (r : TimeRange) : Json :=
  ofMembers [("start", ofText r.start), ("stop", ofText r.stop)]

end TimeRange

namespace Query

/-- The record of a query. -/
def shape : Shape Query where
  name := "QuerySpec"
  blank := { bucket := "", measurement := "", fields := [], range := ⟨"", ""⟩ }
  fields := [
    .of "bucket" .required readString fun text q => { q with bucket := text },
    .of "measurement" .required readString fun text q => { q with measurement := text },
    .of "fields" .required (readList readString) fun names q => { q with fields := names },
    .of "filters" .defaulted (readList TagFilter.shape.read) fun fs q => { q with filters := fs },
    .of "aggregate" .defaulted Aggregation.shape.read fun a q => { q with aggregation := a },
    .of "range" .required TimeRange.shape.read fun r q => { q with range := r }]

/-- The document of a query. -/
def toJson (q : Query) : Json :=
  ofMembers [("bucket", ofText q.bucket), ("measurement", ofText q.measurement),
    ("fields", ofItems (q.fields.map ofText)), ("filters", ofItems (q.filters.map TagFilter.toJson)),
    ("aggregate", q.aggregation.toJson), ("range", q.range.toJson)]

end Query

/-! ## Sensor requests -/

namespace SensorFilter

/-- The record of a sensor filter. -/
def shape : Shape SensorFilter where
  name := "SensorFilter"
  blank := {}
  fields := [
    .of "project_id" .defaulted (readOptional readString) fun v f => { f with projectId := v },
    .of "sensor_mac" .defaulted (readOptional readString) fun v f => { f with sensorMac := v },
    .of "sensor_type" .defaulted (readOptional readString) fun v f => { f with sensorType := v },
    .of "receive_no" .defaulted (readOptional readString) fun v f => { f with receiveNo := v }]

/-- The document of a sensor filter. -/
def toJson (f : SensorFilter) : Json :=
  ofMembers [("project_id", ofText? f.projectId), ("sensor_mac", ofText? f.sensorMac),
    ("sensor_type", ofText? f.sensorType), ("receive_no", ofText? f.receiveNo)]

end SensorFilter

namespace SensorRequest

/-- The record of a sensor request. -/
def shape : Shape SensorRequest where
  name := "SensorQueryRequest"
  blank := { measurement := "", start := "", stop := "", interval := "" }
  fields := [
    .of "measurement" .required readString fun text r => { r with measurement := text },
    .of "start" .required readString fun text r => { r with start := text },
    .of "stop" .required readString fun text r => { r with stop := text },
    .of "interval" .required readString fun text r => { r with interval := text },
    .of "filter" .defaulted SensorFilter.shape.read fun f r => { r with filter := f }]

/-- The document of a sensor request. -/
def toJson (r : SensorRequest) : Json :=
  ofMembers [("measurement", ofText r.measurement), ("start", ofText r.start),
    ("stop", ofText r.stop), ("interval", ofText r.interval), ("filter", r.filter.toJson)]

end SensorRequest

/-! ## Samples -/

namespace Sample

/-- The instant of a timestamp in a document. -/
def readTime : Json → Except JsonFault Instant
  | .string (some text) =>
    match Timestamp.parseLoose? text with
    | some t => .ok t
    | none => .error .invalidValue
  | tree => tree.mismatch "an RFC 3339 formatted date and time string"

/-- The record of a sample. -/
def shape : Shape Sample where
  name := "Sample"
  blank := ⟨⟨0, 0⟩, none, ""⟩
  fields := [
    .of "time" .required readTime fun t s => { s with time := t },
    .of "value" .nullable (readOptional readReal) fun x s => { s with value := x },
    .of "field_tag" .required readString fun text s => { s with tag := text }]

/-- The document of a sample. -/
def toJson (s : Sample) : Json :=
  ofMembers [("time", ofText (Timestamp.renderExact s.time)),
    ("value", (s.value.map fun x => number (some (.real x))).getD null), ("field_tag", ofText s.tag)]

end Sample

end SeriesQuery
