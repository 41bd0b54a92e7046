import SeriesQuery.Proofs.Json.Records
import SeriesQuery.Proofs.Json.Trees
import SeriesQuery.Wire.Documents

/-!
# Documents keep what they hold

Queries, sensor requests and their parts are read back from the texts written for them. Readers accept
more texts than are written: fields in any order or left out, under other names, next to unknown ones, or
in an array. Writing the value of such a text loses nothing either, and settles its form (`wireLossless`).
-/

namespace SeriesQuery

open Json Json.Shape

namespace Json

variable {α : Type}

/-- The text written for the value of a text. -/
def settle (read : Json → Except JsonFault α) (toJson : α → Json) (text : String) :
    Except JsonFault String :=
  (fun v => compact (toJson v)) <$> decode read text

/-- Each value is read back from its text. The text written for the value of an accepted text has the same
value, and is the text written for it. -/
structure Lossless (read : Json → Except JsonFault α) (toJson : α → Json) : Prop where
  decode_compact : ∀ v, decode read (compact (toJson v)) = .ok v
  settle_settle : ∀ text again, settle read toJson text = .ok again →
    decode read again = decode read text ∧ settle read toJson again = .ok again

/-! ## Documents of texts -/

/-- The tree of a text is plain. -/
theorem isPlain_ofText (text : String) : (ofText text).IsPlain := Option.some_ne_none text

theorem isPlain_ofText? (text : Option String) : (ofText? text).IsPlain := by
  cases text with
  | none => trivial
  | some text => exact isPlain_ofText text

/-- The tree of a list is plain if its items are. -/
theorem isPlain_ofItems {items : List Json} (h : ∀ item ∈ items, item.IsPlain) :
    (ofItems items).IsPlain := by
  have hlist : (JsonItems.ofList items).IsPlain := by
    induction items with
    | nil => trivial
    | cons item rest ih =>
        obtain ⟨hitem, hrest⟩ := List.forall_mem_cons.1 h
        exact ⟨hitem, ih hrest⟩
  exact hlist

/-- The tree of an object is plain if its members are. -/
theorem isPlain_ofMembers {members : List (String × Json)} (h : ∀ m ∈ members, m.2.IsPlain) :
    (ofMembers members).IsPlain := by
  have hlist : (JsonMembers.ofList members).IsPlain := by
    induction members with
    | nil => trivial
    | cons m rest ih =>
        obtain ⟨hvalue, hrest⟩ := List.forall_mem_cons.1 h
        exact ⟨hvalue, ih hrest⟩
  exact hlist

/-- For a lossless type it is enough that documents are read back. -/
theorem lossless_of {read : Json → Except JsonFault α} {toJson : α → Json}
    (hplain : ∀ v, (toJson v).IsPlain) (hread : ∀ v, read (toJson v) = .ok v) :
    Lossless read toJson := by
  have hdecode : ∀ v, decode read (compact (toJson v)) = .ok v := by
    intro v
    rw [decode, parse_compact (hplain v)]
    simp only [hread]
    rfl
  refine ⟨hdecode, fun text again h => ?_⟩
  cases hvalue : decode read text with
  | error e =>
      rw [settle, hvalue] at h
      exact nomatch h
  | ok v =>
      rw [settle, hvalue] at h
      obtain rfl : compact (toJson v) = again := Except.ok.inj h
      rw [settle, hdecode]
      exact ⟨rfl, rfl⟩

end Json

/-! ## Each record -/

/-- A filter is read back from its tree. -/
theorem TagFilter.read_toJson (f : TagFilter) : shape.read f.toJson = .ok f :=
  read_ofMembers shape (by decide) [ofText f.key, ofText f.value] rfl

/-- A range is read back from its tree. -/
theorem TimeRange.read_toJson (r : TimeRange) : shape.read r.toJson = .ok r :=
  read_ofMembers shape (by decide) [ofText r.start, ofText r.stop] rfl

/-- An aggregation is read back from its tree. -/
theorem Aggregation.read_toJson (a : Aggregation) : shape.read a.toJson = .ok a :=
  read_ofMembers shape (by decide)
    [boolean a.enabled, ofText a.every, ofText a.reducer, boolean a.createEmpty] rfl

/-- The filter of a request is read back from its tree, missing texts included. -/
theorem SensorFilter.read_toJson (f : SensorFilter) : shape.read f.toJson = .ok f := by
  refine (read_ofMembers shape (by decide)
    [ofText? f.projectId, ofText? f.sensorMac, ofText? f.sensorType, ofText? f.receiveNo] rfl).trans ?_
  unfold shape
  rw [fill_of (readOptional_ofText? _), fill_of (readOptional_ofText? _),
    fill_of (readOptional_ofText? _), fill_of (readOptional_ofText? _)]
  rfl

/-- A request is read back from its tree. -/
theorem SensorRequest.read_toJson (r : SensorRequest) : shape.read r.toJson = .ok r := by
  refine (read_ofMembers shape (by decide)
    [ofText r.measurement, ofText r.start, ofText r.stop, ofText r.interval, r.filter.toJson] rfl).trans ?_
  unfold shape
  rw [fill_of (readString_ofText _), fill_of (readString_ofText _), fill_of (readString_ofText _),
    fill_of (readString_ofText _), fill_of (SensorFilter.read_toJson _)]
  rfl

/-- A query is read back from its tree. -/
theorem Query.read_toJson (q : Query) : shape.read q.toJson = .ok q := by
  refine (read_ofMembers shape (by decide)
    [ofText q.bucket, ofText q.measurement, ofItems (q.fields.map ofText),
        ofItems (q.filters.map TagFilter.toJson), q.aggregation.toJson, q.range.toJson] rfl).trans ?_
  unfold shape
  rw [fill_of (readString_ofText _), fill_of (readString_ofText _),
    fill_of (readList_ofItems readString_ofText _),
    fill_of (readList_ofItems TagFilter.read_toJson _), fill_of (Aggregation.read_toJson _),
    fill_of (TimeRange.read_toJson _)]
  rfl

theorem TagFilter.isPlain_toJson (f : TagFilter) : f.toJson.IsPlain := by
  apply isPlain_ofMembers
  simp only [List.forall_mem_cons, isPlain_ofText, true_and]
  exact List.forall_mem_nil _

theorem TimeRange.isPlain_toJson (r : TimeRange) : r.toJson.IsPlain := by
  apply isPlain_ofMembers
  simp only [List.forall_mem_cons, isPlain_ofText, true_and]
  exact List.forall_mem_nil _

theorem Aggregation.isPlain_toJson (a : Aggregation) : a.toJson.IsPlain := by
  have hflag : ∀ value, (boolean value).IsPlain := fun _ => trivial
  apply isPlain_ofMembers
  simp only [List.forall_mem_cons, isPlain_ofText, hflag, true_and]
  exact List.forall_mem_nil _

theorem SensorFilter.isPlain_toJson (f : SensorFilter) : f.toJson.IsPlain := by
  apply isPlain_ofMembers
  simp only [List.forall_mem_cons, isPlain_ofText?, true_and]
  exact List.forall_mem_nil _

theorem SensorRequest.isPlain_toJson (r : SensorRequest) : r.toJson.IsPlain := by
  apply isPlain_ofMembers
  simp only [List.forall_mem_cons, isPlain_ofText, r.filter.isPlain_toJson, true_and]
  exact List.forall_mem_nil _

theorem Query.isPlain_toJson (q : Query) : q.toJson.IsPlain := by
  have hfields : (ofItems (q.fields.map ofText)).IsPlain :=
    isPlain_ofItems (List.forall_mem_map.2 fun f _ => isPlain_ofText f)
  have hfilters : (ofItems (q.filters.map TagFilter.toJson)).IsPlain :=
    isPlain_ofItems (List.forall_mem_map.2 fun f _ => f.isPlain_toJson)
  apply isPlain_ofMembers
  simp only [List.forall_mem_cons, isPlain_ofText, hfields, hfilters, q.aggregation.isPlain_toJson,
    q.range.isPlain_toJson, true_and]
  exact List.forall_mem_nil _

/-- Queries, sensor requests and their parts lose nothing on the wire. -/
structure WireLossless : Prop where
  query : Lossless Query.shape.read Query.toJson
  tagFilter : Lossless TagFilter.shape.read TagFilter.toJson
  aggregation : Lossless Aggregation.shape.read Aggregation.toJson
  range : Lossless TimeRange.shape.read TimeRange.toJson
  sensorFilter : Lossless SensorFilter.shape.read SensorFilter.toJson
  sensorRequest : Lossless SensorRequest.shape.read SensorRequest.toJson

/-- All six are read back from their texts, and an accepted text settles after one round. -/
theorem wireLossless : WireLossless where
  query := lossless_of Query.isPlain_toJson Query.read_toJson
  tagFilter := lossless_of TagFilter.isPlain_toJson TagFilter.read_toJson
  aggregation := lossless_of Aggregation.isPlain_toJson Aggregation.read_toJson
  range := lossless_of TimeRange.isPlain_toJson TimeRange.read_toJson
  sensorFilter := lossless_of SensorFilter.isPlain_toJson SensorFilter.read_toJson
  sensorRequest := lossless_of SensorRequest.isPlain_toJson SensorRequest.read_toJson

/-- An aggregation with an unknown field, another name and another order of the fields, and an escape that
is not needed. Two fields are left out. -/
def looseAggregation : String :=
  "\x7b \"fn\": \"m\\u0065an\", \"zone\": [1e3, null], \"enabled\": true \x7d"

/-- The text that is written for it. -/
def settledAggregation : String :=
  "\x7b\"enable\":true,\"every\":\"\",\"fn\":\"mean\",\"create_empty\":false\x7d"

/-- A loose text settles on the text of its value, and means the same. -/
theorem wireLossless_looseAggregation :
    settle Aggregation.shape.read Aggregation.toJson looseAggregation = .ok settledAggregation ∧
      decode Aggregation.shape.read settledAggregation =
        decode Aggregation.shape.read looseAggregation ∧
      settle Aggregation.shape.read Aggregation.toJson settledAggregation =
        .ok settledAggregation := by
  have hsettle : settle Aggregation.shape.read Aggregation.toJson looseAggregation =
      .ok settledAggregation := by
    rw [← Outcome.toOption_eq_some_iff]
    decide +kernel
  exact ⟨hsettle, wireLossless.aggregation.settle_settle _ _ hsettle⟩

end SeriesQuery
