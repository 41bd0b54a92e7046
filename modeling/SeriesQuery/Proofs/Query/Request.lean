import SeriesQuery.Proofs.Calendar.Rendered
import SeriesQuery.Proofs.Calendar.Zone
import SeriesQuery.Proofs.Query.OverTime
import SeriesQuery.Query.SensorRequest

/-!
# What becomes of a sensor request

On its way a bound of a request takes four forms: the text of a wall-clock time, the instant that this
text denotes in the zone, the text of the instant, and the instant that a query resolves this second text
to. Either the last instant is the first one, or the query is refused (`SensorRequest.mapsExactly`). The
text between the two is canonical where the instant has a canonical text, and nowhere else
(`SensorRequest.emitsWhereWritable`).
-/

namespace SeriesQuery

open Outcome

/-! ## Texts of instants as bounds -/

namespace Timestamp

variable {t : Instant}

/-- The text is a canonical timestamp, and is read as one. -/
def IsCanonical (text : String) : Prop :=
  ∃ f : Fields, text.toList = f.text ∧ parse? text = some f.instant

/-- An instant is rendered canonically exactly when it is writable. -/
theorem isCanonical_render_iff : IsCanonical (render t) ↔ t.IsWritable :=
  ⟨fun ⟨_, _, hread⟩ => (parse?_render_eq_some_iff.1 hread).1,
    fun h => ⟨fields t h, toList_render_eq h, parse?_text (toList_render_eq h)⟩⟩

/-- A rendered instant has the letter of a timestamp. -/
theorem letter_mem_render (t : Instant) : 'T' ∈ (render t).toList := by
  rw [toList_render, writeSecond]
  simp

/-- No instant is rendered as an empty text. -/
theorem render_ne_empty (t : Instant) : render t ≠ "" := fun h =>
  absurd (h ▸ letter_mem_render t) (by decide)

end Timestamp

namespace Instant

variable {t : Instant}

/-- Without leap second, only the year matters. -/
theorem isWritable_iff (h : t.nanos = 0) : t.IsWritable ↔ 0 ≤ t.date.year ∧ t.date.year ≤ 9999 := by
  refine ⟨fun hw => ⟨hw.year_nonneg, hw.year_le⟩, fun hyear => ⟨hyear.1, hyear.2, ?_⟩⟩
  rw [second, h, Nat.zero_div, Nat.add_zero]
  exact Nat.mod_lt _ (by decide)

end Instant

/-- The text of an instant leads back to the instant, or nowhere. -/
theorem TimeExpr.resolve_render_eq_ok_iff {t u current : Instant} (ht : t.nanos = 0) :
    resolve (Timestamp.render t) current = .ok u ↔ t.IsWritable ∧ t < current ∧ u = t := by
  rw [resolve_eq_ok_iff_of_letter (Timestamp.letter_mem_render t), Timestamp.parse?_render_eq_some_iff,
    Instant.shownSecond_of_nanos_eq_zero ht]
  constructor
  · rintro ⟨⟨hw, rfl⟩, hlt⟩
    exact ⟨hw, hlt, rfl⟩
  · rintro ⟨hw, hlt, rfl⟩
    exact ⟨⟨hw, rfl⟩, hlt⟩

/-- A range of rendered instants is accepted if both are writable, in order and past. -/
theorem TimeRange.resolve_render_eq_ok_iff {start stop current : Instant} {b : Instant × Instant}
    (hstart : start.nanos = 0) (hstop : stop.nanos = 0) :
    (TimeRange.mk (Timestamp.render start) (Timestamp.render stop)).resolve current = .ok b ↔
      start.IsWritable ∧ stop.IsWritable ∧ start < stop ∧ stop < current ∧ b = (start, stop) := by
  obtain ⟨s, e⟩ := b
  rw [TimeRange.resolve_eq_ok_iff, TimeExpr.resolve_render_eq_ok_iff hstart,
    TimeExpr.resolve_render_eq_ok_iff hstop, Prod.mk.injEq]
  constructor
  · rintro ⟨-, -, ⟨hs, -, rfl⟩, ⟨he, hpast, rfl⟩, hlt⟩
    exact ⟨hs, he, hlt, hpast, rfl, rfl⟩
  · rintro ⟨hs, he, hlt, hpast, rfl, rfl⟩
    exact ⟨Timestamp.render_ne_empty _, Timestamp.render_ne_empty _,
      ⟨hs, Instant.lt_trans hlt hpast, rfl⟩, ⟨he, hpast, rfl⟩, hlt⟩

/-! ## Times of a request -/

namespace WallClock

/-- The text is written with second 60. -/
def HasLeapSecond (text : String) : Prop :=
  ∃ date hour minute, layout.all? text.toList = some (date, hour, minute, 60)

/-- A wall-clock text that names no leap second shows a whole second. -/
theorem nanos_eq_zero {text : String} {shown : Instant} (hleap : ¬ HasLeapSecond text)
    (h : parse? text = some shown) : shown.nanos = 0 := by
  simp only [parse?, Option.bind_eq_bind, Option.bind_eq_some_iff, Prod.exists, Instant.ofFields?,
    Option.ite_none_right_eq_some, Option.some.injEq] at h
  obtain ⟨date, hour, minute, second, hread, -, rfl⟩ := h
  have hsecond : second ≠ 60 := fun h60 => hleap ⟨date, hour, minute, h60 ▸ hread⟩
  rw [if_neg hsecond]

end WallClock

/-- The text is a wall-clock time that exists in the zone, and the instant is the first to show it. -/
def Zone.Denotes (zone : Zone) (text : String) (t : Instant) : Prop :=
  ∃ shown, WallClock.parse? text = some shown ∧ zone.IsFirst shown t

/-- The instant that such a text denotes is a whole second too. -/
theorem Zone.Denotes.nanos_eq_zero {zone : Zone} {text : String} {t : Instant}
    (h : zone.Denotes text t) (hleap : ¬ WallClock.HasLeapSecond text) : t.nanos = 0 := by
  obtain ⟨shown, hread, hfirst⟩ := h
  rw [hfirst.shows.2, WallClock.nanos_eq_zero hleap hread]

/-- A wall-clock text denotes one instant. -/
theorem Zone.Denotes.eq {zone : Zone} {text : String} {t u : Instant} (ht : zone.Denotes text t)
    (hu : zone.Denotes text u) : t = u := by
  obtain ⟨shown, hread, hfirst⟩ := ht
  obtain ⟨shown', hread', hfirst'⟩ := hu
  obtain rfl := Option.some.inj (hread.symm.trans hread')
  exact hfirst.eq hfirst'

/-! ## Filters of a request -/

namespace SensorFilter

/-- The supplied filters, with their tag columns. -/
def supplied (f : SensorFilter) : List TagFilter :=
  f.projectId.toList.map (⟨"project_id", ·⟩) ++ f.sensorMac.toList.map (⟨"sensor_mac", ·⟩) ++
    f.sensorType.toList.map (⟨"sensor_type", ·⟩) ++ f.receiveNo.toList.map (⟨"receive_no", ·⟩)

/-- The filters of a request are the ones supplied, in order. -/
theorem tagFilters_eq_supplied (f : SensorFilter) : f.tagFilters = f.supplied := by
  obtain ⟨projectId, sensorMac, sensorType, receiveNo⟩ := f
  -- whether a value was supplied is all that matters
  cases projectId <;> cases sensorMac <;> cases sensorType <;> cases receiveNo <;> rfl

/-- No filter of a request has an empty key. -/
theorem key_ne_empty_of_mem_supplied {f : SensorFilter} {clause : TagFilter} (h : clause ∈ f.supplied) :
    clause.key ≠ "" := by
  simp only [supplied, List.mem_append, List.mem_map] at h
  rcases h with ((⟨_, -, rfl⟩ | ⟨_, -, rfl⟩) | ⟨_, -, rfl⟩) | ⟨_, -, rfl⟩ <;>
    exact ne_of_beq_false rfl

end SensorFilter

namespace SensorRequest

variable {r : SensorRequest} {bucket : String} {zone : Zone} {current start stop t : Instant}
  {locate : Instant → Option Instant} {q : Query}

/-! ## The query of a request -/

/-- The text is a wall-clock time that lies at the instant, by whichever rule a zone places it. -/
def Locates (locate : Instant → Option Instant) (text : String) (t : Instant) : Prop :=
  (WallClock.parse? text).bind locate = some t

/-- A wall-clock text is translated if it is located, into its instant rendered. -/
theorem utcTextBy_eq_ok_iff {text literal : String} :
    utcTextBy locate text = .ok literal ↔ ∃ t, Locates locate text t ∧ Timestamp.render t = literal := by
  rw [utcTextBy]
  unfold Locates
  cases (WallClock.parse? text).bind locate with
  | none => exact ⟨nofun, nofun⟩
  | some t => simp only [Except.ok.injEq, Option.some.injEq, exists_eq_left']

/-- A request is mapped if both of its bounds are located. -/
theorem toQueryBy_eq_ok_iff :
    r.toQueryBy bucket locate = .ok q ↔
      ∃ start stop, Locates locate r.start start ∧ Locates locate r.stop stop ∧
        r.queryOver bucket ⟨Timestamp.render start, Timestamp.render stop⟩ = q := by
  simp only [toQueryBy, bind_eq_ok_iff, pure_eq_ok_iff, utcTextBy_eq_ok_iff]
  constructor
  · rintro ⟨_, ⟨start, hstart, rfl⟩, _, ⟨stop, hstop, rfl⟩, rfl⟩
    exact ⟨start, stop, hstart, hstop, rfl⟩
  · rintro ⟨start, stop, hstart, hstop, rfl⟩
    exact ⟨_, ⟨start, hstart, rfl⟩, _, ⟨stop, hstop, rfl⟩, rfl⟩

/-- A request whose bounds are located is mapped to the query between them. -/
theorem toQueryBy_of_locates (hstart : Locates locate r.start start)
    (hstop : Locates locate r.stop stop) :
    r.toQueryBy bucket locate =
      .ok (r.queryOver bucket ⟨Timestamp.render start, Timestamp.render stop⟩) :=
  toQueryBy_eq_ok_iff.2 ⟨start, stop, hstart, hstop, rfl⟩

/-! ## What is emitted -/

/-- Both bounds of the query, if there is one, are canonical timestamps. -/
def EmitsCanonical (result : Except QueryError Query) : Prop :=
  ∀ q, result = .ok q → Timestamp.IsCanonical q.range.start ∧ Timestamp.IsCanonical q.range.stop

/-- The instants at which the times of the request lie have canonical texts. -/
def AllWritable (r : SensorRequest) (locate : Instant → Option Instant) : Prop :=
  ∀ start stop, Locates locate r.start start → Locates locate r.stop stop →
    start.IsWritable ∧ stop.IsWritable

/-- The bounds of a query are canonical exactly when the instants of the request are writable. -/
theorem emitsCanonical_toQueryBy_iff :
    EmitsCanonical (r.toQueryBy bucket locate) ↔ r.AllWritable locate := by
  simp only [EmitsCanonical, AllWritable, ← Timestamp.isCanonical_render_iff]
  constructor
  · intro h start stop hstart hstop
    exact h (r.queryOver bucket ⟨Timestamp.render start, Timestamp.render stop⟩)
      (toQueryBy_of_locates hstart hstop)
  · rintro h q hq
    obtain ⟨start, stop, hstart, hstop, rfl⟩ := toQueryBy_eq_ok_iff.1 hq
    exact h start stop hstart hstop

/-- When the bounds that a request gets are canonical timestamps. -/
structure EmitsWhereWritable (r : SensorRequest) (bucket : String) : Prop where
  /-- In a zone. -/
  canonical_iff : ∀ zone, EmitsCanonical (r.toQuery bucket zone) ↔ r.AllWritable zone.earliest?
  /-- By whichever rule wall-clock times are placed. -/
  canonical_by_iff : ∀ locate, EmitsCanonical (r.toQueryBy bucket locate) ↔ r.AllWritable locate
  /-- A bound that is read is read as the second that its instant shows. -/
  names : ∀ locate q, r.toQueryBy bucket locate = .ok q →
    ∃ start stop, Locates locate r.start start ∧ Locates locate r.stop stop ∧
      (∀ t, Timestamp.parse? q.range.start = some t → t = start.shownSecond) ∧
        ∀ t, Timestamp.parse? q.range.stop = some t → t = stop.shownSecond

/-- Whatever the zone, bounds become canonical timestamps exactly where their instants are writable. -/
theorem emitsWhereWritable (r : SensorRequest) (bucket : String) : r.EmitsWhereWritable bucket := by
  constructor
  case canonical_iff =>
      intro zone
      exact emitsCanonical_toQueryBy_iff
  case canonical_by_iff => exact fun locate => emitsCanonical_toQueryBy_iff
  case names =>
      intro locate q hq
      obtain ⟨start, stop, hstart, hstop, rfl⟩ := toQueryBy_eq_ok_iff.1 hq
      exact ⟨start, stop, hstart, hstop, fun t h => (Timestamp.parse?_render_eq_some_iff.1 h).2,
        fun t h => (Timestamp.parse?_render_eq_some_iff.1 h).2⟩

/-- All that is known up to the end of the last year of four digits. -/
def untilLastYear : SensorRequest where
  measurement := "env"
  start := "2024-01-15 08:00:00"
  stop := "9999-12-31 23:59:59"
  interval := "10m"

/-- Five hours west of UTC, that year ends in the year 10000. -/
theorem not_emitsCanonical_untilLastYear :
    ¬ EmitsCanonical (untilLastYear.toQuery "plant" (.fixed (-18000))) := by
  intro h
  have hquery : untilLastYear.toQuery "plant" (.fixed (-18000)) =
      .ok (untilLastYear.queryOver "plant" ⟨"2024-01-15T13:00:00Z", "+10000-01-01T04:59:59Z"⟩) := by
    decide +kernel
  obtain ⟨f, -, hread⟩ := (h _ hquery).2
  have hnone : Timestamp.parse? "+10000-01-01T04:59:59Z" = none := by decide +kernel
  exact nomatch hnone.symm.trans hread

/-! ## What is accepted -/

/-- What a request has to satisfy, with the instants that its times denote. -/
structure Admissible (r : SensorRequest) (bucket : String) (zone : Zone) (current start stop : Instant) :
    Prop where
  start_denoted : zone.Denotes r.start start
  stop_denoted : zone.Denotes r.stop stop
  start_year : 0 ≤ start.date.year ∧ start.date.year ≤ 9999
  stop_year : 0 ≤ stop.date.year ∧ stop.date.year ≤ 9999
  ordered : start < stop
  past : stop < current
  window : ∃ d, Duration.parseWindow r.interval = .ok d
  bucket_ne : bucket ≠ ""
  measurement_ne : r.measurement ≠ ""
  values_ne : ∀ clause ∈ r.filter.supplied, clause.value ≠ ""

/-- A query made of a request is valid if its texts are given, its window is one and its range is accepted. -/
theorem validate_queryOver_iff {range : TimeRange} :
    (r.queryOver bucket range).validate current = .ok () ↔
      bucket ≠ "" ∧ r.measurement ≠ "" ∧ (∀ clause ∈ r.filter.supplied, clause.value ≠ "") ∧
        (∃ d, Duration.parseWindow r.interval = .ok d) ∧ ∃ b, range.resolve current = .ok b := by
  have hfilters : (∀ f ∈ r.filter.tagFilters, f.key ≠ "" ∧ f.value ≠ "") ↔
      ∀ clause ∈ r.filter.supplied, clause.value ≠ "" := by
    rw [SensorFilter.tagFilters_eq_supplied]
    exact forall₂_congr fun clause hmem => and_iff_right (SensorFilter.key_ne_empty_of_mem_supplied hmem)
  have haggregation : (Aggregation.ofWindow r.interval .mean).validate = .ok () ↔
      ∃ d, Duration.parseWindow r.interval = .ok d := by
    rw [Aggregation.validate_eq_ok_iff]
    exact ⟨fun h => (h rfl).2, fun h _ => ⟨⟨.mean, rfl⟩, h⟩⟩
  rw [Query.validate_eq_ok_iff, ← hfilters, ← haggregation]
  exact ⟨fun ⟨hbucket, hmeasurement, _, h⟩ => ⟨hbucket, hmeasurement, h⟩,
    fun ⟨hbucket, hmeasurement, h⟩ => ⟨hbucket, hmeasurement, List.cons_ne_nil _ _, h⟩⟩

/-- A time that lies at an instant in the zone denotes it. -/
theorem Locates.denotes {text : String} (h : Locates zone.earliest? text t) : zone.Denotes text t := by
  obtain ⟨shown, hread, hlocate⟩ := Option.bind_eq_some_iff.1 h
  exact ⟨shown, hread, (Zone.earliest?_eq_some_iff_of_limits.1 hlocate).2⟩

/-- The instant that a text denotes is where it is located. -/
theorem locates_of_denotes {text : String} (hzone : zone.isValid = true)
    (hyear : 0 ≤ t.date.year ∧ t.date.year ≤ 9999) (h : zone.Denotes text t) :
    Locates zone.earliest? text t := by
  obtain ⟨shown, hread, hfirst⟩ := h
  rw [Locates, hread]
  exact (Zone.earliest?_eq_some_iff hzone hyear.1 hyear.2).2 hfirst

/-- Whatever is accepted satisfies the conditions, with the instants that its range resolves to. -/
theorem exists_admissible (hstart : ¬ WallClock.HasLeapSecond r.start)
    (hstop : ¬ WallClock.HasLeapSecond r.stop) (hq : r.toQuery bucket zone = .ok q)
    (h : q.validate current = .ok ()) :
    ∃ start stop, r.Admissible bucket zone current start stop ∧
      q.range.resolve current = .ok (start, stop) := by
  obtain ⟨start, stop, hs, he, rfl⟩ := toQueryBy_eq_ok_iff.1 hq
  obtain ⟨hbucket, hmeasurement, hvalues, hwindow, b, hb⟩ := validate_queryOver_iff.1 h
  have hs0 := hs.denotes.nanos_eq_zero hstart
  have he0 := he.denotes.nanos_eq_zero hstop
  -- the range resolves to nothing but the instants that its texts were written from
  obtain ⟨hsw, hew, hlt, hpast, rfl⟩ := (TimeRange.resolve_render_eq_ok_iff hs0 he0).1 hb
  exact ⟨start, stop, ⟨hs.denotes, he.denotes, (Instant.isWritable_iff hs0).1 hsw,
    (Instant.isWritable_iff he0).1 hew, hlt, hpast, hwindow, hbucket, hmeasurement, hvalues⟩, hb⟩

/-- What satisfies the conditions is accepted. -/
theorem Admissible.exists_query (hzone : zone.isValid = true)
    (hstart : ¬ WallClock.HasLeapSecond r.start) (hstop : ¬ WallClock.HasLeapSecond r.stop)
    (h : r.Admissible bucket zone current start stop) :
    ∃ q, r.toQuery bucket zone = .ok q ∧ q.validate current = .ok () := by
  have hs0 := h.start_denoted.nanos_eq_zero hstart
  have he0 := h.stop_denoted.nanos_eq_zero hstop
  have hs := locates_of_denotes hzone h.start_year h.start_denoted
  have he := locates_of_denotes hzone h.stop_year h.stop_denoted
  have hsw := (Instant.isWritable_iff hs0).2 h.start_year
  have hew := (Instant.isWritable_iff he0).2 h.stop_year
  have hrange := (TimeRange.resolve_render_eq_ok_iff hs0 he0).2 ⟨hsw, hew, h.ordered, h.past, rfl⟩
  exact ⟨_, toQueryBy_of_locates hs he, validate_queryOver_iff.2
    ⟨h.bucket_ne, h.measurement_ne, h.values_ne, h.window, _, hrange⟩⟩

/-- All about the query of a request in a zone at a now. -/
structure MapsExactly (r : SensorRequest) (bucket : String) (zone : Zone) (current : Instant) : Prop where
  accepted_iff : (∃ q, r.toQuery bucket zone = .ok q ∧ q.validate current = .ok ()) ↔
    ∃ start stop, r.Admissible bucket zone current start stop
  /-- The range is the one that the request denotes. -/
  resolves : ∀ q start stop, r.toQuery bucket zone = .ok q → q.validate current = .ok () →
    zone.Denotes r.start start → zone.Denotes r.stop stop → q.range.resolve current = .ok (start, stop)
  filters : ∀ q, r.toQuery bucket zone = .ok q → q.filters = r.filter.supplied

/-- All about the query of a request whose times are not written with second 60. -/
theorem mapsExactly (hzone : zone.isValid = true) (hstart : ¬ WallClock.HasLeapSecond r.start)
    (hstop : ¬ WallClock.HasLeapSecond r.stop) : r.MapsExactly bucket zone current := by
  constructor
  case accepted_iff =>
      constructor
      · rintro ⟨q, hq, h⟩
        obtain ⟨start, stop, hadmissible, -⟩ := exists_admissible hstart hstop hq h
        exact ⟨start, stop, hadmissible⟩
      · rintro ⟨start, stop, h⟩
        exact h.exists_query hzone hstart hstop
  case resolves =>
      intro q start stop hq h hs he
      obtain ⟨start', stop', hadmissible, hrange⟩ := exists_admissible hstart hstop hq h
      rw [hrange, hadmissible.start_denoted.eq hs, hadmissible.stop_denoted.eq he]
  case filters =>
      intro q hq
      obtain ⟨_, _, -, -, rfl⟩ := toQueryBy_eq_ok_iff.1 hq
      exact r.filter.tagFilters_eq_supplied

/-- From an hour that the clock shows twice to one that it shows once. -/
def repeatedHour : SensorRequest where
  measurement := "env"
  start := "2024-10-27 02:30:00"
  stop := "2024-10-27 04:00:00"
  interval := "10m"
  filter := { sensorMac := some "AA:BB", receiveNo := some "3" }

/-- The clock is set back from two hours east of UTC to one, at one o'clock UTC. -/
def autumn : Zone := .change 7200 1729990800 3600

/-- The first time round counts, when the clock is still two hours ahead. -/
theorem mapsExactly_repeatedHour :
    autumn.isValid = true ∧ ¬ WallClock.HasLeapSecond repeatedHour.start ∧
      ¬ WallClock.HasLeapSecond repeatedHour.stop ∧
      repeatedHour.MapsExactly "plant" autumn ⟨1730000000, 0⟩ ∧
      ∃ q, repeatedHour.toQuery "plant" autumn = .ok q ∧ q.validate ⟨1730000000, 0⟩ = .ok () ∧
        q.range.resolve ⟨1730000000, 0⟩ = .ok (⟨1729989000, 0⟩, ⟨1729998000, 0⟩) ∧
        q.filters = [⟨"sensor_mac", "AA:BB"⟩, ⟨"receive_no", "3"⟩] := by
  have hzone : autumn.isValid = true := by decide
  have hread : WallClock.layout.all? repeatedHour.start.toList = some (⟨2024, 10, 27⟩, 2, 30, 0) := by
    decide +kernel
  have hread' : WallClock.layout.all? repeatedHour.stop.toList = some (⟨2024, 10, 27⟩, 4, 0, 0) := by
    decide +kernel
  have hstart : ¬ WallClock.HasLeapSecond repeatedHour.start := fun ⟨_, _, _, h⟩ =>
    nomatch hread.symm.trans h
  have hstop : ¬ WallClock.HasLeapSecond repeatedHour.stop := fun ⟨_, _, _, h⟩ =>
    nomatch hread'.symm.trans h
  have hquery : repeatedHour.toQuery "plant" autumn =
      .ok (repeatedHour.queryOver "plant" ⟨"2024-10-27T00:30:00Z", "2024-10-27T03:00:00Z"⟩) := by
    decide +kernel
  exact ⟨hzone, hstart, hstop, mapsExactly hzone hstart hstop, _, hquery, by decide +kernel,
    by decide +kernel, by decide +kernel⟩

end SensorRequest

end SeriesQuery
