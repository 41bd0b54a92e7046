import SeriesQuery.Proofs.Query.Request

/-!
# The order of wall-clock times in UTC

A clock that is set back shows some times twice, and the instants at which it shows two of them may be in
either order. The bounds of a request keep the order of its times all the same, because each time is taken
where it is shown first (`SensorRequest.keepsOrder`). Times with second 60 are left out: where an offset is
not one of whole minutes, their text in UTC can be the one of the second that follows.
-/

namespace SeriesQuery

/-- The text is a wall-clock time with a second of 00 to 59. -/
structure WallClock.Reads (text : String) (shown : Instant) : Prop where
  parse_eq : parse? text = some shown
  not_leap : ¬ HasLeapSecond text

namespace SensorRequest

open WallClock

variable {r : SensorRequest} {bucket : String} {zone : Zone} {text text' : String}
  {shown shown' t u : Instant}

/-- In UTC the wall-clock time is the whole second `t`, and is written so. -/
structure Renders (zone : Zone) (text : String) (t : Instant) : Prop where
  utcText_eq : utcText text zone = .ok (Timestamp.render t)
  whole : t.nanos = 0

/-- What becomes of the times of a zone in UTC. -/
structure KeepsOrder (zone : Zone) : Prop where
  /-- The times that exist in the zone come out as whole seconds. -/
  exists_iff : ∀ text shown, Reads text shown → ((∃ t, Renders zone text t) ↔ zone.HasTime shown)
  /-- Other times are refused. -/
  refused : ∀ text shown, parse? text = some shown → ¬ zone.HasTime shown →
    utcText text zone = .error (.malformedTime text)
  /-- Away from the limits of instants, a time exists wherever an instant shows it. -/
  hasTime_iff : zone.isValid = true → ∀ shown : Instant,
    Instant.firstSecond + secondsPerDay ≤ shown.secs → shown.secs ≤ Instant.lastSecond - secondsPerDay →
      (zone.HasTime shown ↔ ∃ t, zone.Shows t shown)
  /-- At what comes out the clock shows the time, and at no earlier instant. -/
  first : ∀ text shown t, Reads text shown → Renders zone text t → zone.IsFirst shown t
  /-- What comes out is in the order of the times. -/
  lt_iff : ∀ text text' shown shown' t u, Reads text shown → Reads text' shown' → Renders zone text t →
    Renders zone text' u → (t < u ↔ shown < shown')
  /-- So a range from an earlier time to a later one stays a range. -/
  range : ∀ (r : SensorRequest) bucket shown shown', Reads r.start shown → Reads r.stop shown' →
    zone.HasTime shown → zone.HasTime shown' → shown < shown' →
      ∃ q t u, r.toQuery bucket zone = .ok q ∧ Renders zone r.start t ∧ Renders zone r.stop u ∧
        q.range = ⟨Timestamp.render t, Timestamp.render u⟩ ∧ t < u ∧ q.range.start ≠ q.range.stop

/-! ## One time -/

/-- A text is located at the first instant that shows its time. -/
theorem locates_iff (h : parse? text = some shown) :
    Locates zone.earliest? text t ↔ zone.HasTime shown ∧ zone.IsFirst shown t := by
  rw [Locates, h, Option.bind_some, Zone.earliest?_eq_some_iff_hasTime]

/-- A time comes out as the first instant that shows it. -/
theorem renders_iff (h : Reads text shown) :
    Renders zone text t ↔ zone.HasTime shown ∧ zone.IsFirst shown t := by
  have hwhole : ∀ {t}, zone.IsFirst shown t → t.nanos = 0 := fun ht =>
    ht.shows.2.trans (nanos_eq_zero h.not_leap h.parse_eq)
  rw [← locates_iff h.parse_eq]
  constructor
  · rintro ⟨hok, ht⟩
    obtain ⟨u, hu, htext⟩ := utcTextBy_eq_ok_iff.1 hok
    -- the text is written from an instant, and tells which one it is
    rwa [Timestamp.eq_of_render_eq ht (hwhole ((locates_iff h.parse_eq).1 hu).2) htext.symm]
  · intro ht
    exact ⟨utcTextBy_eq_ok_iff.2 ⟨t, ht, rfl⟩, hwhole ((locates_iff h.parse_eq).1 ht).2⟩

/-- A text is rendered exactly when some instant shows its time. -/
theorem exists_renders_iff (h : Reads text shown) :
    (∃ t, Renders zone text t) ↔ zone.HasTime shown := by
  simp only [renders_iff h, exists_and_left, Zone.exists_isFirst_iff]
  exact and_iff_left_of_imp Zone.HasTime.shows

/-- A time that no clock shows is refused. -/
theorem utcText_of_not_hasTime (h : parse? text = some shown) (hno : ¬ zone.HasTime shown) :
    utcText text zone = .error (.malformedTime text) := by
  have hnone : (parse? text).bind zone.earliest? = none :=
    Option.eq_none_iff_forall_ne_some.2 fun t ht => hno ((locates_iff h).1 ht).1
  rw [utcText, utcTextBy, hnone]

/-! ## Two times -/

/-- Of two rendered texts the one that shows the earlier time is the earlier instant. -/
theorem Renders.lt_iff (h : Reads text shown) (h' : Reads text' shown') (ht : Renders zone text t)
    (hu : Renders zone text' u) : t < u ↔ shown < shown' :=
  ((renders_iff h).1 ht).2.lt_iff ((renders_iff h').1 hu).2

/-- A request whose bounds are rendered is mapped to the query between them. -/
theorem toQuery_of_renders (ht : Renders zone r.start t) (hu : Renders zone r.stop u) :
    r.toQuery bucket zone =
      .ok (r.queryOver bucket ⟨Timestamp.render t, Timestamp.render u⟩) := by
  have hstart : utcTextBy zone.earliest? r.start = .ok (Timestamp.render t) := ht.utcText_eq
  have hstop : utcTextBy zone.earliest? r.stop = .ok (Timestamp.render u) := hu.utcText_eq
  rw [toQuery, toQueryBy, hstart, hstop]
  rfl

/-- Times keep their order on the way from the wall clock to UTC. -/
theorem keepsOrder (zone : Zone) : KeepsOrder zone where
  exists_iff text shown h := exists_renders_iff h
  refused text shown h hno := utcText_of_not_hasTime h hno
  hasTime_iff hzone shown hfirst hlast := Zone.hasTime_iff hzone hfirst hlast
  first text shown t h ht := ((renders_iff h).1 ht).2
  lt_iff text text' shown shown' t u h h' ht hu := ht.lt_iff h h' hu
  range r bucket shown shown' h h' hhas hhas' hlt := by
    obtain ⟨t, ht⟩ := (exists_renders_iff h).2 hhas
    obtain ⟨u, hu⟩ := (exists_renders_iff h').2 hhas'
    have htu : t < u := (ht.lt_iff h h' hu).2 hlt
    refine ⟨_, t, u, toQuery_of_renders ht hu, ht, hu, rfl, htu, fun htext => ?_⟩
    exact Instant.lt_irrefl u (Timestamp.eq_of_render_eq ht.whole hu.whole htext ▸ htu)

/-- Fifteen minutes of an hour that the clock shows twice. -/
def quarterHour : SensorRequest where
  measurement := "env"
  start := "2024-10-27 02:30:00"
  stop := "2024-10-27 02:45:00"
  interval := "1m"

/-- The clock is set forward from one hour east of UTC to two, at one o'clock UTC. -/
def spring : Zone := .change 3600 1711846800 7200

/-- In autumn the quarter of an hour is the one of the first time round, although its start is shown again
when its stop has been. In spring the same hour is skipped. -/
theorem keepsOrder_quarterHour :
    Reads quarterHour.start ⟨1729996200, 0⟩ ∧ Reads quarterHour.stop ⟨1729997100, 0⟩ ∧
      autumn.Shows ⟨1729989900, 0⟩ ⟨1729997100, 0⟩ ∧ autumn.Shows ⟨1729992600, 0⟩ ⟨1729996200, 0⟩ ∧
      (∃ q t u, quarterHour.toQuery "plant" autumn = .ok q ∧ Renders autumn quarterHour.start t ∧
        Renders autumn quarterHour.stop u ∧ q.range = ⟨Timestamp.render t, Timestamp.render u⟩ ∧ t < u ∧
        q.range.start ≠ q.range.stop) ∧
      utcText "2024-03-31 02:30:00" spring = .error (.malformedTime "2024-03-31 02:30:00") := by
  have hlayout : layout.all? quarterHour.start.toList = some (⟨2024, 10, 27⟩, 2, 30, 0) := by
    decide +kernel
  have hlayout' : layout.all? quarterHour.stop.toList = some (⟨2024, 10, 27⟩, 2, 45, 0) := by
    decide +kernel
  have hstart : Reads quarterHour.start ⟨1729996200, 0⟩ :=
    ⟨by decide +kernel, fun ⟨_, _, _, h⟩ => nomatch hlayout.symm.trans h⟩
  have hstop : Reads quarterHour.stop ⟨1729997100, 0⟩ :=
    ⟨by decide +kernel, fun ⟨_, _, _, h⟩ => nomatch hlayout'.symm.trans h⟩
  have hagain : autumn.Shows ⟨1729992600, 0⟩ ⟨1729996200, 0⟩ := by decide
  have hshows : autumn.Shows ⟨1729989900, 0⟩ ⟨1729997100, 0⟩ := by decide
  have hhas : autumn.HasTime ⟨1729996200, 0⟩ :=
    ((keepsOrder autumn).hasTime_iff (by decide) _ (by decide +kernel) (by decide +kernel)).2 ⟨_, hagain⟩
  have hhas' : autumn.HasTime ⟨1729997100, 0⟩ :=
    ((keepsOrder autumn).hasTime_iff (by decide) _ (by decide +kernel) (by decide +kernel)).2 ⟨_, hshows⟩
  have hread : parse? "2024-03-31 02:30:00" = some ⟨1711852200, 0⟩ := by decide +kernel
  have hskipped : ¬ spring.HasTime ⟨1711852200, 0⟩ := fun h => by
    obtain ⟨t, ht, -⟩ := h.shows
    rw [spring, Zone.offsetAt] at ht
    dsimp only at ht
    split at ht <;> omega
  exact ⟨hstart, hstop, hshows, hagain,
    (keepsOrder autumn).range quarterHour "plant" _ _ hstart hstop hhas hhas' (by decide),
    (keepsOrder spring).refused _ _ hread hskipped⟩

/-- Behind an offset of one second, a leap second has the text of the second that follows. -/
example : utcText "2024-01-15 08:00:60" (.fixed 1) = utcText "2024-01-15 08:01:00" (.fixed 1) := by
  decide +kernel

end SensorRequest

end SeriesQuery
