import SeriesQuery.Proofs.Query.Validity

/-!
# Ranges over time

Whether a range is valid at one instant and at another. Bounds that move with now are ordered by their
offsets, so their range is valid always or never (`TimeRange.verdict_eq`). A bound that resolves keeps
resolving as time goes on, and does not go back (`TimeExpr.exists_resolve_of_le`).
-/

namespace SeriesQuery

open Outcome

namespace TimeExpr

variable {text : String} {current later t u : Instant} {d : Duration} {m n : Int}

/-! ## The three forms exclude each other -/

/-- `now()` is no duration. -/
theorem ne_nowText_of_read? (h : Duration.read? text.toList = some d) : text ≠ nowText := by
  rintro rfl
  have hchar : Duration.isLiteralChar '(' = true := Duration.isLiteralChar_of_read? h _ (by decide)
  exact absurd hchar (by decide)

/-- The letter in front of the time of day tells a timestamp from the other forms. -/
theorem letter_mem_of_parse? (h : Timestamp.parse? text = some t) : 'T' ∈ text.toList := by
  obtain ⟨f, hf⟩ := Timestamp.exists_fields_of_parse? h
  rw [hf, Timestamp.Fields.text]
  simp

/-- A text with the letter of a timestamp is no duration. -/
theorem read?_eq_none_of_letter (h : 'T' ∈ text.toList) : Duration.read? text.toList = none := by
  cases hread : Duration.read? text.toList with
  | none => rfl
  | some d =>
      have hchar : Duration.isLiteralChar 'T' = true := Duration.isLiteralChar_of_read? hread _ h
      exact absurd hchar (by decide)

/-- A text with the letter of a timestamp is not the word for now. -/
theorem ne_nowText_of_letter (h : 'T' ∈ text.toList) : text ≠ nowText := by
  rintro rfl
  exact absurd h (by decide)

/-- A timestamp is no duration. -/
theorem read?_eq_none_of_parse? (h : Timestamp.parse? text = some t) :
    Duration.read? text.toList = none := read?_eq_none_of_letter (letter_mem_of_parse? h)

/-- A timestamp is not the word for now. -/
theorem ne_nowText_of_parse? (h : Timestamp.parse? text = some t) : text ≠ nowText :=
  ne_nowText_of_letter (letter_mem_of_parse? h)

/-- The word for now is read as such. -/
theorem parse_nowText : parse nowText = .ok now := if_pos rfl

/-- A duration is read as an offset from now. -/
theorem parse_of_read? (h : Duration.read? text.toList = some d) : parse text = .ok (relative d) := by
  rw [parse, if_neg (ne_nowText_of_read? h), h]

/-- A timestamp is read as its instant. -/
theorem parse_of_parse? (h : Timestamp.parse? text = some t) : parse text = .ok (absolute t) := by
  rw [parse, if_neg (ne_nowText_of_parse? h), read?_eq_none_of_parse? h, h]

/-! ## Resolving each form -/

/-- The word for now is the current instant. -/
theorem resolve_nowText (current : Instant) : resolve nowText current = .ok current := by
  rw [resolve, parse_nowText]
  rfl

/-- Every form but `now()` has to lie before now. -/
theorem resolve_of_anchor {e : TimeExpr} (hparse : parse text = .ok e) (hne : e ≠ now)
    (hanchor : e.anchor current = .ok t) :
    resolve text current = if t < current then .ok t else .error (QueryError.futureTime text) := by
  rw [resolve, hparse]
  show (e.anchor current >>= _) = _
  rw [hanchor]
  show (if e = now ∨ t < current then pure t else throw (QueryError.futureTime text)) = _
  simp only [hne, false_or]
  rfl

/-- An offset ends where it leads to, if that is past. -/
theorem resolve_of_add? (h : Duration.read? text.toList = some d)
    (ht : current.add? d.nanos = some t) :
    resolve text current = if t < current then .ok t else .error (QueryError.futureTime text) :=
  resolve_of_anchor (parse_of_read? h) nofun (anchor_relative_eq_ok_iff.2 ht)

/-- A timestamp ends at its instant, if that is past. -/
theorem resolve_of_parse? (h : Timestamp.parse? text = some t) :
    resolve text current = if t < current then .ok t else .error (QueryError.futureTime text) :=
  resolve_of_anchor (parse_of_parse? h) nofun rfl

/-- With the letter of timestamps, a text resolves as a timestamp or not at all. -/
theorem resolve_eq_ok_iff_of_letter (h : 'T' ∈ text.toList) :
    resolve text current = .ok t ↔ Timestamp.parse? text = some t ∧ t < current := by
  cases hparse : Timestamp.parse? text with
  | none =>
      have hresolve : resolve text current = .error (.malformedTime text) := by
        rw [resolve, parse, if_neg (ne_nowText_of_letter h), read?_eq_none_of_letter h, hparse]
        rfl
      simp only [hresolve, reduceCtorEq, false_and]
  | some u =>
      rw [resolve_of_parse? hparse, Option.some.injEq]
      split
      · next hlt =>
        rw [Except.ok.injEq]
        exact ⟨fun heq => ⟨heq, heq ▸ hlt⟩, And.left⟩
      · next hlt =>
        simp only [reduceCtorEq, false_iff]
        exact fun h => hlt (h.1 ▸ h.2)

/-! ## Bounds that move with now -/

/-- The text is `now()` or a duration. -/
def Moves (text : String) : Prop := text = nowText ∨ ∃ d, Duration.read? text.toList = some d

/-- A duration in the text leads from `current` to an instant. -/
def Reaches (text : String) (current : Instant) : Prop :=
  ∀ d, Duration.read? text.toList = some d → ∃ t, current.add? d.nanos = some t

/-- How far behind now the bound lies, told from the text alone. Only `now()` may be now itself. -/
def pastOffset (text : String) : Except QueryError Int :=
  if text = nowText then .ok 0
  else
    match Duration.read? text.toList with
    | some d => if d.nanos < 0 then .ok d.nanos else .error (.futureTime text)
    | none => .error (.malformedTime text)

/-- The instant lies at an offset from `current` that does not lead ahead. -/
def LiesAt (current : Instant) (offset : Int) (t : Instant) : Prop :=
  (offset = 0 ∧ t = current) ∨ (offset < 0 ∧ current.add? offset = some t)

/-- Of two offsets from one instant the smaller leads to the earlier instant. -/
theorem LiesAt.lt (hcurrent : current.nanos < 2 * nanosPerSecond) (hm : LiesAt current m t)
    (hn : LiesAt current n u) (hlt : m < n) : t < u := by
  rcases hm with ⟨rfl, -⟩ | ⟨hneg, ht⟩
  · rcases hn with ⟨rfl, -⟩ | ⟨hn, -⟩
    · exact absurd hlt (Int.lt_irrefl _)
    · exact absurd hlt (Int.lt_asymm hn)
  · rcases hn with ⟨-, rfl⟩ | ⟨-, hu⟩
    · exact Instant.lt_of_add? hcurrent hneg ht
    · exact Instant.add?_lt_add? hcurrent hlt ht hu

/-- One offset leads to one instant. -/
theorem LiesAt.eq (hm : LiesAt current m t) (hn : LiesAt current m u) : t = u := by
  rcases hm with ⟨rfl, rfl⟩ | ⟨hneg, ht⟩
  · rcases hn with ⟨-, rfl⟩ | ⟨hneg, -⟩
    · rfl
    · exact absurd hneg (Int.lt_irrefl _)
  · rcases hn with ⟨rfl, -⟩ | ⟨-, hu⟩
    · exact absurd hneg (Int.lt_irrefl _)
    · exact Option.some.inj (ht.symm.trans hu)

/-- Instants are ordered as their offsets from now are. -/
theorem LiesAt.lt_iff (hcurrent : current.nanos < 2 * nanosPerSecond) (hm : LiesAt current m t)
    (hn : LiesAt current n u) : t < u ↔ m < n := by
  refine ⟨fun htu => ?_, hm.lt hcurrent hn⟩
  rcases Int.lt_trichotomy m n with hlt | rfl | hgt
  · exact hlt
  · rw [hm.eq hn] at htu
    exact absurd htu (Instant.lt_irrefl u)
  · exact absurd htu (Instant.lt_asymm (hn.lt hcurrent hm hgt))

/-- A bound that moves with now resolves to the instant at its offset, or its text is refused. -/
theorem resolve_cases (hcurrent : current.nanos < 2 * nanosPerSecond) (hmoves : Moves text)
    (hreaches : Reaches text current) :
    (∃ offset t, pastOffset text = .ok offset ∧ resolve text current = .ok t ∧
        LiesAt current offset t) ∨
      ∃ e, pastOffset text = .error e ∧ resolve text current = .error e := by
  rcases hmoves with rfl | ⟨d, hd⟩
  · exact .inl ⟨0, current, if_pos rfl, resolve_nowText current, .inl ⟨rfl, rfl⟩⟩
  · obtain ⟨t, ht⟩ := hreaches d hd
    have hoffset : pastOffset text =
        if d.nanos < 0 then .ok d.nanos else .error (.futureTime text) := by
      rw [pastOffset, if_neg (ne_nowText_of_read? hd), hd]
    rw [hoffset, resolve_of_add? hd ht]
    by_cases hneg : d.nanos < 0
    · rw [if_pos hneg, if_pos (Instant.lt_of_add? hcurrent hneg ht)]
      exact .inl ⟨d.nanos, t, rfl, rfl, .inr ⟨hneg, ht⟩⟩
    · rw [if_neg hneg, if_neg (Instant.not_lt_of_add? (by omega) ht)]
      exact .inr ⟨.futureTime text, rfl, rfl⟩

/-! ## Bounds at a later now -/

/-- Outside leap seconds, a bound that resolves does so at every later now, and not to an earlier
instant. -/
theorem exists_resolve_of_le (hle : current ≤ later) (hcurrent : current.inLeapSecond = false)
    (hlater : later.inLeapSecond = false) (hproper : later.IsProper)
    (h : resolve text current = .ok t) : ∃ u, resolve text later = .ok u ∧ t ≤ u := by
  simp only [resolve, bind_eq_ok_iff, when_eq_ok_iff] at h
  obtain ⟨e, hparse, a, hanchor, hdirection, rfl⟩ := h
  rcases cases_of_parse hparse with ⟨rfl, rfl⟩ | ⟨d, hd, rfl⟩ | ⟨a', ha, rfl⟩
  · obtain rfl : current = a := Except.ok.inj hanchor
    exact ⟨later, resolve_nowText later, hle⟩
  · have hlt : a < current := hdirection.resolve_left (by simp only [reduceCtorEq, not_false_eq_true])
    have hadd : current.add? d.nanos = some a := anchor_relative_eq_ok_iff.1 hanchor
    have hneg : d.nanos < 0 := by
      by_contra hneg
      exact Instant.not_lt_of_add? (by omega) hadd hlt
    obtain ⟨u, hu, hau⟩ := Instant.exists_add?_of_le hle hcurrent hlater hproper.le_lastSecond
      (by omega) hadd
    refine ⟨u, ?_, hau⟩
    rw [resolve_of_add? hd hu, if_pos (Instant.lt_of_add? hproper.nanos_lt hneg hu)]
  · obtain rfl : a' = a := Except.ok.inj hanchor
    have hlt : a' < current := hdirection.resolve_left (by simp only [reduceCtorEq, not_false_eq_true])
    refine ⟨a', ?_, Instant.lt_irrefl a'⟩
    rw [resolve_of_parse? ha, if_pos (Instant.lt_of_lt_of_le hlt hle)]

end TimeExpr

namespace TimeRange

open TimeExpr

variable {r : TimeRange} {current later : Instant}

/-- Whether the range is valid at `current`, and if not why. -/
def verdict (r : TimeRange) (current : Instant) : Except QueryError Unit :=
  (r.resolve current).map fun _ => ()

/-- Whether the offsets of the bounds, apart from any now, make a range. -/
def offsetVerdict (r : TimeRange) : Except QueryError Unit := do
  if r.start = "" then throw (.invalidRange "start could not be empty")
  if r.stop = "" then throw (.invalidRange "stop could not be empty")
  let start ← pastOffset r.start
  let stop ← pastOffset r.stop
  if start < stop then return ()
  else throw (.invalidRange ("start " ++ r.start ++ " should be before stop " ++ r.stop))

/-- Both bounds move with now, and their durations lead from `current` to instants. -/
structure MovesWith (r : TimeRange) (current : Instant) : Prop where
  start : Moves r.start
  stop : Moves r.stop
  start_reaches : Reaches r.start current
  stop_reaches : Reaches r.stop current

/-- The verdict on bounds that move with now is that on their offsets. -/
theorem verdict_eq (hcurrent : current.nanos < 2 * nanosPerSecond) (h : r.MovesWith current) :
    r.verdict current = r.offsetVerdict := by
  rw [verdict, resolve, offsetVerdict]
  by_cases hstart : r.start = ""
  · rw [if_pos hstart, if_pos hstart]
    rfl
  by_cases hstop : r.stop = ""
  · rw [if_neg hstart, if_neg hstart, if_pos hstop, if_pos hstop]
    rfl
  rw [if_neg hstart, if_neg hstart, if_neg hstop, if_neg hstop]
  rcases resolve_cases hcurrent h.start h.start_reaches with
    ⟨m, t, hm, ht, hlies⟩ | ⟨e, hm, ht⟩
  · rcases resolve_cases hcurrent h.stop h.stop_reaches with
      ⟨n, u, hn, hu, hlies'⟩ | ⟨e, hn, hu⟩
    · rw [hm, ht, hn, hu]
      -- the two checks of the order have one and the same outcome
      have horder : t < u ↔ m < n := hlies.lt_iff hcurrent hlies'
      show Except.map _ (if t < u then Except.ok (t, u) else .error (QueryError.invalidRange _)) =
        if m < n then Except.ok () else .error (QueryError.invalidRange _)
      by_cases hlt : m < n
      · rw [if_pos hlt, if_pos (horder.2 hlt)]
        rfl
      · rw [if_neg hlt, if_neg (fun htu => hlt (horder.1 htu))]
        rfl
    · rw [hm, ht, hn, hu]
      rfl
  · rw [hm, ht]
    rfl

/-- What time does to the validity of a range. -/
structure Endures (r : TimeRange) : Prop where
  /-- Bounds that move with now are valid at all instants or at none, and then for the same reason. -/
  verdict_eq : ∀ {current later}, current.IsProper → later.IsProper → r.MovesWith current →
    r.MovesWith later → r.verdict current = r.verdict later
  /-- Once valid, a range from a timestamp on stays valid; its start stays, and its stop does not go
  back. -/
  exists_resolve : ∀ {start current later b}, Timestamp.parse? r.start = some start →
    current.IsProper → later.IsProper → current ≤ later → current.inLeapSecond = false →
    later.inLeapSecond = false → r.resolve current = .ok b →
    ∃ stop, r.resolve later = .ok (b.1, stop) ∧ b.2 ≤ stop

/-- Bounds that move with now keep their verdict, and a valid range from a timestamp on stays valid. -/
theorem endures (r : TimeRange) : r.Endures := by
  constructor
  case verdict_eq =>
      intro current later hcurrent hlater hmoves hmoves'
      rw [verdict_eq hcurrent.nanos_lt hmoves, verdict_eq hlater.nanos_lt hmoves']
  case exists_resolve =>
      intro start current later b hparse hcurrent hlater hle hleap hleap' h
      obtain ⟨hstart, hstop, hresolve, hresolve', hlt⟩ := resolve_eq_ok_iff.1 h
      -- the start is the timestamp at either now
      have hbefore : start < current ∧ start = b.1 := by
        rw [resolve_of_parse? hparse] at hresolve
        by_cases hbefore : start < current
        · rw [if_pos hbefore] at hresolve
          exact ⟨hbefore, Except.ok.inj hresolve⟩
        · rw [if_neg hbefore] at hresolve
          exact nomatch hresolve
      obtain ⟨hbefore, rfl⟩ := hbefore
      obtain ⟨stop, hlater', hstop'⟩ := exists_resolve_of_le hle hleap hleap' hlater hresolve'
      refine ⟨stop, resolve_eq_ok_iff.2 ⟨hstart, hstop, ?_, hlater', ?_⟩, hstop'⟩
      · rw [resolve_of_parse? hparse, if_pos (Instant.lt_of_lt_of_le hbefore hle)]
      · exact Instant.lt_of_lt_of_le hlt hstop'

/-- A second, up to half a second ago. -/
def lastSecond : TimeRange := ⟨"-1.5s", "-.5s"⟩

/-- The time from a new year up to an hour ago. -/
def sinceNewYear : TimeRange := ⟨"2024-01-01T00:00:00Z", "-1h"⟩

/-- Both bounds of the last second move with now. -/
theorem moves_lastSecond {current : Instant}
    (hstart : ∃ t, current.add? (-1500000000) = some t)
    (hstop : ∃ t, current.add? (-500000000) = some t) : lastSecond.MovesWith current := by
  have hread : Duration.read? lastSecond.start.toList = some ⟨-1500000000⟩ := by decide +kernel
  have hread' : Duration.read? lastSecond.stop.toList = some ⟨-500000000⟩ := by decide +kernel
  refine ⟨.inr ⟨_, hread⟩, .inr ⟨_, hread'⟩, fun d hd => ?_, fun d hd => ?_⟩
  · rw [hread] at hd
    exact Option.some.inj hd ▸ hstart
  · rw [hread'] at hd
    exact Option.some.inj hd ▸ hstop

/-- Inside a leap second and outside, the first range is valid. The second range stays valid. -/
theorem endures_ranges :
    (lastSecond.verdict ⟨1483228799, 1200000000⟩ = .ok () ∧
        lastSecond.verdict ⟨1483228799, 1200000000⟩ = lastSecond.verdict ⟨1705327200, 0⟩) ∧
      ∃ stop, sinceNewYear.resolve ⟨1705330800, 0⟩ = .ok (⟨1704067200, 0⟩, stop) ∧
        (⟨1705323600, 0⟩ : Instant) ≤ stop := by
  refine ⟨⟨by decide +kernel, ?_⟩, ?_⟩
  · exact (endures lastSecond).verdict_eq ⟨by decide, by decide, by decide⟩
      ⟨by decide, by decide, by decide⟩ (moves_lastSecond ⟨_, rfl⟩ ⟨_, rfl⟩)
      (moves_lastSecond ⟨_, rfl⟩ ⟨_, rfl⟩)
  · have hresolve : sinceNewYear.resolve ⟨1705327200, 0⟩ = .ok (⟨1704067200, 0⟩, ⟨1705323600, 0⟩) := by
      decide +kernel
    have hparse : Timestamp.parse? sinceNewYear.start = some ⟨1704067200, 0⟩ := by decide +kernel
    exact (endures sinceNewYear).exists_resolve hparse ⟨by decide, by decide, by decide⟩
      ⟨by decide, by decide, by decide⟩ (by decide) rfl rfl hresolve

end TimeRange

end SeriesQuery
