import SeriesQuery.Proofs.Calendar.Canonical
import SeriesQuery.Proofs.Calendar.Instant
import SeriesQuery.Proofs.Outcome
import SeriesQuery.Proofs.Query.DurationGrammar
import SeriesQuery.Query.Basic

/-!
# What validation establishes

A query that passes validation satisfies every rule at once (`Query.validate_eq_ok_iff`). The bounds of
its range are texts of known forms: the start points into the past, the stop too unless it is `now()`
(`TimeRange.bounds_of_resolve`).
-/

namespace SeriesQuery

open Outcome

/-! ## Bounds -/

/-- The text points into the past: by a minus sign and a length of time, or by a canonical timestamp. -/
inductive IsPastBound (text : String) : Prop where
  | offset {body : List Char} : Duration.IsMagnitude body → text.toList = '-' :: body →
      IsPastBound text
  | timestamp (f : Timestamp.Fields) : text.toList = f.text → IsPastBound text

namespace TimeExpr

/-- A time expression is the word for now, a duration or a timestamp. -/
theorem cases_of_parse {text : String} {e : TimeExpr} (h : parse text = .ok e) :
    (text = nowText ∧ e = now) ∨
      (∃ d, Duration.read? text.toList = some d ∧ e = relative d) ∨
      ∃ t, Timestamp.parse? text = some t ∧ e = absolute t := by
  unfold parse at h
  split at h
  · next hnow => exact .inl ⟨hnow, (Except.ok.inj h).symm⟩
  · split at h
    · next d hd => exact .inr (.inl ⟨d, hd, (Except.ok.inj h).symm⟩)
    · split at h
      · next t ht => exact .inr (.inr ⟨t, ht, (Except.ok.inj h).symm⟩)
      · exact nomatch h

/-- An offset is anchored if the calendar goes as far. -/
theorem anchor_relative_eq_ok_iff {d : Duration} {current t : Instant} :
    (relative d).anchor current = .ok t ↔ current.add? d.nanos = some t := by
  rw [anchor]
  cases current.add? d.nanos with
  | none => exact ⟨nofun, nofun⟩
  | some u => rw [Except.ok.injEq, Option.some.injEq]

/-- A text resolves to now itself only as `now()`. Every other text that resolves points into the past:
a positive offset does not lead there, from whichever now. -/
theorem bound_of_resolve {text : String} {current t : Instant} (h : resolve text current = .ok t) :
    (text = nowText ∧ t = current) ∨ (IsPastBound text ∧ t < current) := by
  simp only [resolve, bind_eq_ok_iff, when_eq_ok_iff] at h
  obtain ⟨e, hparse, _, hanchor, hdirection, rfl⟩ := h
  rcases cases_of_parse hparse with ⟨htext, rfl⟩ | ⟨d, hd, rfl⟩ | ⟨u, hu, rfl⟩
  · exact .inl ⟨htext, (Except.ok.inj hanchor).symm⟩
  · have hlt := hdirection.resolve_left nofun
    have hneg : d.nanos < 0 := by
      by_contra h0
      exact Instant.not_lt_of_add? (by omega) (anchor_relative_eq_ok_iff.1 hanchor) hlt
    obtain ⟨body, hbody, htext⟩ := Duration.exists_groups_of_neg hd hneg
    exact .inr ⟨.offset hbody htext, hlt⟩
  · obtain ⟨f, hf⟩ := Timestamp.exists_fields_of_parse? hu
    exact .inr ⟨.timestamp f hf, hdirection.resolve_left nofun⟩

end TimeExpr

/-- A range is accepted if both of its bounds resolve, in order. -/
theorem TimeRange.resolve_eq_ok_iff {r : TimeRange} {current : Instant} {b : Instant × Instant} :
    r.resolve current = .ok b ↔
      r.start ≠ "" ∧ r.stop ≠ "" ∧ TimeExpr.resolve r.start current = .ok b.1 ∧
        TimeExpr.resolve r.stop current = .ok b.2 ∧ b.1 < b.2 := by
  obtain ⟨start, stop⟩ := b
  simp only [resolve, unless_eq_ok_iff, bind_eq_ok_iff, when_eq_ok_iff, Prod.mk.injEq]
  constructor
  · rintro ⟨h1, h2, _, hstart, _, hstop, hlt, rfl, rfl⟩
    exact ⟨h1, h2, hstart, hstop, hlt⟩
  · rintro ⟨h1, h2, hstart, hstop, hlt⟩
    exact ⟨h1, h2, start, hstart, stop, hstop, hlt, rfl, rfl⟩

/-- The start of a range that resolves is in the past. It cannot be `now()`, since no stop is later than
that. -/
theorem TimeRange.bounds_of_resolve {r : TimeRange} {current : Instant} {b : Instant × Instant}
    (h : r.resolve current = .ok b) :
    IsPastBound r.start ∧ (r.stop = TimeExpr.nowText ∨ IsPastBound r.stop) := by
  obtain ⟨-, -, hstart, hstop, hlt⟩ := resolve_eq_ok_iff.1 h
  rcases TimeExpr.bound_of_resolve hstart with ⟨-, hnow⟩ | ⟨hpast, -⟩
  · rw [hnow] at hlt
    rcases TimeExpr.bound_of_resolve hstop with ⟨-, hstop'⟩ | ⟨-, hstop'⟩
    · rw [hstop'] at hlt
      exact absurd hlt (Instant.lt_irrefl _)
    · exact absurd hlt (Instant.lt_asymm hstop')
  · refine ⟨hpast, ?_⟩
    rcases TimeExpr.bound_of_resolve hstop with ⟨hstop', -⟩ | ⟨hstop', -⟩
    · exact .inl hstop'
    · exact .inr hstop'

/-! ## Aggregation -/

/-- A reducer is read from its name alone. -/
theorem Reducer.ofName_eq_ok_iff {text : String} {r : Reducer} :
    ofName text = .ok r ↔ text = r.name := by
  unfold ofName
  split
  · cases r <;> simp [name]
  · cases r <;> simp [name]
  · next hmean hmedian =>
    refine ⟨nofun, fun h => ?_⟩
    cases r with
    | mean => exact (hmean h).elim
    | median => exact (hmedian h).elim

/-- An aggregation is valid if it is off, or its reducer and its window are. -/
theorem Aggregation.validate_eq_ok_iff {a : Aggregation} :
    a.validate = .ok () ↔
      (a.enabled = true → (∃ r : Reducer, a.reducer = r.name) ∧
        ∃ d, Duration.parseWindow a.every = .ok d) := by
  unfold validate
  split
  · next h =>
    simp only [bind_eq_ok_iff, pure_eq_ok_iff, Reducer.ofName_eq_ok_iff, and_true, h, true_implies]
    exact ⟨fun ⟨r, hr, d, hd⟩ => ⟨⟨r, hr⟩, d, hd⟩, fun ⟨⟨r, hr⟩, d, hd⟩ => ⟨r, hr, d, hd⟩⟩
  · next h => exact ⟨fun _ h' => absurd h' h, fun _ => rfl⟩

/-! ## Queries -/

namespace Query

/-- Filters are valid if no key and no value is empty. -/
theorem checkFilters_eq_ok_iff {filters : List TagFilter} :
    checkFilters filters = .ok () ↔ ∀ f ∈ filters, f.key ≠ "" ∧ f.value ≠ "" := by
  induction filters with
  | nil => exact ⟨fun _ _ h => absurd h List.not_mem_nil, fun _ => rfl⟩
  | cons f rest ih =>
      rw [checkFilters, List.forall_mem_cons, ← ih, ← not_or]
      split
      · next h => exact ⟨nofun, fun h' => absurd h h'.1⟩
      · next h => exact ⟨fun h' => ⟨h, h'⟩, And.right⟩

/-- A query passes validation exactly when it breaks none of the rules. -/
theorem validate_eq_ok_iff {q : Query} {current : Instant} :
    q.validate current = .ok () ↔
      q.bucket ≠ "" ∧ q.measurement ≠ "" ∧ q.fields ≠ [] ∧
        (∀ f ∈ q.filters, f.key ≠ "" ∧ f.value ≠ "") ∧ q.aggregation.validate = .ok () ∧
        ∃ b, q.range.resolve current = .ok b := by
  simp only [validate, unless_eq_ok_iff, bind_eq_ok_iff, pure_eq_ok_iff, and_true,
    ← checkFilters_eq_ok_iff]
  constructor
  · rintro ⟨hbucket, hmeasurement, hfields, _, hfilters, _, haggregation, hrange⟩
    exact ⟨hbucket, hmeasurement, hfields, hfilters, haggregation, hrange⟩
  · rintro ⟨hbucket, hmeasurement, hfields, hfilters, haggregation, hrange⟩
    exact ⟨hbucket, hmeasurement, hfields, (), hfilters, (), haggregation, hrange⟩

end Query

end SeriesQuery
