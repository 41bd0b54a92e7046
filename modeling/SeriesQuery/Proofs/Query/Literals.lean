import SeriesQuery.Proofs.Query.Validity

/-!
# Literals without quotes

The bounds of the range and the settings of the window stand in a script without quotes. In a query that
passes validation they are literals of fixed forms (`literals_of_validate`), in which no character
occurs that ends a literal or starts another part of the script.
-/

namespace SeriesQuery

open Text

namespace Script

/-- The character separates the parts of a script: a blank, such as the line feed between two stages, a
comma, a quote, or the bar of a pipe. -/
def isSeparator (c : Char) : Bool :=
  isBlank c || c == '\n' || c == ',' || c == '\"' || c == '\'' || c == '|'

/-- The character opens or closes an argument list. -/
def isParenthesis (c : Char) : Bool := c == '(' || c == ')'

/-- The characters stay inside one literal of a script. -/
def IsInert (cs : List Char) : Prop := ∀ c ∈ cs, isSeparator c = false ∧ isParenthesis c = false

instance (cs : List Char) : Decidable (IsInert cs) :=
  List.decidableBAll (fun c => isSeparator c = false ∧ isParenthesis c = false) cs

/-- A text is inert if both of its parts are. -/
theorem isInert_append {as bs : List Char} : IsInert (as ++ bs) ↔ IsInert as ∧ IsInert bs :=
  List.forall_mem_append

/-- A text is inert if its first character and the others are. -/
theorem isInert_cons {c : Char} {cs : List Char} :
    IsInert (c :: cs) ↔ (isSeparator c = false ∧ isParenthesis c = false) ∧ IsInert cs :=
  List.forall_mem_cons

/-- Digits are inert. -/
theorem isInert_of_isDigits {cs : List Char} (h : IsDigits cs) : IsInert cs := by
  intro c hc
  have hd : c.isDigit = true := h c hc
  have hne : ∀ {d : Char}, d.isDigit = false → c ≠ d := by
    rintro d hd' rfl
    rw [hd] at hd'
    exact nomatch hd'
  obtain ⟨h0, h9⟩ := Char.isDigit_iff_toNat.1 hd
  have e0 : '0'.toNat = 48 := rfl
  have e9 : '9'.toNat = 57 := rfl
  have hblank : isBlank c = false := by
    simp only [isBlank, Bool.or_eq_false_iff, Bool.and_eq_false_iff, decide_eq_false_iff_not,
      beq_eq_false_iff_ne]
    omega
  simp [isSeparator, isParenthesis, hblank, hne (d := '\n') rfl, hne (d := ',') rfl,
    hne (d := '\"') rfl, hne (d := '\'') rfl, hne (d := '|') rfl, hne (d := '(') rfl, hne (d := ')') rfl]

end Script

open Script

/-- The spellings of a unit are inert. -/
theorem Duration.TimeUnit.isInert_of_mem_spellings {unit : TimeUnit} {spelling : List Char}
    (h : spelling ∈ unit.spellings) : IsInert spelling := by
  have hall : ∀ s ∈ unit.spellings, IsInert s := by cases unit <;> decide
  exact hall spelling h

/-- A group without a fraction is inert. -/
theorem Duration.Group.WritesWhole.isInert {g : Group} {cs : List Char} (h : g.WritesWhole cs) :
    IsInert cs := by
  obtain ⟨hd, -, hs⟩ := h
  exact isInert_append.2 ⟨isInert_of_isDigits hd, TimeUnit.isInert_of_mem_spellings hs⟩

/-- A group is inert, with or without a fraction. -/
theorem Duration.Group.Writes.isInert {g : Group} {cs : List Char} (h : g.Writes cs) :
    IsInert cs := by
  rcases h with h | ⟨hd, hf, -, hs⟩
  · exact h.isInert
  · refine isInert_append.2 ⟨isInert_of_isDigits hd, isInert_cons.2 ⟨by decide, ?_⟩⟩
    exact isInert_append.2 ⟨isInert_of_isDigits hf, TimeUnit.isInert_of_mem_spellings hs⟩

/-- Groups one after the other are inert. -/
theorem Duration.IsMagnitude.isInert {cs : List Char} (h : IsMagnitude cs) : IsInert cs := by
  obtain ⟨gs, -, hgs⟩ := h
  exact hgs.forall_mem fun _ _ hg => hg.isInert

/-- A window is inert. -/
theorem Duration.IsWindow.isInert {cs : List Char} (h : IsWindow cs) : IsInert cs := by
  obtain ⟨gs, -, hgs⟩ := h
  exact hgs.forall_mem fun _ _ hg => hg.isInert

/-- A timestamp is inert. -/
theorem Timestamp.Fields.isInert_text (f : Fields) : IsInert f.text := by
  have hp : ∀ width n, IsInert (padded width n) := fun width n =>
    isInert_of_isDigits (isDigits_padded width n)
  simp only [text, isInert_append, isInert_cons, hp, true_and]
  decide

/-- A bound in the past is inert. -/
theorem IsPastBound.isInert {text : String} (h : IsPastBound text) : IsInert text.toList := by
  cases h with
  | offset hbody htext =>
      rw [htext]
      exact isInert_cons.2 ⟨by decide, hbody.isInert⟩
  | timestamp f htext =>
      rw [htext]
      exact f.isInert_text

/-- The name of a reducer is inert. -/
theorem Reducer.isInert_name (r : Reducer) : IsInert r.name.toList := by
  cases r <;> decide

namespace Query

/-- The texts of the query that stand in its script without quotes, apart from the keys of filters. -/
def bareTexts (q : Query) : List String :=
  [q.range.start, q.range.stop] ++
    if q.aggregation.enabled then [q.aggregation.every, q.aggregation.reducer] else []

/-- The texts that a script takes over as they are. -/
theorem mem_bareTexts {q : Query} {text : String} :
    text ∈ q.bareTexts ↔ text = q.range.start ∨ text = q.range.stop ∨
      (q.aggregation.enabled = true ∧ (text = q.aggregation.every ∨ text = q.aggregation.reducer)) := by
  unfold bareTexts
  split
  · next h => simp [h]
  · next h => simp [h]

variable {q : Query} {current : Instant}

/-- The bounds of a query that passes validation. -/
theorem bounds_of_validate (h : q.validate current = .ok ()) :
    IsPastBound q.range.start ∧ (q.range.stop = TimeExpr.nowText ∨ IsPastBound q.range.stop) := by
  obtain ⟨-, -, -, -, -, b, hb⟩ := validate_eq_ok_iff.1 h
  exact TimeRange.bounds_of_resolve hb

/-- The window of a query that passes validation. -/
theorem window_of_validate (h : q.validate current = .ok ()) (henabled : q.aggregation.enabled = true) :
    Duration.IsWindow q.aggregation.every.toList ∧ ∃ r : Reducer, q.aggregation.reducer = r.name := by
  obtain ⟨-, -, -, -, haggregation, -⟩ := validate_eq_ok_iff.1 h
  obtain ⟨hreducer, d, hd⟩ := Aggregation.validate_eq_ok_iff.1 haggregation henabled
  exact ⟨Duration.isWindow_of_parseWindow hd, hreducer⟩

/-- A text that stands in the script of a valid query without quotes stays inside one literal, or is
`now()`. -/
theorem eq_now_or_isInert (h : q.validate current = .ok ()) {text : String}
    (htext : text ∈ q.bareTexts) : text = TimeExpr.nowText ∨ IsInert text.toList := by
  obtain ⟨hstart, hstop⟩ := bounds_of_validate h
  rcases mem_bareTexts.1 htext with rfl | rfl | ⟨henabled, rfl | rfl⟩
  · exact .inr hstart.isInert
  · exact hstop.imp_right IsPastBound.isInert
  · exact .inr (window_of_validate h henabled).1.isInert
  · obtain ⟨r, hr⟩ := (window_of_validate h henabled).2
    exact .inr (hr ▸ r.isInert_name)

/-- No separator stands in a text without quotes, `now()` included. -/
theorem isSeparator_eq_false (h : q.validate current = .ok ()) {text : String}
    (htext : text ∈ q.bareTexts) : ∀ c ∈ text.toList, isSeparator c = false := by
  intro c hc
  rcases eq_now_or_isInert h htext with rfl | hinert
  · have hall : (TimeExpr.nowText.toList.all fun c => !isSeparator c) = true := by decide
    simpa using List.all_eq_true.1 hall c hc
  · exact (hinert c hc).1

/-- The bounds of the range and the settings of an enabled window are literals. None of them holds a
separator, and only `now()` holds parentheses. -/
structure HasLiterals (q : Query) : Prop where
  start : IsPastBound q.range.start
  start_ne_now : q.range.start ≠ "now()"
  stop : IsPastBound q.range.stop ∨ q.range.stop = "now()"
  window : q.aggregation.enabled = true → Duration.IsWindow q.aggregation.every.toList
  reducer : q.aggregation.enabled = true →
    q.aggregation.reducer = "mean" ∨ q.aggregation.reducer = "median"
  separator : ∀ text ∈ q.bareTexts, ∀ c ∈ text.toList, isSeparator c = false
  parenthesis : ∀ text ∈ q.bareTexts, text ≠ "now()" → ∀ c ∈ text.toList, isParenthesis c = false

/-- In a query that passes validation, at whichever now, the texts without quotes are literals. -/
theorem literals_of_validate (h : q.validate current = .ok ()) : q.HasLiterals := by
  obtain ⟨hstart, hstop⟩ := bounds_of_validate h
  exact {
    start := hstart
    start_ne_now := by
      intro hnow
      have hinert := hstart.isInert
      rw [hnow] at hinert
      exact absurd hinert (by decide)
    stop := hstop.symm
    window := fun henabled => (window_of_validate h henabled).1
    reducer := by
      intro henabled
      obtain ⟨-, r, hr⟩ := window_of_validate h henabled
      cases r with
      | mean => exact .inl hr
      | median => exact .inr hr
    separator := fun text htext => isSeparator_eq_false h htext
    parenthesis := by
      intro text htext hne c hc
      exact ((eq_now_or_isInert h htext).resolve_left hne c hc).2 }

/-- A window of two groups, and a range that is valid inside a leap second. -/
def acrossLeapSecond : Query where
  bucket := "sensors"
  measurement := "air"
  fields := ["value"]
  aggregation := .ofWindow "1m30s" .mean
  range := ⟨"2016-12-31T23:59:59Z", "-.5s1ns"⟩

/-- The query across a leap second is valid inside of it, and has literals. -/
theorem literals_acrossLeapSecond :
    acrossLeapSecond.validate ⟨1483228799, 1500000000⟩ = .ok () ∧ acrossLeapSecond.HasLiterals := by
  have hvalid : acrossLeapSecond.validate ⟨1483228799, 1500000000⟩ = .ok () := by decide +kernel
  exact ⟨hvalid, literals_of_validate hvalid⟩

end Query

end SeriesQuery
