import SeriesQuery.Calendar.Timestamp
import SeriesQuery.Proofs.Calendar.Date
import SeriesQuery.Proofs.Text.Scan

/-!
# Canonical timestamps

The texts `YYYY-MM-DDThh:mm:ssZ`, given by their calendar fields. Every one of them is read as the instant
of its fields, and no other text is read (`parse?_eq_some_iff`).
-/

namespace SeriesQuery.Timestamp

open Text

/-- The fields of a canonical timestamp: a day of the calendar in a year of four digits, and a time of day
without leap second. -/
structure Fields where
  year : Nat
  month : Nat
  day : Nat
  hour : Nat
  minute : Nat
  second : Nat
  year_le : year ≤ 9999
  date_valid : (Date.mk year month day).isValid = true
  hour_lt : hour < 24
  minute_lt : minute < 60
  second_lt : second < 60

/-- The canonical text of the fields. -/
def Fields.text (f : Fields) : List Char :=
  padded 4 f.year ++ '-' :: padded 2 f.month ++ '-' :: padded 2 f.day ++ 'T' :: padded 2 f.hour ++
    ':' :: padded 2 f.minute ++ ':' :: padded 2 f.second ++ ['Z']

/-- The scan of a canonical timestamp reads the text of the fields that it returns. -/
theorem eq_of_canonical {cs rest : List Char} {date : Date} {hour minute second : Nat}
    (h : canonical cs = some ((date, hour, minute, second), rest)) :
    ∃ year month day, year ≤ 9999 ∧ date = ⟨(year : Nat), month, day⟩ ∧
      cs = padded 4 year ++ '-' :: padded 2 month ++ '-' :: padded 2 day ++ 'T' :: padded 2 hour ++
        ':' :: padded 2 minute ++ ':' :: padded 2 second ++ 'Z' :: rest := by
  simp only [canonical, Scan.bind_eq_some_iff, Scan.char_eq_some_iff, Scan.pure_eq_some_iff, Prod.mk.injEq,
    Scan.number_eq_some_iff_padded (show 0 < 4 by decide), Scan.number_eq_some_iff_padded Nat.two_pos] at h
  obtain ⟨year, _, ⟨hlt, rfl⟩, -, _, rfl, month, _, ⟨-, rfl⟩, -, _, rfl, day, _, ⟨-, rfl⟩, -, _, rfl,
    _, _, ⟨-, rfl⟩, -, _, rfl, _, _, ⟨-, rfl⟩, -, _, rfl, _, _, ⟨-, rfl⟩, -, _, rfl,
    ⟨hdate, rfl, rfl, rfl⟩, rfl⟩ := h
  have hten : tenTo 4 = 10000 := rfl
  refine ⟨year, month, day, by omega, hdate.symm, ?_⟩
  simp only [List.append_assoc, List.cons_append]

/-- The instant of the fields. -/
def Fields.instant (f : Fields) : Instant :=
  ⟨(Date.mk f.year f.month f.day).toDays * secondsPerDay +
    ((f.hour * 3600 + f.minute * 60 + f.second : Nat) : Int), 0⟩

/-- A month has two digits at most. -/
theorem Fields.month_lt (f : Fields) : f.month < tenTo 2 := by
  obtain ⟨-, hmonth, -⟩ := Date.isValid_iff.1 f.date_valid
  exact Nat.lt_of_le_of_lt hmonth (by decide)

/-- A day has two digits at most. -/
theorem Fields.day_lt (f : Fields) : f.day < tenTo 2 :=
  Nat.lt_of_le_of_lt (Date.day_le_of_isValid f.date_valid) (by decide)

/-- The fields of the time of day have two digits at most. -/
theorem Fields.clock_lt (f : Fields) :
    f.hour < tenTo 2 ∧ f.minute < tenTo 2 ∧ f.second < tenTo 2 := by
  have hten : tenTo 2 = 100 := rfl
  have hhour := f.hour_lt
  have hminute := f.minute_lt
  have hsecond := f.second_lt
  omega

/-- The text of calendar fields is read as these fields. -/
theorem canonical_text (f : Fields) :
    canonical f.text = some ((⟨f.year, f.month, f.day⟩, f.hour, f.minute, f.second), []) := by
  have hyear : f.year < tenTo 4 := Nat.lt_of_le_of_lt f.year_le (by decide)
  obtain ⟨hhour, hminute, hsecond⟩ := f.clock_lt
  simp only [Fields.text, List.append_assoc, List.cons_append]
  rw [canonical, Scan.bind_of_eq_some (Scan.number_padded (by decide) hyear _),
    Scan.bind_of_eq_some (Scan.char_cons _ _),
    Scan.bind_of_eq_some (Scan.number_padded (by decide) f.month_lt _),
    Scan.bind_of_eq_some (Scan.char_cons _ _),
    Scan.bind_of_eq_some (Scan.number_padded (by decide) f.day_lt _),
    Scan.bind_of_eq_some (Scan.char_cons _ _),
    Scan.bind_of_eq_some (Scan.number_padded (by decide) hhour _),
    Scan.bind_of_eq_some (Scan.char_cons _ _),
    Scan.bind_of_eq_some (Scan.number_padded (by decide) hminute _),
    Scan.bind_of_eq_some (Scan.char_cons _ _),
    Scan.bind_of_eq_some (Scan.number_padded (by decide) hsecond _),
    Scan.bind_of_eq_some (Scan.char_cons _ _)]
  rfl

/-- The years of the fields are among those that instants have. -/
theorem Fields.ofFields?_eq (f : Fields) :
    Instant.ofFields? ⟨f.year, f.month, f.day⟩ f.hour f.minute f.second 0 = some f.instant := by
  have hyear := f.year_le
  have hhour := f.hour_lt
  have hminute := f.minute_lt
  have hsecond := f.second_lt
  have hfirst : Date.firstYear = -262143 := rfl
  have hlast : Date.lastYear = 262142 := rfl
  rw [Instant.ofFields?, if_pos ⟨f.date_valid, by dsimp only; omega, by dsimp only; omega, hhour, hminute,
    by omega⟩]
  simp only [instant, Nat.min_eq_left (Nat.le_of_lt_succ hsecond), if_neg (Nat.ne_of_lt hsecond)]

/-- The text of fields is read as their instant. -/
theorem parse?_text {text : String} {f : Fields} (h : text.toList = f.text) :
    parse? text = some f.instant := by
  rw [parse?, h, Scan.all?_eq_some_iff.2 (canonical_text f)]
  show (if f.second < 60 then _ else none) = _
  rw [if_pos f.second_lt, f.ofFields?_eq]

/-- Only the text of calendar fields is read as a canonical timestamp. -/
theorem exists_fields_of_parse? {text : String} {t : Instant} (h : parse? text = some t) :
    ∃ f : Fields, text.toList = f.text := by
  simp only [parse?, Option.bind_eq_bind, Option.bind_eq_some_iff, Scan.all?_eq_some_iff,
    Prod.exists, Option.ite_none_right_eq_some, Instant.ofFields?] at h
  obtain ⟨date, hour, minute, second, hscan, hsecond, ⟨hvalid, -, -, hhour, hminute, -⟩, -⟩ := h
  obtain ⟨year, month, day, hyear, rfl, htext⟩ := eq_of_canonical hscan
  exact ⟨⟨year, month, day, hour, minute, second, hyear, hvalid, hhour, hminute, hsecond⟩, htext⟩

/-- A text is read as a canonical timestamp exactly when it is the text of calendar fields. -/
theorem parse?_eq_some_iff {text : String} {t : Instant} :
    parse? text = some t ↔ ∃ f : Fields, text.toList = f.text ∧ f.instant = t := by
  constructor
  · intro h
    obtain ⟨f, htext⟩ := exists_fields_of_parse? h
    exact ⟨f, htext, Option.some.inj ((parse?_text htext).symm.trans h)⟩
  · rintro ⟨f, htext, rfl⟩
    exact parse?_text htext

end SeriesQuery.Timestamp
