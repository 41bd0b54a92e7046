import SeriesQuery.Proofs.Calendar.Canonical

/-!
# Instants that have a canonical text

`Timestamp.render` writes every instant: years outside 0 to 9999 with a sign, leap seconds as second 60.
`Timestamp.parse?` reads neither of the two. The text of an instant is read as the second that it shows or
not at all, and which of the two is a matter of its fields (`Timestamp.parse?_render_eq_some_iff`). Read or
not, the text tells which second it is (`Timestamp.shownSecond_eq_of_render_eq`).
-/

namespace SeriesQuery

open Text

namespace Instant

variable {t : Instant}

/-- The year has four digits, and the second is one of sixty. -/
structure IsWritable (t : Instant) : Prop where
  year_nonneg : 0 ≤ t.date.year
  year_le : t.date.year ≤ 9999
  second_lt : t.second < 60

/-- Its nanoseconds run on from those of a second in a leap second alone, which follows a second 59. -/
structure IsRegular (t : Instant) : Prop where
  nanos_lt : t.nanos < 2 * nanosPerSecond
  leap : nanosPerSecond ≤ t.nanos → t.secs % 60 = 59

/-- The start of the second that a clock shows at the instant. -/
def shownSecond (t : Instant) : Instant := ⟨t.secs + (t.nanos / nanosPerSecond : Nat), 0⟩

/-- A whole second is shown as it is. -/
theorem shownSecond_of_nanos_eq_zero (h : t.nanos = 0) : t.shownSecond = t := by
  obtain ⟨secs, nanos⟩ := t
  obtain rfl : nanos = 0 := h
  rw [shownSecond, Nat.zero_div, Int.natCast_zero, Int.add_zero]

/-- The second of the day is within the day. -/
theorem secondOfDay_lt (t : Instant) : t.secondOfDay < 86400 := by
  have hday : secondsPerDay = 86400 := rfl
  rw [secondOfDay, hday]
  omega

/-- A day has 24 hours. -/
theorem hour_lt (t : Instant) : t.hour < 24 := by
  have hlt := t.secondOfDay_lt
  rw [hour]
  omega

/-- An hour has 60 minutes. -/
theorem minute_lt (t : Instant) : t.minute < 60 := Nat.mod_lt _ (by decide)

/-- Day and time of day make up the instant. -/
theorem toDays_date (t : Instant) :
    t.date.toDays * secondsPerDay + ((t.hour * 3600 + t.minute * 60 + t.second : Nat) : Int) =
      t.secs + (t.nanos / nanosPerSecond : Nat) := by
  have hday : secondsPerDay = 86400 := rfl
  rw [date, Date.toDays_ofDays, hour, minute, second, secondOfDay, hday]
  omega

end Instant

namespace Timestamp

variable {t u : Instant}

/-! ## Years -/

/-- A year of four digits is written without a sign. -/
theorem writeYear_of_fits {year : Int} (hnonneg : 0 ≤ year) (hle : year ≤ 9999) :
    writeYear year = padded 4 year.toNat := by
  obtain ⟨n, rfl⟩ := Int.eq_ofNat_of_zero_le hnonneg
  rw [writeYear, if_neg (Int.not_lt.2 hnonneg), if_pos hle]
  rfl

/-- A text that starts with a digit has no sign in front of its year. -/
theorem fits_of_writeYear {year : Int} {c : Char} {cs rest : List Char} (hc : c.isDigit = true)
    (h : writeYear year ++ rest = c :: cs) : 0 ≤ year ∧ year ≤ 9999 := by
  unfold writeYear at h
  split at h
  · obtain ⟨rfl, -⟩ := List.cons.inj h
    exact absurd hc (by decide)
  · next hnonneg =>
    split at h
    · next hle => exact ⟨Int.not_lt.1 hnonneg, hle⟩
    · obtain ⟨rfl, -⟩ := List.cons.inj h
      exact absurd hc (by decide)

/-! ## The fields of an instant -/

/-- The calendar fields that a writable instant shows. -/
def fields (t : Instant) (h : t.IsWritable) : Fields where
  year := t.date.year.toNat
  month := t.date.month
  day := t.date.day
  hour := t.hour
  minute := t.minute
  second := t.second
  year_le := Int.toNat_le.2 h.year_le
  date_valid := by
    rw [Int.toNat_of_nonneg h.year_nonneg]
    exact Date.isValid_ofDays _
  hour_lt := t.hour_lt
  minute_lt := t.minute_lt
  second_lt := h.second_lt

/-- A rendered instant is its second with the letter of UTC behind it. -/
theorem toList_render (t : Instant) : (render t).toList = writeSecond t ++ ['Z'] := String.toList_ofList

/-- A writable instant is rendered as its fields. -/
theorem toList_render_eq (h : t.IsWritable) : (render t).toList = (fields t h).text := by
  rw [toList_render, writeSecond, writeYear_of_fits h.year_nonneg h.year_le]
  simp only [Fields.text, fields, List.append_assoc, List.cons_append]

/-- The fields of an instant stand for the second that it shows. -/
theorem instant_fields (h : t.IsWritable) : (fields t h).instant = t.shownSecond := by
  rw [Instant.shownSecond, ← Instant.toDays_date, Fields.instant, fields]
  simp only [Int.toNat_of_nonneg h.year_nonneg]

/-- Seconds stand in the same place in all texts with years of four digits. -/
theorem length_before_second {year month day hour minute : Nat} (hyear : year < tenTo 4)
    (hmonth : month < tenTo 2) (hday : day < tenTo 2) (hhour : hour < tenTo 2)
    (hminute : minute < tenTo 2) :
    (padded 4 year ++ '-' :: padded 2 month ++ '-' :: padded 2 day ++ 'T' :: padded 2 hour ++
      ':' :: padded 2 minute).length = 16 := by
  have htwo : 0 < 2 := by decide
  simp only [List.length_append, List.length_cons, length_padded (by decide : 0 < 4) hyear,
    length_padded htwo hmonth, length_padded htwo hday, length_padded htwo hhour,
    length_padded htwo hminute]

/-- Only writable instants are read back. -/
theorem isWritable_of_parse? (h : parse? (render t) = some u) : t.IsWritable := by
  obtain ⟨f, hf⟩ := exists_fields_of_parse? h
  rw [toList_render, Fields.text, List.append_cancel_right_eq] at hf
  have hyear : f.year < tenTo 4 := Nat.lt_of_le_of_lt f.year_le (by decide)
  obtain ⟨hhour, hminute, -⟩ := f.clock_lt
  -- the text starts with a digit, so the year of the instant has four of them
  obtain ⟨hnonneg, hle⟩ : 0 ≤ t.date.year ∧ t.date.year ≤ 9999 := by
    obtain ⟨c, cs, hcs, hc⟩ := exists_padded_eq_cons 4 f.year
    rw [writeSecond, hcs] at hf
    simp only [List.append_assoc, List.cons_append] at hf
    exact fits_of_writeYear hc hf
  -- so both seconds stand in the same place
  have hvalid := Date.isValid_ofDays (t.secs / secondsPerDay)
  have hmonth' : t.date.month < tenTo 2 := Nat.lt_of_le_of_lt (Date.isValid_iff.1 hvalid).2.1 (by decide)
  have hday' : t.date.day < tenTo 2 := Nat.lt_of_le_of_lt (Date.day_le_of_isValid hvalid) (by decide)
  have hyear' : t.date.year.toNat < tenTo 4 := Nat.lt_of_le_of_lt (Int.toNat_le.2 hle) (by decide)
  rw [writeSecond, writeYear_of_fits hnonneg hle] at hf
  have hsecond := (List.append_inj hf ((length_before_second hyear' hmonth' hday'
    (Nat.lt_trans t.hour_lt (by decide)) (Nat.lt_trans t.minute_lt (by decide))).trans
    (length_before_second hyear f.month_lt f.day_lt hhour hminute).symm)).2
  rw [List.cons.injEq] at hsecond
  exact ⟨hnonneg, hle, padded_inj hsecond.2 ▸ f.second_lt⟩

/-- The text of an instant is read as the second that the instant shows, or not at all. -/
theorem parse?_render_eq_some_iff :
    parse? (render t) = some u ↔ t.IsWritable ∧ u = t.shownSecond := by
  have hread : t.IsWritable → parse? (render t) = some t.shownSecond := fun h => by
    rw [parse?_text (toList_render_eq h), instant_fields h]
  constructor
  · intro h
    have hwritable := isWritable_of_parse? h
    exact ⟨hwritable, Option.some.inj (h.symm.trans (hread hwritable))⟩
  · rintro ⟨h, rfl⟩
    exact hread h

/-! ## Instants told apart by their texts -/

/-- The sign in front of a year. -/
def yearSign (year : Int) : List Char :=
  if year < 0 then ['-'] else if year ≤ 9999 then [] else ['+']

/-- A year is its sign and four digits at least. -/
theorem writeYear_eq (year : Int) : writeYear year = yearSign year ++ padded 4 year.natAbs := by
  unfold writeYear yearSign
  split
  · rfl
  · split <;> rfl

/-- Only years before the year zero have a minus sign. -/
theorem yearSign_eq_minus_iff {year : Int} : yearSign year = ['-'] ↔ year < 0 := by
  unfold yearSign
  split
  · next hneg => exact iff_of_true rfl hneg
  · next hnonneg =>
    refine iff_of_false ?_ hnonneg
    split <;> decide

/-- Behind its sign a year goes on with its first digit. -/
theorem dropWhile_writeYear (year : Int) (rest : List Char) :
    (writeYear year ++ rest).dropWhile (!·.isDigit) = padded 4 year.natAbs ++ rest := by
  obtain ⟨c, cs, hcs, hc⟩ := exists_padded_eq_cons 4 year.natAbs
  have hsign : ∀ d ∈ yearSign year, (!d.isDigit) = true := by
    unfold yearSign
    split
    · exact List.forall_mem_singleton.2 rfl
    · split
      · exact fun _ h => absurd h List.not_mem_nil
      · exact List.forall_mem_singleton.2 rfl
  rw [writeYear_eq, List.append_assoc, List.dropWhile_append_of_pos hsign, hcs, List.cons_append,
    List.dropWhile_cons_of_neg (by simp [hc])]

/-- In front of a dash the year can be told. -/
theorem writeYear_append_cons_inj {year year' : Int} {as bs : List Char}
    (h : writeYear year ++ '-' :: as = writeYear year' ++ '-' :: bs) : year = year' ∧ as = bs := by
  have hbehind := congrArg (List.dropWhile (!·.isDigit)) h
  rw [dropWhile_writeYear, dropWhile_writeYear] at hbehind
  obtain ⟨habs, rfl⟩ := padded_append_cons_inj rfl hbehind
  -- the numbers are the same, so the signs are
  rw [writeYear_eq, writeYear_eq, habs, List.append_assoc, List.append_assoc,
    List.append_cancel_right_eq] at h
  refine ⟨?_, rfl⟩
  have hneg : year < 0 ↔ year' < 0 := by
    rw [← yearSign_eq_minus_iff, h, yearSign_eq_minus_iff]
  omega

/-- The text of an instant tells its fields. -/
theorem fields_of_writeSecond_eq (h : writeSecond t = writeSecond u) :
    t.date = u.date ∧ t.hour = u.hour ∧ t.minute = u.minute ∧ t.second = u.second := by
  simp only [writeSecond, List.append_assoc, List.cons_append] at h
  obtain ⟨hyear, h⟩ := writeYear_append_cons_inj h
  obtain ⟨hmonth, h⟩ := padded_append_cons_inj rfl h
  obtain ⟨hday, h⟩ := padded_append_cons_inj rfl h
  obtain ⟨hhour, h⟩ := padded_append_cons_inj rfl h
  obtain ⟨hminute, h⟩ := padded_append_cons_inj rfl h
  refine ⟨?_, hhour, hminute, padded_inj h⟩
  rw [Date.mk.injEq]
  exact ⟨hyear, hmonth, hday⟩

/-- Instants with one text show the same second, also where the text is not canonical. -/
theorem shownSecond_eq_of_render_eq (h : render t = render u) : t.shownSecond = u.shownSecond := by
  have hlist := congrArg String.toList h
  rw [toList_render, toList_render, List.append_cancel_right_eq] at hlist
  obtain ⟨hdate, hhour, hminute, hsecond⟩ := fields_of_writeSecond_eq hlist
  rw [Instant.shownSecond, Instant.shownSecond, ← t.toDays_date, ← u.toDays_date, hdate, hhour, hminute,
    hsecond]

/-- Whole seconds are told apart by their texts. -/
theorem eq_of_render_eq (ht : t.nanos = 0) (hu : u.nanos = 0) (h : render t = render u) : t = u := by
  rw [← Instant.shownSecond_of_nanos_eq_zero ht, shownSecond_eq_of_render_eq h,
    Instant.shownSecond_of_nanos_eq_zero hu]

end Timestamp

end SeriesQuery
