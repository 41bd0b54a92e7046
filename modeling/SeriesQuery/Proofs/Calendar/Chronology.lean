import SeriesQuery.Proofs.Calendar.Instant
import SeriesQuery.Proofs.Calendar.Rendered

/-!
# Canonical timestamps in order

Canonical timestamps and the starts of seconds in the years 0 to 9999 stand for each other: to read one and
to write it again, or the other way around, changes nothing (`canonicalExactly`). Their numbers come from the
greatest unit to the least and all in the same width, so texts that are compared as bytes are compared as
times (`Fields.text_lt_iff`, `Fields.instant_lt_iff`).
-/

namespace SeriesQuery

namespace Text

variable {text text' : String}

/-- The bytes of the text, in UTF-8. -/
def bytes (text : String) : List UInt8 := text.toUTF8.data.toList

/-- All characters have codes of seven bits. -/
def IsAscii (cs : List Char) : Prop := ∀ c ∈ cs, c.toNat < 128

/-- An ASCII character is its own byte. -/
theorem utf8EncodeChar_of_ascii {c : Char} (h : c.toNat < 128) :
    String.utf8EncodeChar c = [c.toUInt8] := by
  have hsize : c.utf8Size = 1 := by
    rw [Char.utf8Size_eq_one_iff, UInt32.le_iff_toNat_le]
    exact Nat.le_of_lt_succ h
  exact String.utf8EncodeChar_eq_singleton hsize

/-- The bytes of an ASCII text are the codes of its characters. -/
theorem bytes_eq_map (h : IsAscii text.toList) : bytes text = text.toList.map Char.toUInt8 := by
  have hbytes : bytes text = text.toList.flatMap String.utf8EncodeChar := by
    rw [bytes, String.toUTF8, ← String.utf8Encode_toList, List.utf8Encode, List.toList_data_toByteArray]
  rw [hbytes, List.map_eq_flatMap]
  apply List.flatMap_congr
  intro c hc
  exact utf8EncodeChar_of_ascii (h c hc)

/-- No code is cut off by its byte. -/
theorem toNat_toUInt8 {c : Char} (h : c.toNat < 128) : c.toUInt8.toNat = c.toNat := by
  show c.val.toUInt8.toNat = c.val.toNat
  rw [UInt32.toNat_toUInt8]
  exact Nat.mod_eq_of_lt (Nat.lt_trans h (by decide))

/-- ASCII characters are ordered like their bytes. -/
theorem toUInt8_lt_iff {c d : Char} (hc : c.toNat < 128) (hd : d.toNat < 128) :
    c.toUInt8 < d.toUInt8 ↔ c < d := by
  rw [UInt8.lt_iff_toNat_lt, toNat_toUInt8 hc, toNat_toUInt8 hd]
  rfl

/-- Different ASCII characters have different bytes. -/
theorem toUInt8_inj {c d : Char} (hc : c.toNat < 128) (hd : d.toNat < 128) :
    c.toUInt8 = d.toUInt8 ↔ c = d := by
  rw [← UInt8.toNat_inj, toNat_toUInt8 hc, toNat_toUInt8 hd, Char.toNat_inj]

/-- ASCII texts are ordered like their bytes. -/
theorem map_toUInt8_lt_iff {cs ds : List Char} (hcs : IsAscii cs) (hds : IsAscii ds) :
    cs.map Char.toUInt8 < ds.map Char.toUInt8 ↔ cs < ds := by
  induction cs generalizing ds with
  | nil =>
      cases ds with
      | nil => exact iff_of_false (List.lt_irrefl _) (List.lt_irrefl _)
      | cons d ds => exact iff_of_true (List.nil_lt_cons _ _) (List.nil_lt_cons _ _)
  | cons c cs ih =>
      cases ds with
      | nil => exact iff_of_false (List.not_lt_nil _) (List.not_lt_nil _)
      | cons d ds =>
          obtain ⟨hc, hcs⟩ := List.forall_mem_cons.1 hcs
          obtain ⟨hd, hds⟩ := List.forall_mem_cons.1 hds
          rw [List.map_cons, List.map_cons, List.cons_lt_cons_iff, List.cons_lt_cons_iff,
            toUInt8_lt_iff hc hd, toUInt8_inj hc hd, ih hcs hds]

/-- The bytes of ASCII texts are in the order of the characters. -/
theorem bytes_lt_iff (h : IsAscii text.toList) (h' : IsAscii text'.toList) :
    bytes text < bytes text' ↔ text.toList < text'.toList := by
  rw [bytes_eq_map h, bytes_eq_map h', map_toUInt8_lt_iff h h']

theorem isAscii_append {cs ds : List Char} : IsAscii (cs ++ ds) ↔ IsAscii cs ∧ IsAscii ds :=
  List.forall_mem_append

/-- A text is ASCII if its first character and the others are. -/
theorem isAscii_cons {c : Char} {cs : List Char} : IsAscii (c :: cs) ↔ c.toNat < 128 ∧ IsAscii cs :=
  List.forall_mem_cons

/-- Digits are ASCII. -/
theorem isAscii_of_isDigits {cs : List Char} (h : IsDigits cs) : IsAscii cs := by
  intro c hc
  have hnine : c.toNat ≤ '9'.toNat := (Char.isDigit_iff_toNat.1 (h c hc)).2
  exact Nat.lt_of_le_of_lt hnine (by decide)

end Text

namespace Timestamp

open Text

namespace Fields

variable {f g : Fields} {text : String}

/-! ## The order of the fields -/

/-- The numbers of the fields, from the year to the second. -/
def numbers (f : Fields) : List ℕ := [f.year, f.month, f.day, f.hour, f.minute, f.second]

/-- The numbers of two timestamps are compared from the year down to the second. -/
theorem numbers_lt_iff : f.numbers < g.numbers ↔
    f.year < g.year ∨ f.year = g.year ∧ (f.month < g.month ∨ f.month = g.month ∧
      (f.day < g.day ∨ f.day = g.day ∧ (f.hour < g.hour ∨ f.hour = g.hour ∧
        (f.minute < g.minute ∨ f.minute = g.minute ∧ f.second < g.second)))) := by
  simp only [numbers, List.cons_lt_cons_iff, List.not_lt_nil, and_false, or_false]

/-- The texts are in the order of the numbers. -/
theorem text_lt_iff : f.text < g.text ↔ f.numbers < g.numbers := by
  have hfyear : f.year < tenTo 4 := Nat.lt_of_le_of_lt f.year_le (by decide)
  have hgyear : g.year < tenTo 4 := Nat.lt_of_le_of_lt g.year_le (by decide)
  obtain ⟨hfhour, hfminute, hfsecond⟩ := f.clock_lt
  obtain ⟨hghour, hgminute, hgsecond⟩ := g.clock_lt
  simp only [numbers_lt_iff, text, List.append_assoc, List.cons_append]
  rw [padded_append_lt_iff (by decide) hfyear hgyear, List.cons_lt_cons_self,
    padded_append_lt_iff (by decide) f.month_lt g.month_lt, List.cons_lt_cons_self,
    padded_append_lt_iff (by decide) f.day_lt g.day_lt, List.cons_lt_cons_self,
    padded_append_lt_iff (by decide) hfhour hghour, List.cons_lt_cons_self,
    padded_append_lt_iff (by decide) hfminute hgminute, List.cons_lt_cons_self,
    padded_append_lt_iff (by decide) hfsecond hgsecond]
  simp only [List.lt_irrefl, and_false, or_false]

/-- The second of the day. -/
def clock (f : Fields) : ℕ := f.hour * 3600 + f.minute * 60 + f.second

/-- The time of day is within the day. -/
theorem clock_lt_secondsPerDay (f : Fields) : f.clock < secondsPerDay := by
  have hhour := f.hour_lt
  have hminute := f.minute_lt
  have hsecond := f.second_lt
  have hday : secondsPerDay = 86400 := rfl
  rw [clock, hday]
  omega

/-- The date of the fields. -/
def date (f : Fields) : Date := ⟨f.year, f.month, f.day⟩

/-- The date of a timestamp is one. -/
theorem isValid_date (f : Fields) : f.date.isValid = true := f.date_valid

/-- Fields tell the day of their instant and the second of that day. -/
theorem instant_eq (f : Fields) : f.instant = ⟨f.date.toDays * secondsPerDay + f.clock, 0⟩ := rfl

/-- The instants are in the order of the numbers. -/
theorem instant_lt_iff : f.instant < g.instant ↔ f.numbers < g.numbers := by
  have hdays : f.instant < g.instant ↔ f.date.toDays < g.date.toDays ∨
      f.date.toDays = g.date.toDays ∧ f.clock < g.clock := by
    have hf := f.clock_lt_secondsPerDay
    have hg := g.clock_lt_secondsPerDay
    have hday : secondsPerDay = 86400 := rfl
    rw [Instant.lt_iff, instant_eq, instant_eq, hday]
    dsimp only
    omega
  have hfminute := f.minute_lt
  have hgminute := g.minute_lt
  have hfsecond := f.second_lt
  have hgsecond := g.second_lt
  rw [hdays, Date.toDays_lt_iff f.isValid_date g.isValid_date,
    Date.toDays_inj f.isValid_date g.isValid_date, numbers_lt_iff, Date.Before, date, date,
    Date.mk.injEq, clock, clock]
  dsimp only
  omega

/-- No two canonical timestamps stand for the same instant. -/
theorem text_eq_of_instant_eq (h : f.instant = g.instant) : f.text = g.text := by
  have hfg : ¬ f.text < g.text := by
    rw [text_lt_iff, ← instant_lt_iff, h]
    exact Instant.lt_irrefl _
  have hgf : ¬ g.text < f.text := by
    rw [text_lt_iff, ← instant_lt_iff, h]
    exact Instant.lt_irrefl _
  exact List.le_antisymm (List.not_lt.1 hgf) (List.not_lt.1 hfg)

/-- A timestamp is written in ASCII. -/
theorem isAscii_text (f : Fields) : IsAscii f.text := by
  have hdigits (width n : ℕ) : IsAscii (padded width n) := isAscii_of_isDigits (isDigits_padded width n)
  have hnil : IsAscii [] := List.forall_mem_nil _
  simp only [text, isAscii_append, isAscii_cons, hdigits, hnil, true_and, and_true]
  decide

/-! ## Reading what is written -/

/-- The instant of fields has their date. -/
theorem date_instant (f : Fields) : f.instant.date = f.date := by
  have hclock := f.clock_lt_secondsPerDay
  have hday : secondsPerDay = 86400 := rfl
  have hquotient : f.instant.secs / secondsPerDay = f.date.toDays := by
    rw [instant_eq, hday]
    dsimp only
    omega
  rw [Instant.date, hquotient, Date.ofDays_toDays f.isValid_date]

/-- The instant of fields can be written. -/
theorem isWritable_instant (f : Fields) : f.instant.IsWritable where
  year_nonneg := by
    rw [date_instant]
    exact Int.natCast_nonneg _
  year_le := by
    rw [date_instant]
    exact Int.ofNat_le.2 f.year_le
  second_lt := by
    have hzero : f.instant.nanos / nanosPerSecond = 0 := Nat.zero_div _
    rw [Instant.second, hzero]
    exact Nat.mod_lt _ (by decide)

/-- What was read is written again. -/
theorem render_instant (h : text.toList = f.text) : render f.instant = text := by
  have hwritable := f.isWritable_instant
  have hinstant : (fields f.instant hwritable).instant = f.instant := by
    rw [instant_fields, Instant.shownSecond_of_nanos_eq_zero rfl]
  rw [← String.toList_inj, toList_render_eq hwritable, text_eq_of_instant_eq hinstant, h]

end Fields

/-- Canonical timestamps are the texts of the starts of seconds, one for each, in the order of time. -/
structure CanonicalExactly : Prop where
  /-- The texts that are read are those of calendar fields. -/
  canonical_iff : ∀ text, (∃ t, parse? text = some t) ↔ ∃ f : Fields, text.toList = f.text
  /-- What is read is the start of a second, in a year of four digits, and is written as it was. -/
  render_of_parse : ∀ text t, parse? text = some t →
    t.nanos = 0 ∧ t.inLeapSecond = false ∧ 0 ≤ t.date.year ∧ t.date.year ≤ 9999 ∧ render t = text
  /-- What is written is read as the start of its second. -/
  parse_render : ∀ t : Instant, 0 ≤ t.date.year → t.date.year ≤ 9999 → t.inLeapSecond = false →
    parse? (render t) = some ⟨t.secs, 0⟩
  /-- Second 60 is not read. -/
  parse_render_leap : ∀ t : Instant, t.inLeapSecond = true → t.secs % 60 = 59 →
    parse? (render t) = none
  /-- Other years are not read. -/
  parse_render_year : ∀ t : Instant, ¬ (0 ≤ t.date.year ∧ t.date.year ≤ 9999) →
    parse? (render t) = none
  /-- The order of the bytes is that of time. -/
  bytes_lt_iff : ∀ text text' t t', parse? text = some t → parse? text' = some t' →
    (bytes text < bytes text' ↔ t < t')

variable {t : Instant}

/-- What cannot be written is not read back. -/
theorem parse?_render_eq_none (h : ¬ t.IsWritable) : parse? (render t) = none := by
  rw [Option.eq_none_iff_forall_ne_some]
  intro u hu
  exact h (isWritable_of_parse? hu)

/-- Outside leap seconds, the second that is shown is the one that runs. -/
theorem nanos_div_of_not_leap (h : t.inLeapSecond = false) : t.nanos / nanosPerSecond = 0 := by
  rw [Instant.inLeapSecond, decide_eq_false_iff_not, Nat.not_le] at h
  exact Nat.div_eq_of_lt h

/-- Outside of leap seconds the whole second is read back. -/
theorem parse?_render_of_not_leap (hnonneg : 0 ≤ t.date.year) (hle : t.date.year ≤ 9999)
    (h : t.inLeapSecond = false) : parse? (render t) = some ⟨t.secs, 0⟩ := by
  have hnanos := nanos_div_of_not_leap h
  have hsecond : t.second < 60 := by
    rw [Instant.second, hnanos]
    exact Nat.mod_lt _ (by decide)
  rw [parse?_render_eq_some_iff, Instant.shownSecond, hnanos, Int.natCast_zero, Int.add_zero]
  exact ⟨⟨hnonneg, hle, hsecond⟩, rfl⟩

/-- The leap second after second 59 is shown as second 60 or more. -/
theorem not_isWritable_of_leap (h : t.inLeapSecond = true) (hsecond : t.secs % 60 = 59) :
    ¬ t.IsWritable := by
  intro hwritable
  have hlt := hwritable.second_lt
  have hpos : 1 ≤ t.nanos / nanosPerSecond := Nat.div_pos (of_decide_eq_true h) (by decide)
  have hday : secondsPerDay = 86400 := rfl
  rw [Instant.second, Instant.secondOfDay, hday] at hlt
  omega

/-- Timestamps and the instants that they stand for correspond, in the same order. -/
theorem canonicalExactly : CanonicalExactly where
  canonical_iff := by
    intro text
    constructor
    · rintro ⟨t, ht⟩
      exact exists_fields_of_parse? ht
    · rintro ⟨f, hf⟩
      exact ⟨f.instant, parse?_text hf⟩
  render_of_parse := by
    intro text t ht
    obtain ⟨f, hf, rfl⟩ := parse?_eq_some_iff.1 ht
    obtain ⟨hnonneg, hle, -⟩ := f.isWritable_instant
    exact ⟨rfl, rfl, hnonneg, hle, Fields.render_instant hf⟩
  parse_render := fun _ => parse?_render_of_not_leap
  parse_render_leap := fun _ hleap hsecond => parse?_render_eq_none (not_isWritable_of_leap hleap hsecond)
  parse_render_year := fun _ hyear => parse?_render_eq_none fun h => hyear ⟨h.year_nonneg, h.year_le⟩
  bytes_lt_iff := by
    intro text text' t t' ht ht'
    obtain ⟨f, hf, rfl⟩ := parse?_eq_some_iff.1 ht
    obtain ⟨g, hg, rfl⟩ := parse?_eq_some_iff.1 ht'
    rw [Text.bytes_lt_iff (hf ▸ f.isAscii_text) (hg ▸ g.isAscii_text), hf, hg, Fields.text_lt_iff,
      Fields.instant_lt_iff]

/-- The leap day of the first year comes before the last second of all, as a text and in time. -/
theorem canonicalExactly_leapDay :
    CanonicalExactly ∧ parse? "0000-02-29T00:00:00Z" = some ⟨-62162121600, 0⟩ ∧
      parse? "9999-12-31T23:59:59Z" = some ⟨253402300799, 0⟩ ∧
      bytes "0000-02-29T00:00:00Z" < bytes "9999-12-31T23:59:59Z" ∧
      parse? (render ⟨253402300799, 1000000000⟩) = none := by
  have hfirst : parse? "0000-02-29T00:00:00Z" = some ⟨-62162121600, 0⟩ := by decide +kernel
  have hlast : parse? "9999-12-31T23:59:59Z" = some ⟨253402300799, 0⟩ := by decide +kernel
  have hlt : (⟨-62162121600, 0⟩ : Instant) < ⟨253402300799, 0⟩ := by decide
  exact ⟨canonicalExactly, hfirst, hlast,
    (canonicalExactly.bytes_lt_iff _ _ _ _ hfirst hlast).2 hlt,
    canonicalExactly.parse_render_leap _ (by decide) (by decide)⟩

end Timestamp

end SeriesQuery
