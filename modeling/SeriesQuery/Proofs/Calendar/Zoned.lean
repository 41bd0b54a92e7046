import SeriesQuery.Proofs.Calendar.Rendered
import SeriesQuery.Proofs.Calendar.Zone

/-!
# Timestamps with an offset

The layout of RFC 3339, which the times in results have: a date, a time of day with an optional fraction, and an
offset from UTC. What such a text stands for is told by its fields (`IsZoned`), and it is what is read
(`parseRfc3339?_eq_some_iff`). Fields of four digits are far from the limits of time, so these never refuse a
text. The times of samples are written in this layout (`isZoned_renderExact`).
-/

namespace SeriesQuery.Timestamp

open Text

/-! ## The grammar -/

/-- A fraction of a second in nanoseconds, rounded down: none, or digits behind a point. -/
inductive IsFraction : List Char → ℕ → Prop where
  | absent : IsFraction [] 0
  | pointed {digits : List Char} (run : IsDigits digits) (nonempty : digits ≠ []) :
      IsFraction ('.' :: digits) (natOfDigits digits * 10 ^ 9 / 10 ^ digits.length)

/-- An offset in seconds east of UTC: none, or hours and minutes behind a sign. The minus sign may be the
typographic one. -/
inductive IsOffset : List Char → ℤ → Prop where
  | zulu {letter : Char} (lettered : letter = 'Z' ∨ letter = 'z') : IsOffset [letter] 0
  | east {hours minutes : ℕ} (hours_lt : hours < 100) (minutes_lt : minutes < 60) :
      IsOffset ('+' :: (padded 2 hours ++ ':' :: padded 2 minutes)) (hours * 3600 + minutes * 60 : ℕ)
  | west {sign : Char} {hours minutes : ℕ} (minus : sign = '-' ∨ sign = '\u2212') (hours_lt : hours < 100)
      (minutes_lt : minutes < 60) :
      IsOffset (sign :: (padded 2 hours ++ ':' :: padded 2 minutes)) (-(hours * 3600 + minutes * 60 : ℕ))

/-- The text is a date and a time of day with an offset below a day, and the instant is the one at which a clock
with this offset shows them. Second 60 is the leap second behind second 59. -/
inductive IsZoned : List Char → Instant → Prop where
  | intro {year month day hour minute second nanos : ℕ} {letter : Char} {fraction offset : List Char} {east : ℤ}
      (year_le : year ≤ 9999) (date_valid : (Date.mk year month day).isValid = true) (hour_lt : hour < 24)
      (minute_lt : minute < 60) (second_le : second ≤ 60) (lettered : letter ∈ ['T', 't', ' '])
      (fractional : IsFraction fraction nanos) (shifted : IsOffset offset east)
      (east_lt : east.natAbs < 86400) :
      IsZoned
        (padded 4 year ++ '-' :: padded 2 month ++ '-' :: padded 2 day ++ letter :: padded 2 hour ++
          ':' :: padded 2 minute ++ ':' :: padded 2 second ++ fraction ++ offset)
        ⟨(Date.mk year month day).toDays * 86400 + (hour * 3600 + minute * 60 + min second 59 : ℕ) - east,
          nanos + if second = 60 then 1000000000 else 0⟩

/-! ## Fractions -/

variable {cs rest front : List Char} {nanos : ℕ} {east : ℤ} {t : Instant}

/-- Nine digits of a fraction count, which rounds it down. -/
theorem natOfDigits_take_nine {digits : List Char} (h : IsDigits digits) :
    natOfDigits (digits.take 9) * tenTo (9 - (digits.take 9).length) =
      natOfDigits digits * 10 ^ 9 / 10 ^ digits.length := by
  have hten : ∀ k, tenTo k = 10 ^ k := fun k => rfl
  rcases Nat.le_total digits.length 9 with hshort | hlong
  · have hpow : 10 ^ 9 = 10 ^ (9 - digits.length) * 10 ^ digits.length := by
      rw [← Nat.pow_add, Nat.sub_add_cancel hshort]
    rw [List.take_of_length_le hshort, hten, hpow, ← Nat.mul_assoc, Nat.mul_div_cancel _ (Nat.pow_pos (by decide))]
  · obtain ⟨k, hk⟩ := Nat.exists_eq_add_of_le' hlong
    have hsplit := natOfDigits_append (digits.take 9) (digits.drop 9)
    have hlength : (digits.take 9).length = 9 := List.length_take_of_le hlong
    have hrest : (digits.drop 9).length = k := by
      rw [List.length_drop]
      omega
    have hlt : natOfDigits (digits.drop 9) < 10 ^ k :=
      hrest ▸ natOfDigits_lt_tenTo fun c hc => h c (List.mem_of_mem_drop hc)
    rw [List.take_append_drop, hrest, hten] at hsplit
    rw [hlength, Nat.sub_self, hten, Nat.pow_zero, Nat.mul_one, hk, Nat.pow_add,
      Nat.mul_div_mul_right _ _ (by decide), hsplit, Nat.mul_comm, Nat.mul_add_div (Nat.pow_pos (by decide)),
      Nat.div_eq_of_lt hlt, Nat.add_zero]

/-- What is read as a fraction is one. -/
theorem exists_isFraction (h : optionalFraction cs = some (nanos, rest)) :
    ∃ front, IsFraction front nanos ∧ cs = front ++ rest := by
  unfold optionalFraction at h
  split at h
  · simp only [fraction, Scan.bind_eq_some_iff, Scan.digits_eq_some_iff, Scan.pure_eq_some_iff] at h
    obtain ⟨digits, _, ⟨⟨hrun, hne⟩, rfl, -⟩, rfl, rfl⟩ := h
    rw [natOfDigits_take_nine hrun]
    exact ⟨_, .pointed hrun hne, rfl⟩
  · obtain ⟨rfl, rfl⟩ := Prod.mk.inj (Option.some.inj h)
    exact ⟨[], .absent, rfl⟩

/-- A fraction is read up to what follows it. -/
theorem optionalFraction_append (h : IsFraction front nanos)
    (hrest : ∀ c ∈ rest.head?, c.isDigit = false ∧ c ≠ '.') :
    optionalFraction (front ++ rest) = some (nanos, rest) := by
  cases h with
  | absent =>
      rw [List.nil_append]
      unfold optionalFraction
      split
      · exact absurd rfl (hrest '.' rfl).2
      · rfl
  | @pointed digits hrun hne =>
      show fraction (digits ++ rest) = _
      have hdigits : Scan.digits (digits ++ rest) = some (digits, rest) :=
        Scan.digits_eq_some_iff.2 ⟨⟨hrun, hne⟩, rfl, fun c hc => (hrest c hc).1⟩
      rw [fraction, Scan.bind_of_eq_some hdigits, ← natOfDigits_take_nine hrun]
      rfl

/-! ## Offsets -/

/-- A signed offset is read from its sign, its hours and its minutes. -/
theorem signedOffset_eq_some_iff : signedOffset (Scan.char ':') cs = some (east, rest) ↔
    ∃ sign hours minutes, sign ∈ ['+', '-', '\u2212'] ∧ hours < 100 ∧ minutes < 60 ∧
      cs = sign :: (padded 2 hours ++ ':' :: (padded 2 minutes ++ rest)) ∧
      (if sign = '+' then ((hours * 3600 + minutes * 60 : ℕ) : ℤ) else -(hours * 3600 + minutes * 60 : ℕ)) =
        east := by
  simp only [signedOffset, Scan.bind_eq_some_iff, Scan.oneOf_eq_some_iff, Scan.char_eq_some_iff,
    Scan.number_eq_some_iff_padded Nat.two_pos]
  constructor
  · rintro ⟨sign, _, ⟨hsign, rfl⟩, hours, _, ⟨hhours, rfl⟩, -, _, rfl, minutes, _, ⟨-, rfl⟩, h⟩
    by_cases hminutes : 60 ≤ minutes
    · rw [if_pos hminutes] at h
      exact nomatch h
    · rw [if_neg hminutes, Scan.pure_eq_some_iff] at h
      obtain ⟨heast, rfl⟩ := h
      exact ⟨sign, hours, minutes, hsign, hhours, Nat.not_le.1 hminutes, rfl, heast⟩
  · rintro ⟨sign, hours, minutes, hsign, hhours, hminutes, rfl, heast⟩
    have hfits : minutes < tenTo 2 := Nat.lt_of_lt_of_le hminutes (by decide)
    refine ⟨sign, _, ⟨hsign, rfl⟩, hours, _, ⟨hhours, rfl⟩, (), _, rfl, minutes, _, ⟨hfits, rfl⟩, ?_⟩
    rw [if_neg (Nat.not_le.2 hminutes), Scan.pure_eq_some_iff]
    exact ⟨heast, rfl⟩

/-- What is read as an offset is one. -/
theorem offset_eq_some_iff :
    offset (Scan.char ':') cs = some (east, rest) ↔ ∃ front, IsOffset front east ∧ cs = front ++ rest := by
  constructor
  · intro h
    unfold offset at h
    split at h
    · obtain ⟨rfl, rfl⟩ := Prod.mk.inj (Option.some.inj h)
      exact ⟨['Z'], .zulu (.inl rfl), rfl⟩
    · obtain ⟨rfl, rfl⟩ := Prod.mk.inj (Option.some.inj h)
      exact ⟨['z'], .zulu (.inr rfl), rfl⟩
    · obtain ⟨sign, hours, minutes, hsign, hhours, hminutes, rfl, rfl⟩ := signedOffset_eq_some_iff.1 h
      rw [List.mem_cons, List.mem_pair] at hsign
      rcases hsign with rfl | hminus
      · refine ⟨_, .east hhours hminutes, ?_⟩
        rw [List.cons_append, List.append_assoc, List.cons_append]
      · have hplus : sign ≠ '+' := by rcases hminus with rfl | rfl <;> decide
        rw [if_neg hplus]
        refine ⟨_, .west hminus hhours hminutes, ?_⟩
        rw [List.cons_append, List.append_assoc, List.cons_append]
  · rintro ⟨front, h, rfl⟩
    cases h with
    | zulu hletter => rcases hletter with rfl | rfl <;> rfl
    | @east hours minutes hhours hminutes =>
        refine signedOffset_eq_some_iff.2 ⟨'+', hours, minutes, by decide, hhours, hminutes, ?_, rfl⟩
        rw [List.cons_append, List.append_assoc, List.cons_append]
    | @west sign hours minutes hminus hhours hminutes =>
        have hsigned : signedOffset (Scan.char ':')
            (sign :: (padded 2 hours ++ ':' :: padded 2 minutes) ++ rest) =
              some (-((hours * 3600 + minutes * 60 : ℕ) : ℤ), rest) := by
          refine signedOffset_eq_some_iff.2 ⟨sign, hours, minutes, ?_, hhours, hminutes, ?_, ?_⟩
          · exact List.mem_cons_of_mem _ (List.mem_pair.2 hminus)
          · rw [List.cons_append, List.append_assoc, List.cons_append]
          · have hplus : sign ≠ '+' := by rcases hminus with rfl | rfl <;> decide
            exact if_neg hplus
        rcases hminus with rfl | rfl
        · exact hsigned
        · exact hsigned

/-- An offset does not start like the fraction in front of it. -/
theorem IsOffset.head (h : IsOffset front east) : ∀ c ∈ front.head?, c.isDigit = false ∧ c ≠ '.' := by
  intro c hc
  cases h with
  | zulu hzulu =>
      obtain rfl := Option.some.inj hc
      rcases hzulu with rfl | rfl
      · exact ⟨rfl, by decide⟩
      · exact ⟨rfl, by decide⟩
  | east =>
      obtain rfl := Option.some.inj hc
      exact ⟨rfl, by decide⟩
  | west hminus =>
      obtain rfl := Option.some.inj hc
      rcases hminus with rfl | rfl
      · exact ⟨rfl, by decide⟩
      · exact ⟨rfl, by decide⟩

/-! ## Instants -/

/-- Within two days around a date in a year of four digits, the limits of time are far. -/
theorem inLimits_of_fourDigits {date : Date} (hdate : date.isValid = true) (hnonneg : 0 ≤ date.year)
    (hle : date.year ≤ 9999) (hlow : date.toDays * 86400 - 86400 ≤ t.secs)
    (hhigh : t.secs ≤ date.toDays * 86400 + 172800) : t.InLimits := by
  have hfirst : Instant.firstSecond = -8334601228800 := by decide +kernel
  have hlast : Instant.lastSecond = 8210266876799 := by decide +kernel
  have hshown : (Instant.mk (date.toDays * 86400) 0).date = date := by
    have hdays : date.toDays * 86400 / 86400 = date.toDays := Int.mul_ediv_cancel _ (by decide)
    show Date.ofDays (date.toDays * 86400 / 86400) = date
    rw [hdays, Date.ofDays_toDays hdate]
  have hbounds : -62167219200 ≤ date.toDays * 86400 ∧ date.toDays * 86400 < 253402300800 :=
    Instant.secs_of_fourDigits (hshown.symm ▸ hnonneg) (hshown.symm ▸ hle)
  rw [Instant.InLimits]
  omega

/-- Fields are shown at an instant if they are those of a date and of a time of day, and the offset is one. -/
theorem inZone?_eq_some_iff {year month day hour minute second : ℕ} (hyear : year ≤ 9999) :
    inZone? ⟨year, month, day⟩ hour minute second nanos east = some t ↔
      (Date.mk year month day).isValid = true ∧ hour < 24 ∧ minute < 60 ∧ second ≤ 60 ∧ east.natAbs < 86400 ∧
        ⟨(Date.mk year month day).toDays * 86400 + (hour * 3600 + minute * 60 + min second 59 : ℕ) - east,
          nanos + if second = 60 then 1000000000 else 0⟩ = t := by
  have hday : secondsPerDay = 86400 := rfl
  have hfirst : Date.firstYear = -262143 := rfl
  have hlast : Date.lastYear = 262142 := rfl
  simp only [inZone?, Option.bind_eq_bind, Option.bind_eq_some_iff, Option.ite_none_right_eq_some, Instant.shift?,
    Instant.within?_eq_some_iff, Instant.ofFields?, Option.some.injEq, hday]
  constructor
  · rintro ⟨_, ⟨⟨hvalid, -, -, hhour, hminute, hsecond⟩, rfl⟩, heast, -, rfl⟩
    exact ⟨hvalid, hhour, hminute, hsecond, heast, rfl⟩
  · rintro ⟨hvalid, hhour, hminute, hsecond, heast, rfl⟩
    refine ⟨_, ⟨⟨hvalid, ?_, ?_, hhour, hminute, hsecond⟩, rfl⟩, heast, ?_, rfl⟩
    · omega
    · omega
    · apply inLimits_of_fourDigits hvalid
      · exact Int.natCast_nonneg year
      · exact Int.ofNat_le.2 hyear
      · dsimp only
        omega
      · dsimp only
        omega

/-- A letter or a blank ends the date. -/
theorem dateEnd_eq_some_iff {u : Unit} :
    dateEnd cs = some (u, rest) ↔ ∃ letter ∈ ['T', 't', ' '], cs = letter :: rest := by
  simp only [dateEnd, Scan.bind_eq_some_iff, Scan.oneOf_eq_some_iff, Scan.pure_eq_some_iff]
  constructor
  · rintro ⟨letter, _, ⟨hletter, rfl⟩, -, rfl⟩
    exact ⟨letter, hletter, rfl⟩
  · rintro ⟨letter, hletter, rfl⟩
    exact ⟨letter, _, ⟨hletter, rfl⟩, trivial, rfl⟩

/-- What is read as a timestamp with an offset is told by the grammar. -/
theorem parseRfc3339?_eq_some_iff {text : String} : parseRfc3339? text = some t ↔ IsZoned text.toList t := by
  have hten : tenTo 4 = 10000 := rfl
  have hhundred : tenTo 2 = 100 := rfl
  rw [parseRfc3339?, Option.join_eq_some_iff, Scan.all?_eq_some_iff]
  constructor
  · intro h
    simp only [strict, Scan.bind_eq_some_iff, Scan.char_eq_some_iff, dateEnd_eq_some_iff, Scan.pure_eq_some_iff,
      Scan.number_eq_some_iff_padded (show 0 < 4 by decide), Scan.number_eq_some_iff_padded Nat.two_pos,
      offset_eq_some_iff] at h
    obtain ⟨year, _, ⟨hyear, htext⟩, -, _, rfl, month, _, ⟨-, rfl⟩, -, _, rfl, day, _, ⟨-, rfl⟩,
      -, _, ⟨letter, hletter, rfl⟩, hour, _, ⟨-, rfl⟩, -, _, rfl, minute, _, ⟨-, rfl⟩, -, _, rfl,
      second, _, ⟨-, rfl⟩, nanos, _, hfraction, east, _, ⟨offset, hoffset, rfl⟩, hzone, rfl⟩ := h
    have hyear' : year ≤ 9999 := by omega
    obtain ⟨front, hfront, rfl⟩ := exists_isFraction hfraction
    obtain ⟨hvalid, hhour, hminute, hsecond, heast, rfl⟩ := (inZone?_eq_some_iff hyear').1 hzone
    have hzoned := IsZoned.intro hyear' hvalid hhour hminute hsecond hletter hfront hoffset heast
    rw [htext]
    simp only [List.append_assoc, List.cons_append, List.append_nil] at hzoned ⊢
    exact hzoned
  · intro h
    generalize text.toList = cs at h
    obtain @⟨year, month, day, hour, minute, second, nanos, letter, front, offset, east, hyear, hvalid, hhour,
      hminute, hsecond, hletter, hfront, hoffset, heast⟩ := h
    obtain ⟨-, hmonth, -⟩ := Date.isValid_iff.1 hvalid
    have hday := Date.day_le_of_isValid hvalid
    dsimp only at hmonth hday
    have hfraction := optionalFraction_append hfront hoffset.head
    have hoffset' : Timestamp.offset (Scan.char ':') offset = some (east, []) :=
      offset_eq_some_iff.2 ⟨offset, hoffset, (List.append_nil offset).symm⟩
    simp only [List.append_assoc, List.cons_append]
    rw [strict, Scan.bind_of_eq_some (Scan.number_padded (by decide) (by omega : year < tenTo 4) _),
      Scan.bind_of_eq_some (Scan.char_cons _ _),
      Scan.bind_of_eq_some (Scan.number_padded (by decide) (by omega : month < tenTo 2) _),
      Scan.bind_of_eq_some (Scan.char_cons _ _),
      Scan.bind_of_eq_some (Scan.number_padded (by decide) (by omega : day < tenTo 2) _),
      Scan.bind_of_eq_some ((dateEnd_eq_some_iff (u := ())).2 ⟨letter, hletter, rfl⟩),
      Scan.bind_of_eq_some (Scan.number_padded (by decide) (by omega : hour < tenTo 2) _),
      Scan.bind_of_eq_some (Scan.char_cons _ _),
      Scan.bind_of_eq_some (Scan.number_padded (by decide) (by omega : minute < tenTo 2) _),
      Scan.bind_of_eq_some (Scan.char_cons _ _),
      Scan.bind_of_eq_some (Scan.number_padded (by decide) (by omega : second < tenTo 2) _),
      Scan.bind_of_eq_some hfraction, Scan.bind_of_eq_some hoffset', Scan.pure_eq_some_iff]
    exact ⟨(inZone?_eq_some_iff hyear).2 ⟨hvalid, hhour, hminute, hsecond, heast, rfl⟩, rfl⟩

/-! ## Written times -/

/-- A fraction is less than a second. -/
theorem IsFraction.lt (h : IsFraction front nanos) : nanos < nanosPerSecond := by
  have hsecond : nanosPerSecond = 10 ^ 9 := rfl
  cases h with
  | absent => exact Nat.pos_of_ne_zero (by decide)
  | @pointed digits hrun =>
      have hlt : natOfDigits digits < 10 ^ digits.length := natOfDigits_lt_tenTo hrun
      rw [hsecond]
      exact Nat.div_lt_of_lt_mul (Nat.mul_lt_mul_of_pos_right hlt (Nat.pow_pos (by decide)))

/-- Clocks everywhere turn to a new minute together. -/
theorem IsOffset.dvd (h : IsOffset front east) : 60 ∣ east := by
  cases h with
  | zulu => exact Int.dvd_zero 60
  | east => omega
  | west => omega

/-- What is shown with an offset is regular. -/
theorem IsZoned.isRegular (h : IsZoned cs t) : t.IsRegular := by
  obtain @⟨year, month, day, hour, minute, second, nanos, letter, fraction, offset, east, -, -, -, -, hsecond, -,
    hfraction, hoffset, -⟩ := h
  have hnanos := hfraction.lt
  have hdvd := hoffset.dvd
  have hsecond' : nanosPerSecond = 1000000000 := rfl
  constructor
  · dsimp only
    split
    · omega
    · omega
  · dsimp only
    split
    · omega
    · omega

/-- A fraction is written with as many digits as show it. -/
theorem isFraction_writeFraction (h : nanos < nanosPerSecond) : IsFraction (writeFraction nanos) nanos := by
  have hsecond : nanosPerSecond = 1000000000 := rfl
  have hpointed : ∀ {width n : ℕ}, 0 < width → n < tenTo width → n * 10 ^ 9 / 10 ^ width = nanos →
      IsFraction ('.' :: padded width n) nanos := by
    intro width n hwidth hn hnanos
    have hlength := length_padded hwidth hn
    have hne : padded width n ≠ [] := List.ne_nil_of_length_pos (hlength.symm ▸ hwidth)
    have hdigits := IsFraction.pointed (isDigits_padded width n) hne
    rwa [natOfDigits_padded, hlength, hnanos] at hdigits
  unfold writeFraction
  split
  · next hzero =>
    rw [hzero]
    exact .absent
  · split
    · refine hpointed (by decide) ?_ (by omega)
      show nanos / 1000000 < 1000
      omega
    · split
      · refine hpointed (by decide) ?_ (by omega)
        show nanos / 1000 < 1000000
        omega
      · refine hpointed (by decide) ?_ (by omega)
        show nanos < 1000000000
        omega

/-- A regular instant in a year of four digits has a text that shows it. -/
theorem isZoned_renderExact (ht : t.IsRegular) (hnonneg : 0 ≤ t.date.year) (hle : t.date.year ≤ 9999) :
    IsZoned (renderExact t).toList t := by
  have hsecond : nanosPerSecond = 1000000000 := rfl
  have hday : secondsPerDay = 86400 := rfl
  have hdate : Date.mk t.date.year.toNat t.date.month t.date.day = t.date := by
    rw [Int.toNat_of_nonneg hnonneg]
  have hvalid : (Date.mk t.date.year.toNat t.date.month t.date.day).isValid = true := by
    rw [hdate]
    exact Date.isValid_ofDays _
  have hofDay : (t.secondOfDay : ℤ) % 60 = t.secs % 60 := by
    rw [Instant.secondOfDay, hday]
    omega
  have hclock := t.toDays_date
  have hnanos := ht.nanos_lt
  have hleap := ht.leap
  have hsplit : t.second = t.secondOfDay % 60 + t.nanos / nanosPerSecond := rfl
  have hfraction : IsFraction (writeFraction (t.nanos % nanosPerSecond)) (t.nanos % nanosPerSecond) :=
    isFraction_writeFraction (Nat.mod_lt t.nanos (by decide))
  rw [hsecond] at hclock hnanos hleap hsplit
  rw [hday] at hclock
  have hzoned := IsZoned.intro (Int.toNat_le.2 hle) hvalid t.hour_lt t.minute_lt (show t.second ≤ 60 by omega)
    (show 'T' ∈ ['T', 't', ' '] by decide) hfraction (.zulu (.inl rfl)) (by decide)
  have hinstant : (⟨(Date.mk t.date.year.toNat t.date.month t.date.day).toDays * 86400 +
      (t.hour * 3600 + t.minute * 60 + min t.second 59 : ℕ) - 0,
      t.nanos % nanosPerSecond + if t.second = 60 then 1000000000 else 0⟩ : Instant) = t := by
    rw [hdate, hsecond]
    congr 1
    · omega
    · split
      · omega
      · omega
  rw [hinstant] at hzoned
  rw [renderExact, String.toList_ofList, writeSecond, writeYear_of_fits hnonneg hle]
  exact hzoned

end SeriesQuery.Timestamp
