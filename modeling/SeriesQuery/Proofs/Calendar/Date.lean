import Mathlib.Algebra.BigOperators.Group.List.Basic
import Mathlib.Algebra.GroupWithZero.Nat
import SeriesQuery.Calendar.Date

/-!
# Dates and their numbers

A year takes the days of its months (`daysBeforeYear_succ`), so the number of a day determines year, month
and day of the month: the date with a given number exists (`isValid_ofDays`) and has that number
(`toDays_ofDays`). The numbers are in the order of the dates (`toDays_lt_iff`), so no two dates share one
(`ofDays_toDays`).
-/

namespace SeriesQuery.Date

variable {year n : Int}

/-! ## Months -/

/-- No month has more than 31 days. -/
theorem le_of_mem_monthLengths {length : Nat} (h : length ∈ monthLengths year) : length ≤ 31 := by
  simp only [monthLengths, List.mem_cons, List.not_mem_nil, or_false] at h
  split at h <;> omega

/-- A date is valid if its month is one of twelve and its day is one of that month. -/
theorem isValid_iff {d : Date} :
    d.isValid = true ↔ 1 ≤ d.month ∧ d.month ≤ 12 ∧ 1 ≤ d.day ∧
      ∃ length, (monthLengths d.year)[d.month - 1]? = some length ∧ d.day ≤ length := by
  simp only [isValid, Bool.and_eq_true, decide_eq_true_eq, and_assoc]
  refine and_congr_right fun h1 => and_congr_right fun h12 => and_congr_right fun hday => ?_
  cases hlength : (monthLengths d.year)[d.month - 1]? with
  | none =>
      rw [Option.getD_none]
      exact ⟨fun h => absurd h (by omega), nofun⟩
  | some length =>
      rw [Option.getD_some]
      exact ⟨fun h => ⟨length, rfl, h⟩, fun ⟨_, hlength, h⟩ => Option.some.inj hlength ▸ h⟩

/-- No valid date has a day beyond 31. -/
theorem day_le_of_isValid {d : Date} (h : d.isValid = true) : d.day ≤ 31 := by
  obtain ⟨-, -, -, length, hlength, hday⟩ := isValid_iff.1 h
  exact Nat.le_trans hday (le_of_mem_monthLengths (List.mem_of_getElem? hlength))

/-- A day of the year lies in one of the months, and has a number of its own there. -/
theorem monthDay_spec {lengths : List Nat} (month : Nat) {rest : Nat} (h : rest < lengths.sum) :
    ∃ i length, lengths[i]? = some length ∧ (monthDay lengths month rest).1 = month + i ∧
      1 ≤ (monthDay lengths month rest).2 ∧ (monthDay lengths month rest).2 ≤ length ∧
      (lengths.take i).sum + ((monthDay lengths month rest).2 - 1) = rest := by
  fun_induction monthDay lengths month rest with
  | case1 month rest => exact absurd h (Nat.not_lt_zero rest)
  | case2 length month rest =>
      rw [List.sum_singleton] at h
      exact ⟨0, length, rfl, rfl, by omega, h, by simp⟩
  | case3 length lengths month rest _ hlt =>
      exact ⟨0, length, rfl, rfl, by omega, hlt, by simp⟩
  | case4 length lengths month rest _ hlt ih =>
      rw [List.sum_cons] at h
      obtain ⟨i, length', hlength, hmonth, hday, hle, hsum⟩ := ih (by omega)
      refine ⟨i + 1, length', hlength, by omega, hday, hle, ?_⟩
      rw [List.take_succ_cons, List.sum_cons]
      omega

/-! ## Years -/

/-- Every fourth year is a leap year, but of the full centuries only every fourth. -/
theorem isLeapYear_iff : isLeapYear year = true ↔ year % 4 = 0 ∧ (year % 100 ≠ 0 ∨ year % 400 = 0) := by
  simp only [isLeapYear, Bool.and_eq_true, Bool.or_eq_true, beq_iff_eq, bne_iff_ne]

/-- The months make up the year. -/
theorem sum_monthLengths (year : Int) :
    (monthLengths year).sum = if isLeapYear year then 366 else 365 := by
  rw [monthLengths]
  split
  · rfl
  · rfl

/-- The first day of the next year comes after the days of all months. -/
theorem daysBeforeYear_succ (year : Int) :
    daysBeforeYear (year + 1) = daysBeforeYear year + (monthLengths year).sum := by
  rw [sum_monthLengths]
  simp only [daysBeforeYear]
  by_cases h : isLeapYear year = true
  · rw [if_pos h]
    rw [isLeapYear_iff] at h
    omega
  · rw [if_neg h]
    rw [isLeapYear_iff] at h
    omega

/-- The day lies in the year. The quotient by the mean length of a year misses it by one at most. -/
theorem yearOfDay_spec (n : Int) :
    daysBeforeYear (yearOfDay n) ≤ n ∧ n < daysBeforeYear (yearOfDay n + 1) := by
  simp only [yearOfDay]
  split
  · next h =>
    simp only [daysBeforeYear] at h ⊢
    omega
  · next h =>
    split
    · next h' =>
      simp only [daysBeforeYear] at h h' ⊢
      omega
    · next h' => exact ⟨Int.not_lt.1 h, Int.not_le.1 h'⟩

/-! ## Days -/

/-- The days of its year that come before the day. -/
def dayOfYear (n : Int) : Nat := (n - daysBeforeYear (yearOfDay n)).toNat

/-- The day of the year is one of its days. -/
theorem dayOfYear_lt (n : Int) : dayOfYear n < (monthLengths (yearOfDay n)).sum := by
  have hspec := yearOfDay_spec n
  rw [daysBeforeYear_succ] at hspec
  rw [dayOfYear]
  omega

/-- The date of a day is told by its year and its day within the year. -/
theorem ofDays_eq (n : Int) :
    ofDays n = ⟨yearOfDay (n + epochDay),
      (monthDay (monthLengths (yearOfDay (n + epochDay))) 1 (dayOfYear (n + epochDay))).1,
      (monthDay (monthLengths (yearOfDay (n + epochDay))) 1 (dayOfYear (n + epochDay))).2⟩ := rfl

/-- Every day has a valid date. -/
theorem isValid_ofDays (n : Int) : (ofDays n).isValid = true := by
  obtain ⟨i, length, hlength, hmonth, hday, hle, -⟩ := monthDay_spec 1 (dayOfYear_lt (n + epochDay))
  have hi : i < (monthLengths (yearOfDay (n + epochDay))).length :=
    (List.getElem?_eq_some_iff.1 hlength).1
  rw [ofDays_eq, isValid_iff, hmonth, Nat.add_sub_cancel_left]
  exact ⟨Nat.le_add_right 1 i, by rw [Nat.add_comm]; exact hi, hday, length, hlength, hle⟩

/-- The date of a day stands for this day. -/
theorem toDays_ofDays (n : Int) : (ofDays n).toDays = n := by
  have hyear : (dayOfYear (n + epochDay) : Int) =
      n + epochDay - daysBeforeYear (yearOfDay (n + epochDay)) :=
    Int.toNat_of_nonneg (Int.sub_nonneg_of_le (yearOfDay_spec (n + epochDay)).1)
  obtain ⟨i, -, -, hmonth, hday, -, hsum⟩ := monthDay_spec 1 (dayOfYear_lt (n + epochDay))
  rw [ofDays_eq, toDays, hmonth, Nat.add_sub_cancel_left, ← List.sum_eq_foldl_nat]
  dsimp only
  omega

/-! ## Order -/

/-- Earlier in the calendar: by the year, then by the month, then by the day. -/
def Before (d e : Date) : Prop :=
  d.year < e.year ∨ (d.year = e.year ∧ (d.month < e.month ∨ (d.month = e.month ∧ d.day < e.day)))

variable {d e : Date}

/-- Of two dates one is before the other, or they are the same. -/
theorem before_or_eq_or_before (d e : Date) : d.Before e ∨ d = e ∨ e.Before d := by
  obtain ⟨year, month, day⟩ := d
  obtain ⟨year', month', day'⟩ := e
  simp only [Before, Date.mk.injEq]
  omega

/-- The number of a day counts the years, the months and the days before it. -/
theorem toDays_eq (d : Date) :
    d.toDays = daysBeforeYear d.year + ((monthLengths d.year).take (d.month - 1)).sum + (d.day - 1) -
      epochDay := by
  rw [toDays, ← List.sum_eq_foldl_nat]

/-- The days of the year up to the date, with all months before, are no more than those of the months
before a later one. -/
theorem sum_take_add_day_le (h : d.isValid = true) {m : Nat} (hm : d.month ≤ m) :
    ((monthLengths d.year).take (d.month - 1)).sum + d.day ≤ ((monthLengths d.year).take m).sum := by
  obtain ⟨hfirst, -, -, length, hlength, hday⟩ := isValid_iff.1 h
  obtain ⟨hindex, rfl⟩ := List.getElem?_eq_some_iff.1 hlength
  have hsplit := List.sum_take_add_sum_drop ((monthLengths d.year).take m) d.month
  rw [List.take_take, Nat.min_eq_left hm] at hsplit
  calc ((monthLengths d.year).take (d.month - 1)).sum + d.day
    _ ≤ ((monthLengths d.year).take (d.month - 1)).sum + (monthLengths d.year)[d.month - 1] :=
        Nat.add_le_add_left hday _
    _ = ((monthLengths d.year).take (d.month - 1 + 1)).sum := (List.sum_take_succ _ _ hindex).symm
    _ = ((monthLengths d.year).take d.month).sum := by rw [Nat.sub_add_cancel hfirst]
    _ ≤ ((monthLengths d.year).take m).sum := hsplit ▸ Nat.le_add_right _ _

/-- Later years start later. -/
theorem daysBeforeYear_mono {year' : Int} (h : year ≤ year') :
    daysBeforeYear year ≤ daysBeforeYear year' := by
  simp only [daysBeforeYear]
  omega

/-- An earlier valid date stands for an earlier day. -/
theorem toDays_lt_of_before (hd : d.isValid = true) (he : e.isValid = true) (h : d.Before e) :
    d.toDays < e.toDays := by
  obtain ⟨-, hmonth, -⟩ := isValid_iff.1 hd
  obtain ⟨-, -, hday, -⟩ := isValid_iff.1 he
  rw [toDays_eq, toDays_eq]
  rcases h with hyear | ⟨hyear, hmonth' | ⟨hmonth', hday'⟩⟩
  · -- all months of the year come before the next one
    have hsum := sum_take_add_day_le hd hmonth
    have hall : (monthLengths d.year).take 12 = monthLengths d.year := rfl
    have hnext := daysBeforeYear_mono (Int.add_one_le_of_lt hyear)
    rw [daysBeforeYear_succ, ← hall] at hnext
    omega
  · have hsum := sum_take_add_day_le hd (Nat.le_sub_one_of_lt hmonth')
    rw [hyear] at hsum ⊢
    omega
  · rw [hyear, hmonth']
    omega

/-- Days are ordered like their valid dates. -/
theorem toDays_lt_iff (hd : d.isValid = true) (he : e.isValid = true) :
    d.toDays < e.toDays ↔ d.Before e := by
  constructor
  · intro hlt
    rcases before_or_eq_or_before d e with h | rfl | h
    · exact h
    · exact absurd hlt (Int.lt_irrefl _)
    · exact absurd hlt (Int.lt_asymm (toDays_lt_of_before he hd h))
  · exact toDays_lt_of_before hd he

/-- Different valid dates stand for different days. -/
theorem toDays_inj (hd : d.isValid = true) (he : e.isValid = true) :
    d.toDays = e.toDays ↔ d = e := by
  constructor
  · intro heq
    rcases before_or_eq_or_before d e with h | h | h
    · exact absurd heq (Int.ne_of_lt (toDays_lt_of_before hd he h))
    · exact h
    · exact absurd heq.symm (Int.ne_of_lt (toDays_lt_of_before he hd h))
  · rintro rfl
    rfl

/-- A valid date is the date of its day. -/
theorem ofDays_toDays (h : d.isValid = true) : ofDays d.toDays = d :=
  (toDays_inj (isValid_ofDays _) h).1 (toDays_ofDays _)

end SeriesQuery.Date
