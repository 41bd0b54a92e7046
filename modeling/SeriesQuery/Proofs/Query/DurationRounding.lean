import SeriesQuery.Proofs.Query.DurationWords

/-!
# Digits behind the eighteenth

The reader of durations cuts the fraction of a group after eighteen digits. In seconds and shorter units
the digits behind them do not count. A minute and an hour are no powers of ten, so there digits that are
worth less than a nanosecond can still fill one up (`Group.Carries`). Where they do, and only there, the
group is not read as its exact length, rounded down, but as one nanosecond less (`parse_eq_floor_iff`).
-/

namespace SeriesQuery.Duration

open Text

/-! ## Fractions in two parts -/

theorem tenTo_pos (n : ℕ) : (0 : ℚ) < tenTo n := by
  exact_mod_cast (Nat.pow_pos (by decide) : 0 < tenTo n)

/-- No fraction is below zero. -/
theorem fractionValue_nonneg (ds : List Char) : 0 ≤ fractionValue ds := by
  rw [fractionValue_eq]
  exact div_nonneg (Nat.cast_nonneg _) (tenTo_pos _).le

/-- No fraction reaches one. -/
theorem fractionValue_lt_one {ds : List Char} (hd : IsDigits ds) : fractionValue ds < 1 := by
  rw [fractionValue_eq, div_lt_one (tenTo_pos _)]
  exact_mod_cast natOfDigits_lt_tenTo hd

/-- Digits count for less the further back they stand. -/
theorem fractionValue_append (as bs : List Char) :
    fractionValue (as ++ bs) = fractionValue as + fractionValue bs / tenTo as.length := by
  induction as with
  | nil =>
      have hone : (tenTo 0 : ℚ) = 1 := Nat.cast_one
      rw [List.nil_append, List.length_nil, hone, div_one, fractionValue, zero_add]
  | cons c as ih =>
      have hpos := (tenTo_pos as.length).ne'
      rw [List.cons_append, fractionValue, ih, fractionValue, List.length_cons, tenTo_succ]
      push_cast
      field_simp
      ring

namespace Group

variable {g : Group}

/-- The length of the group in nanoseconds, exactly. -/
def exact (g : Group) : ℚ := (natOfDigits g.whole + fractionValue g.fraction) * g.unit.nanos

/-- The group without the digits behind the eighteenth. -/
def cut (g : Group) : Group := { g with fraction := g.fraction.take 18 }

/-- The digits behind the eighteenth, and not the eighteen alone, reach a whole number of nanoseconds. -/
def Carries (g : Group) : Prop := ∃ n : ℕ, g.cut.exact < n ∧ n ≤ g.exact

/-- The length of a group is not negative. -/
theorem exact_nonneg (g : Group) : 0 ≤ g.exact :=
  mul_nonneg (add_nonneg (Nat.cast_nonneg _) (fractionValue_nonneg _)) (Nat.cast_nonneg _)

/-- Rounded down, the length is a quotient of naturals. -/
theorem floor_exact_eq (g : Group) :
    ⌊g.exact⌋₊ = (natOfDigits g.whole * tenTo g.fraction.length + natOfDigits g.fraction) *
      g.unit.nanos / tenTo g.fraction.length := by
  have hpos := (tenTo_pos g.fraction.length).ne'
  have hexact : g.exact = ((natOfDigits g.whole * tenTo g.fraction.length +
      natOfDigits g.fraction) * g.unit.nanos : ℕ) / (tenTo g.fraction.length : ℕ) := by
    rw [exact, fractionValue_eq]
    push_cast
    field_simp
  rw [hexact, Nat.floor_div_eq_div]

/-- What the cut takes away. -/
theorem exact_eq (g : Group) :
    g.exact = g.cut.exact +
      fractionValue (g.fraction.drop 18) / tenTo (g.fraction.take 18).length * g.unit.nanos := by
  have hparts := fractionValue_append (g.fraction.take 18) (g.fraction.drop 18)
  rw [List.take_append_drop] at hparts
  rw [exact, exact, cut, hparts]
  ring

/-- The cut takes something away, or nothing. -/
theorem cut_exact_le (g : Group) : g.cut.exact ≤ g.exact := by
  have hlost := div_nonneg (fractionValue_nonneg (g.fraction.drop 18))
    (tenTo_pos (g.fraction.take 18).length).le
  rw [exact_eq g]
  exact le_add_of_nonneg_right (mul_nonneg hlost (Nat.cast_nonneg _))

/-- Up to eighteen digits nothing is cut. -/
theorem cut_eq_of_length_le (h : g.fraction.length ≤ 18) : g.cut = g := by
  rw [cut, List.take_of_length_le h]

/-- Digits are lost only behind eighteen others. -/
theorem length_take_of_lt (h : 18 < g.fraction.length) : (g.fraction.take 18).length = 18 := by
  rw [List.length_take]
  omega

/-- What is cut off are digits. -/
theorem isDigits_drop (hd : IsDigits g.fraction) : IsDigits (g.fraction.drop 18) :=
  fun c hc => hd c (List.mem_of_mem_drop hc)

/-- Less than a nanosecond is lost. -/
theorem exact_lt_cut_exact_add_one (hd : IsDigits g.fraction) : g.exact < g.cut.exact + 1 := by
  by_cases hlen : g.fraction.length ≤ 18
  · rw [cut_eq_of_length_le hlen]
    exact lt_add_one _
  · have hlost := fractionValue_lt_one (isDigits_drop hd)
    have hnanos : (g.unit.nanos : ℚ) ≤ 3600000000000 := by exact_mod_cast g.unit.nanos_le
    have hscale : (tenTo 18 : ℚ) = 1000000000000000000 := by norm_num [tenTo]
    have hpos : (0 : ℚ) < g.unit.nanos := by exact_mod_cast g.unit.nanos_pos
    rw [exact_eq, length_take_of_lt (not_le.1 hlen), hscale]
    apply add_lt_add_right
    calc fractionValue (g.fraction.drop 18) / 1000000000000000000 * g.unit.nanos
      _ ≤ 1 / 1000000000000000000 * 3600000000000 := by gcongr
      _ < 1 := by norm_num

/-! ## Carries -/

/-- A group is worth what is left of it by the cut, rounded down. -/
theorem worth_eq_floor (g : Group) : g.worth = ⌊g.cut.exact⌋₊ := by
  have hlost : 0 ≤ fractionValue (g.fraction.take 18) * g.unit.nanos :=
    mul_nonneg (fractionValue_nonneg _) (Nat.cast_nonneg _)
  have hexact : g.cut.exact =
      fractionValue (g.fraction.take 18) * g.unit.nanos +
        (natOfDigits g.whole * g.unit.nanos : ℕ) := by
    rw [exact, cut, Nat.cast_mul]
    ring
  rw [hexact, Nat.floor_add_natCast hlost, worth, Nat.add_comm]

/-- A group is never worth more than its exact length. -/
theorem worth_le_floor_exact (g : Group) : g.worth ≤ ⌊g.exact⌋₊ := by
  rw [worth_eq_floor]
  exact Nat.floor_mono g.cut_exact_le

/-- The digits cut off carry exactly where a nanosecond is lost. -/
theorem carries_iff : g.Carries ↔ g.worth < ⌊g.exact⌋₊ := by
  rw [worth_eq_floor]
  constructor
  · rintro ⟨n, hcut, hexact⟩
    exact ((Nat.floor_lt g.cut.exact_nonneg).2 hcut).trans_le (Nat.le_floor hexact)
  · intro hlt
    exact ⟨_, (Nat.floor_lt g.cut.exact_nonneg).1 hlt, Nat.floor_le g.exact_nonneg⟩

/-- Where they do not, the group is worth its exact length, rounded down. -/
theorem floor_exact_of_not_carries (h : ¬ g.Carries) : ⌊g.exact⌋₊ = g.worth := by
  rw [carries_iff, not_lt] at h
  exact le_antisymm h g.worth_le_floor_exact

/-- A group that carries loses one nanosecond, no more. -/
theorem floor_exact_of_carries (hd : IsDigits g.fraction) (h : g.Carries) :
    ⌊g.exact⌋₊ = g.worth + 1 := by
  have hlow := carries_iff.1 h
  have hhigh : ⌊g.exact⌋₊ < g.worth + 2 := by
    have hfloor := Nat.lt_floor_add_one g.cut.exact
    rw [← worth_eq_floor] at hfloor
    rw [Nat.floor_lt g.exact_nonneg]
    push_cast
    linarith [exact_lt_cut_exact_add_one hd]
  omega

/-- Only the digits behind the eighteenth carry. -/
theorem length_of_carries (h : g.Carries) : 18 < g.fraction.length := by
  by_contra hlen
  obtain ⟨n, hcut, hexact⟩ := h
  rw [cut_eq_of_length_le (not_lt.1 hlen)] at hcut
  exact absurd hexact (not_le.2 hcut)

/-- In a unit that is a power of ten, eighteen digits make up the nanosecond and parts of it: what is
behind them adds to a part. -/
theorem dvd_of_not_minute_or_hour {unit : TimeUnit} (hminute : unit ≠ .minute) (hhour : unit ≠ .hour) :
    unit.nanos ∣ tenTo 18 := by
  cases unit with
  | minute => exact absurd rfl hminute
  | hour => exact absurd rfl hhour
  | nanosecond | microsecond | millisecond | second => decide

/-- In a unit that divides the power of ten, no digits carry. -/
theorem not_carries_of_dvd (hd : IsDigits g.fraction) (hdvd : g.unit.nanos ∣ tenTo 18) :
    ¬ g.Carries := by
  intro h
  have hlength := length_take_of_lt (length_of_carries h)
  obtain ⟨parts, hparts⟩ := hdvd
  obtain ⟨n, hcut, hexact⟩ := h
  have hscale : (tenTo 18 : ℚ) = g.unit.nanos * parts := by exact_mod_cast hparts
  have hpos : (0 : ℚ) < g.unit.nanos * parts := hscale ▸ tenTo_pos 18
  have hparts0 : (0 : ℚ) < parts := pos_of_mul_pos_right hpos (Nat.cast_nonneg _)
  -- counted in parts of a nanosecond, the digits that are kept make a natural number
  have hkept : g.cut.exact * parts =
      (natOfDigits g.whole * tenTo 18 + natOfDigits (g.fraction.take 18) : ℕ) := by
    rw [exact, cut, fractionValue_eq, hlength, Nat.cast_add, Nat.cast_mul, hscale, mul_assoc]
    exact (add_mul _ _ _).trans (congrArg _ (div_mul_cancel₀ _ hpos.ne'))
  have hlost : (g.exact - g.cut.exact) * parts < 1 := by
    rw [exact_eq g, add_sub_cancel_left, hlength, hscale, mul_assoc, div_mul_cancel₀ _ hpos.ne']
    exact fractionValue_lt_one (isDigits_drop hd)
  generalize natOfDigits g.whole * tenTo 18 + natOfDigits (g.fraction.take 18) = kept at hkept
  have hlow : (kept : ℚ) < (n * parts : ℕ) := by
    rw [← hkept, Nat.cast_mul]
    exact mul_lt_mul_of_pos_right hcut hparts0
  have hhigh : ((n * parts : ℕ) : ℚ) < kept + 1 := by
    have hle := mul_le_mul_of_nonneg_right hexact hparts0.le
    rw [← hkept, Nat.cast_mul]
    linarith
  have hlow' : kept < n * parts := by exact_mod_cast hlow
  have hhigh' : n * parts < kept + 1 := by exact_mod_cast hhigh
  omega

/-- Only minutes and hours carry. -/
theorem unit_of_carries (hd : IsDigits g.fraction) (h : g.Carries) :
    g.unit = .minute ∨ g.unit = .hour := by
  by_contra hunit
  obtain ⟨hminute, hhour⟩ := not_or.1 hunit
  exact not_carries_of_dvd hd (dvd_of_not_minute_or_hour hminute hhour) h

end Group

/-! ## Texts of one group -/

/-- A length between zero and one in range is in range. -/
theorem InRange.of_le {m n : ℤ} (h : InRange n) (hm : 0 ≤ m) (hle : m ≤ n) : InRange m := by
  obtain ⟨-, hhigh⟩ := h
  exact ⟨by omega, hle.trans hhigh⟩

/-- A group that is read up to the end is written by the text. -/
theorem Group.writes_of_read? {g : Group} {cs : List Char} (h : Group.read? cs = some (g, [])) :
    g.Writes cs := by
  obtain ⟨front, hfront, rfl⟩ := Group.exists_writes_of_read? h
  rw [List.append_nil]
  exact hfront

/-- A group by itself is read as what it is worth. -/
theorem parse_of_writes {g : Group} {text : String} (h : g.Writes text.toList)
    (hrange : InRange g.worth) : parse text = .ok ⟨g.worth⟩ := by
  have hsequence := Sequence.cons h .nil
  rw [List.append_nil] at hsequence
  have hmeasures := Measures.groups (List.cons_ne_nil g []) hsequence
  rw [List.map_singleton, List.sum_singleton] at hmeasures
  rw [parse_eq_ok_iff, read?_eq_some_iff]
  exact ⟨.bare hmeasures, hrange⟩

/-- A group that is not too long is read as its exact length, rounded down, unless it carries; then one
nanosecond is missing. Only minutes and hours with more than eighteen digits behind the point carry. -/
theorem parse_eq_floor_iff {g : Group} {text : String} (h : g.Writes text.toList)
    (hrange : InRange ⌊g.exact⌋) :
    (parse text = .ok ⟨⌊g.exact⌋⟩ ↔ ¬ g.Carries) ∧
      (g.Carries → parse text = .ok ⟨⌊g.exact⌋ - 1⟩ ∧ 18 < g.fraction.length ∧
        (g.unit = .minute ∨ g.unit = .hour)) := by
  have hd := h.isDigits_fraction
  have hworth := g.worth_le_floor_exact
  rw [← Int.natCast_floor_eq_floor g.exact_nonneg] at hrange ⊢
  have hread := parse_of_writes h (hrange.of_le (Int.natCast_nonneg _) (by exact_mod_cast hworth))
  have hcarries : g.Carries → parse text = .ok ⟨⌊g.exact⌋₊ - 1⟩ := by
    intro hcarries
    rw [hread, Group.floor_exact_of_carries hd hcarries, Int.natCast_add, Int.natCast_one,
      Int.add_sub_cancel]
  constructor
  · constructor
    · intro hfloor hcarry
      rw [hcarries hcarry, Except.ok.injEq, Duration.mk.injEq] at hfloor
      omega
    · intro hcarry
      rw [hread, Group.floor_exact_of_not_carries hcarry]
  · intro hcarry
    exact ⟨hcarries hcarry, Group.length_of_carries hcarry, Group.unit_of_carries hd hcarry⟩

/-- Nineteen digits of a minute, worth a bit more than two nanoseconds. -/
def twoNanoseconds : Group := ⟨['0'], "0000000000333333334".toList, .minute⟩

/-- The eighteen digits that are kept end just before the second nanosecond. -/
theorem parse_eq_floor_twoNanoseconds :
    (twoNanoseconds.Writes "0.0000000000333333334m".toList ∧ InRange ⌊twoNanoseconds.exact⌋) ∧
      (twoNanoseconds.Carries ∧ ⌊twoNanoseconds.exact⌋ = 2) ∧
      ((parse "0.0000000000333333334m" = .ok ⟨⌊twoNanoseconds.exact⌋⟩ ↔ ¬ twoNanoseconds.Carries) ∧
        (twoNanoseconds.Carries → parse "0.0000000000333333334m" = .ok ⟨⌊twoNanoseconds.exact⌋ - 1⟩ ∧
          18 < twoNanoseconds.fraction.length ∧
          (twoNanoseconds.unit = .minute ∨ twoNanoseconds.unit = .hour))) := by
  have hwrites : twoNanoseconds.Writes "0.0000000000333333334m".toList :=
    Group.writes_of_read? (by decide)
  have hfloor : ⌊twoNanoseconds.exact⌋₊ = 2 := by
    rw [Group.floor_exact_eq]
    decide +kernel
  have hcarries : twoNanoseconds.Carries := by
    rw [Group.carries_iff, hfloor, Group.worth_eq]
    decide +kernel
  have hfloor' : ⌊twoNanoseconds.exact⌋ = 2 := by
    rw [← Int.natCast_floor_eq_floor twoNanoseconds.exact_nonneg, hfloor]
    rfl
  have hrange : InRange ⌊twoNanoseconds.exact⌋ := by
    rw [hfloor', ← fitsSigned_iff]
    decide
  exact ⟨⟨hwrites, hrange⟩, ⟨hcarries, hfloor'⟩, parse_eq_floor_iff hwrites hrange⟩

/-- Every group that is not too long is read as its exact length, rounded down. -/
def RoundsDown : Prop :=
  ∀ (g : Group) (text : String), g.Writes text.toList → InRange ⌊g.exact⌋ →
    parse text = .ok ⟨⌊g.exact⌋⟩

/-- Nineteen digits of an hour, worth a bit more than four nanoseconds. -/
def fourNanoseconds : Group := ⟨['0'], "0000000000011111112".toList, .hour⟩

/-- They are read as three. -/
theorem not_roundsDown_fourNanoseconds :
    parse "0.0000000000011111112h" = .ok ⟨3⟩ ∧ ⌊fourNanoseconds.exact⌋ = 4 ∧ ¬ RoundsDown := by
  have hwrites : fourNanoseconds.Writes "0.0000000000011111112h".toList :=
    Group.writes_of_read? (by decide)
  have hfloor : ⌊fourNanoseconds.exact⌋ = 4 := by
    rw [← Int.natCast_floor_eq_floor fourNanoseconds.exact_nonneg, Group.floor_exact_eq]
    decide +kernel
  have hrange : InRange ⌊fourNanoseconds.exact⌋ := by
    rw [hfloor, ← fitsSigned_iff]
    decide
  have hread : parse "0.0000000000011111112h" = .ok ⟨3⟩ := by decide +kernel
  refine ⟨hread, hfloor, ?_⟩
  intro h
  have hclaimed := h _ _ hwrites hrange
  rw [hread, hfloor] at hclaimed
  exact absurd hclaimed (by decide)

end SeriesQuery.Duration
