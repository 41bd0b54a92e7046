import SeriesQuery.Number.Shortest
import SeriesQuery.Proofs.Number.Decimals

/-!
# Written numbers

A finite number is read back from its text (`parse?_write`). What rounds to it lies between the midpoints to the
numbers below and above (`neighbourhood_spec`). The text stands for a decimal that does: either the search has found
it there, or it has the seventeen digits that are always enough (`holds_coarsest`).
-/

namespace SeriesQuery.Binary64

open Interchange Text

/-! ## Units -/

/-- A power whose exponent is negative is a whole number behind the inverse power. -/
theorem zpow_mul_pow_toNat {b : ℚ} (hb : b ≠ 0) (e : ℤ) : b ^ e * b ^ (-e).toNat = b ^ e.toNat := by
  rw [← zpow_natCast, ← zpow_natCast, ← zpow_add₀ hb]
  congr 1
  omega

/-- The common units have the ratio of the two powers. -/
theorem commonUnits_spec (ten two : ℤ) : ∃ unit : ℚ, 0 < unit ∧
    ((commonUnits ten two).1 : ℚ) = 10 ^ ten * unit ∧ ((commonUnits ten two).2 : ℚ) = 2 ^ two * unit := by
  have hten : ∀ k : ℕ, ((tenTo k : ℕ) : ℚ) = 10 ^ k := fun k => by exact_mod_cast rfl
  have htwo : ∀ k : ℕ, ((twoTo k : ℕ) : ℚ) = 2 ^ k := fun k => by exact_mod_cast rfl
  refine ⟨10 ^ (-ten).toNat * 2 ^ (-two).toNat, by positivity, ?_, ?_⟩
  · rw [commonUnits, Nat.cast_mul, hten, htwo, ← zpow_mul_pow_toNat (by norm_num) ten, mul_assoc]
  · rw [commonUnits, Nat.cast_mul, hten, htwo, ← zpow_mul_pow_toNat two_ne_zero two, mul_comm (10 ^ _), mul_assoc]

variable {ten two : ℤ} {x y : ℕ}

/-- Multiples of both powers are compared in common units. -/
theorem commonUnits_le_iff :
    x * (commonUnits ten two).2 ≤ y * (commonUnits ten two).1 ↔ (x : ℚ) * 2 ^ two ≤ y * 10 ^ ten := by
  obtain ⟨unit, hunit, hfirst, hsecond⟩ := commonUnits_spec ten two
  rw [← @Nat.cast_le ℚ, Nat.cast_mul, Nat.cast_mul, hfirst, hsecond, ← mul_assoc, ← mul_assoc,
    mul_le_mul_iff_left₀ hunit]

/-- In common units, a power of ten is compared with a power of two. -/
theorem le_commonUnits_iff :
    y * (commonUnits ten two).1 ≤ x * (commonUnits ten two).2 ↔ (y : ℚ) * 10 ^ ten ≤ x * 2 ^ two := by
  obtain ⟨unit, hunit, hfirst, hsecond⟩ := commonUnits_spec ten two
  rw [← @Nat.cast_le ℚ, Nat.cast_mul, Nat.cast_mul, hfirst, hsecond, ← mul_assoc, ← mul_assoc,
    mul_le_mul_iff_left₀ hunit]

/-! ## Neighbourhoods -/

namespace Neighbourhood

/-- The number is between the ends, or at one of them if they belong to it. -/
structure Holds (n : Neighbourhood) (q : ℚ) : Prop where
  low_le : n.low * 2 ^ n.exponent ≤ q
  le_high : q ≤ n.high * 2 ^ n.exponent
  ends : n.closed = true ∨ n.low * 2 ^ n.exponent < q ∧ q < n.high * 2 ^ n.exponent

variable {n : Neighbourhood} {count : ℕ}

/-- The test for a count of powers of ten is the comparison with both ends of the interval. -/
theorem contains_iff : n.contains ten count = true ↔ n.Holds (count * 10 ^ ten) := by
  have hlow := @commonUnits_le_iff ten n.exponent n.low count
  have hhigh := @le_commonUnits_iff ten n.exponent n.high count
  have hlow' := (@le_commonUnits_iff ten n.exponent n.low count).not
  have hhigh' := (@commonUnits_le_iff ten n.exponent n.high count).not
  rw [not_le, not_le] at hlow' hhigh'
  rw [contains]
  by_cases hclosed : n.closed = true
  · simp only [hclosed, if_true, Bool.and_eq_true, decide_eq_true_eq, hlow, hhigh]
    exact ⟨fun h => ⟨h.1, h.2, .inl hclosed⟩, fun h => ⟨h.low_le, h.le_high⟩⟩
  · simp only [hclosed, Bool.false_eq_true, if_false, Bool.and_eq_true, decide_eq_true_eq, hlow', hhigh']
    exact ⟨fun h => ⟨h.1.le, h.2.le, .inr h⟩, fun h => h.ends.resolve_left hclosed⟩

/-- A point of a grid that is found is in the neighbourhood. -/
theorem holds_of_onGrid? (h : n.onGrid? ten = some count) : n.Holds (count * 10 ^ ten) := by
  have hround : ∀ num den, roundQuotient num den = num / den ∨ roundQuotient num den = num / den + 1 := by
    intro num den
    rw [roundQuotient]
    split
    · exact .inl rfl
    · exact .inr rfl
  rw [← contains_iff]
  unfold onGrid? at h
  dsimp only at h
  generalize hquotient : n.value * (commonUnits ten n.exponent).2 / (commonUnits ten n.exponent).1 = below at h
  cases hbelow : n.contains ten below with
  | true =>
      cases habove : n.contains ten (below + 1) with
      | true =>
          rw [hbelow, habove] at h
          obtain rfl := Option.some.inj h
          rcases hround (n.value * (commonUnits ten n.exponent).2) (commonUnits ten n.exponent).1 with hr | hr
          · rw [hr, hquotient, hbelow]
          · rw [hr, hquotient, habove]
      | false =>
          rw [hbelow, habove] at h
          rw [← Option.some.inj h, hbelow]
  | false =>
      cases habove : n.contains ten (below + 1) with
      | true =>
          rw [hbelow, habove] at h
          rw [← Option.some.inj h, habove]
      | false =>
          rw [hbelow, habove] at h
          cases h

/-- The search ends with a point of the neighbourhood, or on the finest of its grids. -/
theorem coarsest_cases (n : Neighbourhood) (fuel : ℕ) (ten : ℤ) :
    n.Holds ((n.coarsest fuel ten).count * 10 ^ (n.coarsest fuel ten).exponent) ∨
      n.coarsest fuel ten = ⟨roundQuotient (n.value * (commonUnits (ten - fuel) n.exponent).2)
        (commonUnits (ten - fuel) n.exponent).1, ten - fuel⟩ := by
  induction fuel generalizing ten with
  | zero =>
      right
      rw [coarsest, Nat.cast_zero, sub_zero]
  | succ fuel ih =>
      rw [coarsest]
      cases hgrid : n.onGrid? ten with
      | some count => exact .inl (holds_of_onGrid? hgrid)
      | none =>
          rw [Nat.cast_succ, show ten - (fuel + 1 : ℤ) = ten - 1 - fuel by ring]
          exact ih (ten - 1)

/-- Where the spacing of the grid is small beside the neighbourhood, the nearest point is in it. -/
theorem holds_roundQuotient (hfine : (10 : ℚ) ^ ten < 2 * (n.value - n.low) * 2 ^ n.exponent)
    (hfine' : (10 : ℚ) ^ ten < 2 * (n.high - n.value) * 2 ^ n.exponent) :
    n.Holds (roundQuotient (n.value * (commonUnits ten n.exponent).2) (commonUnits ten n.exponent).1 *
      10 ^ ten) := by
  obtain ⟨unit, hunit, hfirst, hsecond⟩ := commonUnits_spec ten n.exponent
  have hpos : 0 < (commonUnits ten n.exponent).1 := by
    rw [← @Nat.cast_pos ℚ, hfirst]
    positivity
  obtain ⟨hlow, hhigh⟩ := roundQuotient_bounds (n.value * (commonUnits ten n.exponent).2) hpos
  generalize roundQuotient _ _ = R at hlow hhigh ⊢
  -- the distance from the value is half the spacing at most
  have hlow' : 2 * (n.value * 2 ^ n.exponent) ≤ (2 * R + 1) * (10 : ℚ) ^ ten := by
    rw [← @Nat.cast_le ℚ] at hlow
    push_cast at hlow
    rw [hfirst, hsecond] at hlow
    rw [← mul_le_mul_iff_left₀ hunit]
    linarith
  have hhigh' : (2 * R : ℚ) * 10 ^ ten ≤ 2 * (n.value * 2 ^ n.exponent) + 10 ^ ten := by
    rw [← @Nat.cast_le ℚ] at hhigh
    push_cast at hhigh
    rw [hfirst, hsecond] at hhigh
    rw [← mul_le_mul_iff_left₀ hunit]
    linarith
  have hless : (n.low : ℚ) * 2 ^ n.exponent < R * 10 ^ ten := by linarith
  have hmore : (R : ℚ) * 10 ^ ten < n.high * 2 ^ n.exponent := by linarith
  exact ⟨hless.le, hmore.le, .inr ⟨hless, hmore⟩⟩

/-- A power of ten is at most a power of two if the exponents are about as far apart as their logarithms. -/
theorem ten_zpow_le_two_zpow {k b : ℤ} (hpos : 0 ≤ b → 196 * k ≤ 59 * b) (hneg : b < 0 → 93 * k ≤ 28 * b) :
    (10 : ℚ) ^ k ≤ 2 ^ b := by
  have hten : (10 : ℚ) ^ 59 ≤ 2 ^ 196 := by norm_num
  have hten' : (2 : ℚ) ^ 93 ≤ 10 ^ 28 := by norm_num
  by_cases hb : 0 ≤ b
  · have hk := hpos hb
    obtain ⟨b, rfl⟩ := Int.eq_ofNat_of_zero_le hb
    by_cases hk0 : 0 ≤ k
    · obtain ⟨k, rfl⟩ := Int.eq_ofNat_of_zero_le hk0
      rw [zpow_natCast, zpow_natCast]
      apply le_of_pow_le_pow_left₀ (show 59 ≠ 0 by omega) (by positivity)
      calc ((10 : ℚ) ^ k) ^ 59 = (10 ^ 59) ^ k := by rw [← pow_mul, ← pow_mul, Nat.mul_comm]
        _ ≤ (2 ^ 196) ^ k := pow_le_pow_left₀ (by norm_num) hten k
        _ = 2 ^ (196 * k) := (pow_mul 2 196 k).symm
        _ ≤ 2 ^ (b * 59) := pow_le_pow_right₀ one_le_two (by omega)
        _ = (2 ^ b) ^ 59 := pow_mul 2 b 59
    · calc (10 : ℚ) ^ k ≤ 10 ^ (0 : ℤ) := zpow_le_zpow_right₀ (by norm_num) (by omega)
        _ = 1 := zpow_zero 10
        _ ≤ 2 ^ (b : ℤ) := one_le_zpow₀ one_le_two (Int.natCast_nonneg b)
  · have hk := hneg (by omega)
    obtain ⟨b, rfl⟩ := Int.exists_eq_neg_ofNat (show b ≤ 0 by omega)
    obtain ⟨k, rfl⟩ := Int.exists_eq_neg_ofNat (show k ≤ 0 by omega)
    rw [zpow_neg, zpow_neg, zpow_natCast, zpow_natCast]
    apply inv_anti₀ (by positivity)
    apply le_of_pow_le_pow_left₀ (show 93 ≠ 0 by omega) (by positivity)
    calc ((2 : ℚ) ^ b) ^ 93 = (2 ^ 93) ^ b := by rw [← pow_mul, ← pow_mul, Nat.mul_comm]
      _ ≤ (10 ^ 28) ^ b := pow_le_pow_left₀ (by norm_num) hten' b
      _ = 10 ^ (28 * b) := (pow_mul 10 28 b).symm
      _ ≤ 10 ^ (k * 93) := pow_le_pow_right₀ (by norm_num) (by omega)
      _ = (10 ^ k) ^ 93 := pow_mul 10 k 93

/-- The leading power of ten is at most the value. -/
theorem ten_zpow_leadingTen_le (hvalue : 0 < n.value)
    (hsize : ((Nat.log2 n.value : ℤ) + n.exponent).natAbs ≤ 2000) :
    (10 : ℚ) ^ n.leadingTen ≤ n.value * 2 ^ n.exponent := by
  have hatMost : ∀ ten : ℤ,
      decide ((commonUnits ten n.exponent).1 ≤ n.value * (commonUnits ten n.exponent).2) = true →
      (10 : ℚ) ^ ten ≤ n.value * 2 ^ n.exponent := by
    intro ten h
    have hle := @le_commonUnits_iff ten n.exponent n.value 1
    rw [Nat.one_mul, Nat.cast_one, one_mul] at hle
    exact hle.1 (of_decide_eq_true h)
  rw [leadingTen]
  dsimp only
  split
  · next h => exact hatMost _ h
  · split
    · next h => exact hatMost _ h
    · calc (10 : ℚ) ^ (((Nat.log2 n.value : ℤ) + n.exponent) * 30103 / 100000 - 1)
          ≤ 2 ^ ((Nat.log2 n.value : ℤ) + n.exponent) := ten_zpow_le_two_zpow (by omega) (by omega)
        _ = 2 ^ Nat.log2 n.value * 2 ^ n.exponent := by rw [zpow_add₀ two_ne_zero, zpow_natCast]
        _ ≤ n.value * 2 ^ n.exponent := by
            apply mul_le_mul_of_nonneg_right _ (by positivity)
            exact_mod_cast Nat.log2_self_le hvalue.ne'

/-- Seventeen digits are enough where a neighbourhood is not too narrow beside its value. -/
theorem holds_coarsest (hvalue : 0 < n.value) (hsize : ((Nat.log2 n.value : ℤ) + n.exponent).natAbs ≤ 2000)
    (hlow : (n.value : ℚ) < 2 * 10 ^ 16 * (n.value - n.low))
    (hhigh : (n.value : ℚ) < 2 * 10 ^ 16 * (n.high - n.value)) :
    n.Holds ((n.coarsest 16 n.leadingTen).count * 10 ^ (n.coarsest 16 n.leadingTen).exponent) := by
  rcases n.coarsest_cases 16 n.leadingTen with h | h
  · exact h
  · have htwo : (0 : ℚ) < 2 ^ n.exponent := by positivity
    have hleading : (10 : ℚ) ^ (n.leadingTen - (16 : ℕ)) * 10 ^ 16 ≤ n.value * 2 ^ n.exponent := by
      rw [← zpow_natCast, ← zpow_add₀ (by norm_num), sub_add_cancel]
      exact ten_zpow_leadingTen_le hvalue hsize
    have hbelow := mul_lt_mul_of_pos_right hlow htwo
    have habove := mul_lt_mul_of_pos_right hhigh htwo
    rw [h]
    exact holds_roundQuotient (by linarith) (by linarith)

end Neighbourhood

/-! ## The neighbourhood of a number -/

variable {negative : Bool} {m k : ℕ} {q : ℚ}

/-- The significand of a finite number above zero, with the exponent of its last bit. -/
theorem exists_significand_eq (negative : Bool) (hm : m < infinityBits) (hpos : 0 < m) : ∃ (M : ℕ) (e : ℤ),
    (ofParts negative m).significand = (M, e) ∧ m = (e + 1074).toNat * 2 ^ 52 + M ∧ -1074 ≤ e ∧ e ≤ 971 ∧
      0 < M ∧ M < 2 * 2 ^ 52 ∧ (e = -1074 ∨ 2 ^ 52 ≤ M) := by
  have hfraction : fractionRange = 2 ^ 52 := rfl
  rw [significand, magnitudeBits_ofParts negative (lt_of_le_infinityBits hm.le), hfraction]
  rw [infinityBits_eq] at hm
  by_cases hzero : m / 2 ^ 52 = 0
  · rw [if_pos hzero]
    exact ⟨_, _, rfl, by omega, by omega, by omega, by omega, by omega, .inl rfl⟩
  · rw [if_neg hzero]
    exact ⟨_, _, rfl, by omega, by omega, by omega, by omega, by omega, .inr (by omega)⟩

/-- The neighbourhood is told by the significand. At a power of two the lower end is nearer. -/
theorem neighbourhood_eq {x : Binary64} {M : ℕ} {e : ℤ} (h : x.significand = (M, e)) :
    x.neighbourhood =
      ⟨4 * M - (if M = 2 ^ 52 ∧ -1074 < e then 1 else 2), 4 * M, 4 * M + 2, e - 2, M % 2 == 0⟩ := by
  have hfraction : fractionRange = 2 ^ 52 := rfl
  rw [neighbourhood, h]
  simp only [hfraction, Bool.and_eq_true, beq_iff_eq, decide_eq_true_eq]

/-- The ends of a neighbourhood are the midpoints to the numbers below and above. -/
theorem neighbourhood_spec (negative : Bool) (hm : k + 1 < infinityBits) :
    2 * ((ofParts negative (k + 1)).neighbourhood.low * 2 ^ (ofParts negative (k + 1)).neighbourhood.exponent) =
      double.valueAt k + double.valueAt (k + 1) ∧
    2 * ((ofParts negative (k + 1)).neighbourhood.high * 2 ^ (ofParts negative (k + 1)).neighbourhood.exponent) =
      double.valueAt (k + 1) + double.valueAt (k + 2) ∧
    ((ofParts negative (k + 1)).neighbourhood.closed = true ↔ Even (k + 1)) := by
  obtain ⟨M, e, hsignificand, hplace, he, -, hpos, hM, hleading⟩ := exists_significand_eq negative hm k.succ_pos
  have hunits : (2 : ℚ) ^ e = 4 * 2 ^ (e - 2) := by
    rw [show (4 : ℚ) = 2 ^ (2 : ℤ) by norm_num, ← zpow_add₀ two_ne_zero, add_sub_cancel]
  have hhere : double.valueAt (k + 1) = M * 2 ^ e := by
    rw [hplace]
    exact valueAt_eq he hM.le hleading
  have habove : double.valueAt (k + 2) = (M + 1 : ℕ) * 2 ^ e := by
    rw [show k + 2 = (e + 1074).toNat * 2 ^ 52 + (M + 1) by omega]
    exact valueAt_eq he hM (by omega)
  rw [neighbourhood_eq hsignificand]
  dsimp only
  refine ⟨?_, ?_, ?_⟩
  · by_cases hatPower : M = 2 ^ 52 ∧ -1074 < e
    · -- the number below is in the binade with half the spacing
      obtain ⟨rfl, hleast⟩ := hatPower
      have hbelow : double.valueAt k = (2 * 2 ^ 52 - 1 : ℕ) * 2 ^ (e - 1) := by
        rw [show k = (e - 1 + 1074).toNat * 2 ^ 52 + (2 * 2 ^ 52 - 1) by omega]
        exact valueAt_eq (by omega) (by omega) (.inr (by omega))
      have hhalf : (2 : ℚ) ^ (e - 1) = 2 * 2 ^ (e - 2) := by
        rw [← zpow_one_add₀ two_ne_zero]
        congr 1
        omega
      rw [if_pos ⟨rfl, hleast⟩, hhere, hbelow, hunits, hhalf]
      norm_num
      ring
    · obtain ⟨N, rfl⟩ := Nat.exists_eq_add_of_lt hpos
      have hbelow : double.valueAt k = N * 2 ^ e := by
        rw [show k = (e + 1074).toNat * 2 ^ 52 + N by omega]
        exact valueAt_eq he (by omega) (by omega)
      have hlow : 4 * (0 + N + 1) - 2 = 4 * N + 2 := by omega
      rw [if_neg hatPower, hhere, hbelow, hunits, hlow]
      push_cast
      ring
  · rw [hhere, habove, hunits]
    push_cast
    ring
  · rw [beq_iff_eq, ← Nat.even_iff, hplace, Nat.even_add]
    exact (iff_true_left ((even_two.pow_of_ne_zero (by omega)).mul_left _)).symm

/-- What a neighbourhood holds is rounded to its number. -/
theorem nearestAt_of_holds (hm : k + 1 < infinityBits) (h : (ofParts negative (k + 1)).neighbourhood.Holds q) :
    NearestAt double.valueAt infinityBits q (k + 1) := by
  obtain ⟨hlow, hhigh, hclosed⟩ := neighbourhood_spec negative hm
  obtain ⟨hlow', hhigh', hends⟩ := h
  apply NearestAt.of_between double.strictMono_valueAt hm.le (by linarith) (by linarith)
  rw [← hclosed]
  exact hends.imp_right fun h => ⟨by linarith, by linarith⟩

/-- The shortest decimal is rounded to its number. -/
theorem nearestAt_shortest (hm : k + 1 < infinityBits) :
    NearestAt double.valueAt infinityBits
      ((ofParts negative (k + 1)).shortest.count * 10 ^ (ofParts negative (k + 1)).shortest.exponent) (k + 1) := by
  obtain ⟨M, e, hsignificand, -, he, he', hpos, hM, hleading⟩ := exists_significand_eq negative hm k.succ_pos
  have hlog : Nat.log2 (4 * M) < 55 := (Nat.log2_lt (by omega)).2 (by omega)
  have hM' : (M : ℚ) < 2 * 2 ^ 52 := by exact_mod_cast hM
  apply nearestAt_of_holds hm
  rw [shortest, neighbourhood_eq hsignificand]
  apply Neighbourhood.holds_coarsest
  · show 0 < 4 * M
    omega
  · show ((Nat.log2 (4 * M) : ℤ) + (e - 2)).natAbs ≤ 2000
    omega
  · dsimp only
    by_cases hatPower : M = 2 ^ 52 ∧ -1074 < e
    · rw [if_pos hatPower, hatPower.1]
      norm_num
    · rw [if_neg hatPower, Nat.cast_sub (by omega)]
      push_cast
      linarith
  · push_cast
    linarith

/-! ## Digits -/

/-- A written exponent of few digits is read back. -/
theorem isExponent_toDigits {e : ℤ} (h : e.natAbs < 65536) :
    IsExponent ('e' :: (if e < 0 then '-' else '+') :: Nat.toDigits 10 e.natAbs) e := by
  have hcounts : CountsFor (Nat.toDigits 10 e.natAbs) e.natAbs := by
    refine ⟨_, [], (List.append_nil _).symm, natOfDigits_toDigits _, ?_, .inl rfl⟩
    have hle := natOfDigits_dropLast_le (Nat.toDigits 10 e.natAbs)
    rw [natOfDigits_toDigits] at hle
    exact hle.trans_lt h
  by_cases hneg : e < 0
  · have hexponent := IsExponent.given (.inl rfl) .minus (isDigits_toDigits _) Nat.toDigits_ne_nil hcounts
    rw [if_pos rfl, Int.ofNat_natAbs_of_nonpos hneg.le, neg_neg] at hexponent
    rw [if_pos hneg]
    exact hexponent
  · have hexponent := IsExponent.given (.inl rfl) .plus (isDigits_toDigits _) Nat.toDigits_ne_nil hcounts
    rw [if_neg Bool.false_ne_true, Int.natAbs_of_nonneg (not_lt.1 hneg)] at hexponent
    rw [if_neg hneg]
    exact hexponent

/-- A text with a point and without exponent. -/
theorem IsDecimal.of_point {digits part : List Char} (run : IsDigits (digits ++ part))
    (nonempty : digits ++ part ≠ []) :
    IsDecimal (digits ++ '.' :: part) (natOfDigits (digits ++ part) * 10 ^ (-part.length : ℤ)) := by
  have h := IsDecimal.pointed run nonempty .absent
  rwa [List.append_nil, zero_sub] at h

variable {digits : List Char}

/-- A number below one, with zeros behind its point. -/
theorem isDecimal_zeros_append (hrun : IsDigits digits) (k : ℕ) :
    IsDecimal ('0' :: '.' :: (List.replicate k '0' ++ digits))
      (natOfDigits digits * 10 ^ (-k - digits.length : ℤ)) := by
  have hpart : IsDigits (List.replicate k '0' ++ digits) :=
    List.forall_mem_append.2 ⟨isDigits_replicate_zero k, hrun⟩
  have hvalue : natOfDigits ('0' :: (List.replicate k '0' ++ digits)) = natOfDigits digits :=
    natOfDigits_replicate_append (k + 1) digits
  have h := @IsDecimal.of_point ['0'] (List.replicate k '0' ++ digits) (List.forall_mem_cons.2 ⟨rfl, hpart⟩)
    (List.cons_ne_nil _ _)
  rw [List.singleton_append, List.singleton_append, hvalue] at h
  rwa [List.length_append, List.length_replicate, Nat.cast_add, neg_add'] at h

/-- A whole number, with zeros in front of its point and one behind it. -/
theorem isDecimal_append_zeros (hrun : IsDigits digits) (k : ℕ) :
    IsDecimal (digits ++ List.replicate k '0' ++ ['.', '0']) (natOfDigits digits * 10 ^ (k : ℤ)) := by
  have hall : IsDigits (digits ++ List.replicate k '0' ++ ['0']) :=
    List.forall_mem_append.2
      ⟨List.forall_mem_append.2 ⟨hrun, isDigits_replicate_zero k⟩, isDigits_replicate_zero 1⟩
  have hvalue : natOfDigits (digits ++ List.replicate k '0' ++ ['0']) = natOfDigits digits * tenTo (k + 1) := by
    rw [List.append_assoc, ← List.replicate_succ', natOfDigits_append_replicate]
  have h := IsDecimal.of_point hall (List.append_ne_nil_of_right_ne_nil _ (List.cons_ne_nil _ _))
  have hpower : ((natOfDigits digits * tenTo (k + 1) : ℕ) : ℚ) * 10 ^ (-1 : ℤ) =
      natOfDigits digits * 10 ^ (k : ℤ) := by
    rw [show tenTo (k + 1) = 10 ^ (k + 1) from rfl]
    push_cast
    rw [pow_succ, zpow_neg_one, zpow_natCast]
    ring
  rw [hvalue] at h
  rwa [← hpower]

/-- What is written for digits and a point is the decimal of these. -/
theorem isDecimal_writeDigits {point : ℤ} (hrun : IsDigits digits) (hne : digits ≠ [])
    (hpoint : (point - 1).natAbs < 65536) :
    IsDecimal (writeDigits digits point) (natOfDigits digits * 10 ^ (point - digits.length)) := by
  unfold writeDigits
  dsimp only
  by_cases hfar : 16 < point ∨ point ≤ -5
  · rw [if_pos hfar]
    have hexponent := isExponent_toDigits hpoint
    match digits with
    | [] => exact absurd rfl hne
    | [d] => exact .whole hrun hne hexponent
    | d :: c :: rest =>
      have h := @IsDecimal.pointed [d] (c :: rest) _ _ hrun hne hexponent
      have hshift : point - 1 - (c :: rest).length = point - (d :: c :: rest).length := by
        simp only [List.length_cons]
        omega
      rwa [hshift] at h
  rw [if_neg hfar]
  by_cases hsmall : point ≤ 0
  · rw [if_pos hsmall]
    have h := isDecimal_zeros_append hrun (-point).toNat
    rwa [Int.toNat_of_nonneg (by omega), neg_neg] at h
  rw [if_neg hsmall]
  by_cases hwhole : (digits.length : ℤ) ≤ point
  · rw [if_pos hwhole]
    have h := isDecimal_append_zeros hrun (point - digits.length).toNat
    rwa [Int.toNat_of_nonneg (by omega)] at h
  · rw [if_neg hwhole]
    have hsplit : digits.take point.toNat ++ digits.drop point.toNat = digits := List.take_append_drop _ _
    have h := IsDecimal.of_point (hsplit.symm ▸ hrun) (hsplit.symm ▸ hne)
    have hshift : -((digits.drop point.toNat).length : ℤ) = point - digits.length := by
      rw [List.length_drop]
      omega
    rwa [hsplit, hshift] at h

/-! ## Texts -/

variable {x : Binary64}

/-- Digits that count for something are not all dropped. -/
theorem dropTrailingZeros_toDigits_ne_nil {n : ℕ} (hn : n ≠ 0) : dropTrailingZeros (Nat.toDigits 10 n) ≠ [] := by
  intro hnil
  obtain ⟨k, hk⟩ := exists_dropTrailingZeros_append (Nat.toDigits 10 n)
  have hvalue : natOfDigits (Nat.toDigits 10 n) = natOfDigits [] * tenTo k := by
    rw [hk, hnil, natOfDigits_append_replicate]
  rw [natOfDigits_toDigits, show natOfDigits [] = 0 from rfl, Nat.zero_mul] at hvalue
  exact hn hvalue

/-- The digits of a decimal without the zeros behind it, with their point. -/
theorem isDecimal_of_count {n : ℕ} {e : ℤ} (hn : n ≠ 0)
    (hpoint : (e + (Nat.toDigits 10 n).length - 1).natAbs < 65536) :
    IsDecimal (writeDigits (dropTrailingZeros (Nat.toDigits 10 n)) (e + (Nat.toDigits 10 n).length))
      (n * 10 ^ e) := by
  obtain ⟨k, hk⟩ := exists_dropTrailingZeros_append (Nat.toDigits 10 n)
  have hrun : IsDigits (dropTrailingZeros (Nat.toDigits 10 n)) := by
    intro c hc
    apply isDigits_toDigits n
    rw [hk]
    exact List.mem_append_left _ hc
  have hlength : (Nat.toDigits 10 n).length = (dropTrailingZeros (Nat.toDigits 10 n)).length + k := by
    nth_rewrite 1 [hk]
    rw [List.length_append, List.length_replicate]
  have hvalue : natOfDigits (dropTrailingZeros (Nat.toDigits 10 n)) * tenTo k = n := by
    rw [← natOfDigits_append_replicate, ← hk, natOfDigits_toDigits]
  have hdecimal := isDecimal_writeDigits hrun (dropTrailingZeros_toDigits_ne_nil hn) hpoint
  have hpower : (natOfDigits (dropTrailingZeros (Nat.toDigits 10 n)) : ℚ) *
      10 ^ (e + (Nat.toDigits 10 n).length - (dropTrailingZeros (Nat.toDigits 10 n)).length) = n * 10 ^ e := by
    have hvalue' : (natOfDigits (dropTrailingZeros (Nat.toDigits 10 n)) : ℚ) * 10 ^ k = n := by
      exact_mod_cast hvalue
    rw [hlength, Nat.cast_add, show e + (_ + k : ℤ) - _ = k + e by ring, zpow_add₀ (by norm_num), zpow_natCast,
      ← mul_assoc, hvalue']
  rwa [hpower] at hdecimal

/-- A decimal that is rounded to a finite number above zero is not zero, and its point is not far away. -/
theorem bounds_of_nearestAt {n : ℕ} {e : ℤ} (hm : k + 1 < infinityBits)
    (h : NearestAt double.valueAt infinityBits (n * 10 ^ e) (k + 1)) :
    n ≠ 0 ∧ (e + (Nat.toDigits 10 n).length).natAbs ≤ 400 := by
  have hround : ofParts false (k + 1) = ofDecimal false n e :=
    isNearest_decimal_iff.1 (isNearest_iff.2 ⟨_, h, rfl⟩)
  have hm' : k + 1 < 2 ^ 63 := lt_of_le_infinityBits hm.le
  have hzero : ofParts false (k + 1) ≠ zero false := by
    rw [zero, Ne, ofParts_inj hm' (by omega)]
    omega
  have hinfinity : ofParts false (k + 1) ≠ infinity false := by
    rw [infinity, Ne, ofParts_inj hm' (lt_of_le_infinityBits le_rfl)]
    omega
  rw [ofDecimal] at hround
  split at hround
  · exact absurd hround hzero
  · split at hround
    · exact absurd hround hinfinity
    · split at hround
      · exact absurd hround hzero
      · omega

/-- What is written for a finite number is the number. -/
theorem writes_write (h : double.IsFinite x.bits.toNat) : Writes x.write x := by
  obtain ⟨negative, m, hm, rfl⟩ := exists_ofParts x
  rw [isFinite_ofParts_iff hm] at h
  have hsign : IsSign (if negative then ['-'] else []) negative := by
    cases negative with
    | false => exact .absent
    | true => exact .minus
  rw [write, isNegative_ofParts negative hm, magnitudeBits_ofParts negative hm]
  dsimp only
  by_cases hzero : m = 0
  · subst hzero
    have hdecimal : IsDecimal ['0', '.', '0'] (natOfDigits ['0', '0'] * 10 ^ (-1 : ℤ)) :=
      @IsDecimal.of_point ['0'] ['0'] (isDigits_replicate_zero 2) (List.cons_ne_nil _ _)
    have hvalue : double.valueAt 0 = natOfDigits ['0', '0'] * 10 ^ (-1 : ℤ) := by
      rw [valueAt_zero, show natOfDigits ['0', '0'] = 0 from rfl, Nat.cast_zero, zero_mul]
    rw [if_pos rfl]
    refine ⟨_, negative, _, hsign, rfl, .decimal hdecimal (isNearest_iff.2 ⟨0, ?_, rfl⟩)⟩
    exact .of_eq double.strictMono_valueAt (Nat.zero_le _) hvalue
  · obtain ⟨k, rfl⟩ := Nat.exists_eq_add_one_of_ne_zero hzero
    have hnearest := @nearestAt_shortest negative k h
    obtain ⟨hcount, hpoint⟩ := bounds_of_nearestAt h hnearest
    rw [if_neg hzero]
    exact ⟨_, negative, _, hsign, rfl, .decimal (isDecimal_of_count hcount (by omega))
      (isNearest_iff.2 ⟨_, hnearest, rfl⟩)⟩

/-- A finite number is read back from its text. -/
theorem parse?_write (h : double.IsFinite x.bits.toNat) : parse? (String.ofList x.write) = some x := by
  rw [parse?_eq_some_iff, String.toList_ofList]
  exact writes_write h

end SeriesQuery.Binary64
