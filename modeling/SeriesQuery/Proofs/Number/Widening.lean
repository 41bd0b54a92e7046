import SeriesQuery.Proofs.Number.Rounding

/-!
# Widening

Every finite number of 32 bits is one of 64 bits too. Widening rounds the exact value, and what is nearest to
a value that is hit is that value (`NearestAt.of_eq`), so nothing is lost: `Binary32.widensTo_iff`.
-/

namespace SeriesQuery

/-- `y` is the number `x` in the wider format: the same sign and magnitude, or the infinity of the same sign.
What is no number becomes the quiet NaN of the same sign, whose fraction is its first bit. -/
structure Binary32.WidensTo (x : Binary32) (y : Binary64) : Prop where
  sign : Interchange.double.negative y.bits.toNat = Interchange.single.negative x.bits.toNat
  finite : Interchange.single.IsFinite x.bits.toNat → Interchange.double.IsFinite y.bits.toNat ∧
    Interchange.double.magnitude y.bits.toNat = Interchange.single.magnitude x.bits.toNat
  infinite : Interchange.single.IsInfinite x.bits.toNat → Interchange.double.IsInfinite y.bits.toNat
  nan : Interchange.single.IsNaN x.bits.toNat →
    Interchange.double.exponent y.bits.toNat = 2047 ∧ Interchange.double.fraction y.bits.toNat = 2 ^ 51

namespace Binary64

open Interchange

/-- A short significand whose exponent is not near the least one has a place. -/
theorem exists_valueAt_eq {R : ℕ} {e : ℤ} (hR : R < 2 * 2 ^ 52) (he : -1022 ≤ e) :
    ∃ m, double.valueAt m = R * 2 ^ e := by
  rcases Nat.eq_zero_or_pos R with rfl | hpos
  · exact ⟨0, by rw [Nat.cast_zero, zero_mul, valueAt_zero]⟩
  -- its bits are moved up until the first one is the leading one
  have hlog : R.log2 ≤ 52 := by
    have hlt : R.log2 < 53 := (Nat.log2_lt hpos.ne').2 (by omega)
    omega
  obtain ⟨t, ht⟩ := Nat.exists_eq_add_of_le hlog
  have hlow : 2 ^ 52 ≤ R * 2 ^ t := by
    calc 2 ^ 52 = 2 ^ R.log2 * 2 ^ t := by rw [← Nat.pow_add, ← ht]
      _ ≤ R * 2 ^ t := Nat.mul_le_mul_right _ (Nat.log2_self_le hpos.ne')
  have hhigh : R * 2 ^ t ≤ 2 * 2 ^ 52 := by
    calc R * 2 ^ t ≤ 2 ^ (R.log2 + 1) * 2 ^ t := Nat.mul_le_mul_right _ Nat.lt_log2_self.le
      _ = 2 * 2 ^ 52 := by rw [← Nat.pow_add, ht, ← Nat.pow_succ']; congr 1; omega
  refine ⟨_, (valueAt_eq (e := e - t) (by omega) hhigh (.inr hlow)).trans ?_⟩
  rw [Nat.cast_mul, Nat.cast_pow, Nat.cast_ofNat, mul_assoc, ← zpow_natCast, ← zpow_add₀ two_ne_zero,
    add_sub_cancel]

/-- The finite numbers of 32 bits are among those of 64 bits. -/
theorem exists_valueAt_eq_single {m : ℕ} (hm : m < 255 * 2 ^ 23) :
    ∃ n < infinityBits, double.valueAt n = single.valueAt m := by
  have hleast : single.leastExponent = -149 := by decide
  have hvalue : ∀ n, single.valueAt n = steps 23 n * 2 ^ (-149 : ℤ) := fun n => by rw [valueAt, hleast]; rfl
  obtain ⟨e, R, rfl, hR, h⟩ := exists_significand 23 m
  have hsingle : single.valueAt (e * 2 ^ 23 + R) = R * 2 ^ ((e : ℤ) - 149) := by
    rw [hvalue, steps_eq hR.le h, Nat.cast_mul, Nat.cast_pow, Nat.cast_ofNat, mul_assoc, ← zpow_natCast,
      ← zpow_add₀ two_ne_zero, sub_eq_add_neg]
  obtain ⟨n, hn⟩ := exists_valueAt_eq (R := R) (e := e - 149) (by omega) (by omega)
  refine ⟨n, ?_, hn.trans hsingle.symm⟩
  -- in both formats infinity stands behind the greatest number
  rw [← double.strictMono_valueAt.lt_iff_lt]
  calc double.valueAt n = single.valueAt (e * 2 ^ 23 + R) := hn.trans hsingle.symm
    _ < single.valueAt (255 * 2 ^ 23) := single.strictMono_valueAt hm
    _ = 2 ^ (128 : ℤ) := by
        rw [hvalue, show 255 * 2 ^ 23 = 253 * 2 ^ 23 + 2 * 2 ^ 23 from rfl, steps_eq le_rfl (.inr (by omega)),
          Nat.cast_mul, Nat.cast_mul, Nat.cast_pow, Nat.cast_pow, Nat.cast_ofNat, ← zpow_natCast,
          ← zpow_natCast, ← zpow_one_add₀ two_ne_zero, ← zpow_add₀ two_ne_zero, ← zpow_add₀ two_ne_zero]
        rfl
    _ ≤ 2 ^ (1024 : ℤ) := zpow_le_zpow_right₀ one_le_two (by decide)
    _ = double.valueAt infinityBits := valueAt_infinityBits.symm

section Widening

variable (x : Binary32)

/-- What widening makes of the three fields of a number. -/
theorem ofBinary32_eq : ofBinary32 x =
    if single.exponent x.bits.toNat = 255 then
      if single.fraction x.bits.toNat = 0 then infinity (single.negative x.bits.toNat)
      else nan (single.negative x.bits.toNat)
    else if single.exponent x.bits.toNat = 0 then
      ofRatio (single.negative x.bits.toNat) (single.fraction x.bits.toNat) (2 ^ 149)
    else ofRatio (single.negative x.bits.toNat)
      ((2 ^ 23 + single.fraction x.bits.toNat) * 2 ^ single.exponent x.bits.toNat) (2 ^ 150) := by
  have hbits : x.bits.toNat < 2 ^ 32 := x.bits.toNat_lt
  have hnegative : single.negative x.bits.toNat = decide (2 ^ 31 ≤ x.bits.toNat) := by
    apply decide_eq_decide.2
    simp only [single, Nat.reduceAdd]
    omega
  have hexponent : single.exponent x.bits.toNat = x.bits.toNat % 2 ^ 31 / 2 ^ 23 := by
    simp only [exponent, single]
    omega
  rw [hnegative, hexponent]
  rfl

/-- A finite number is widened by rounding its own value. -/
theorem exists_ratio_of_isFinite (h : single.IsFinite x.bits.toNat) : ∃ num den, 0 < den ∧
    ofBinary32 x = ofRatio (single.negative x.bits.toNat) num den ∧
      (num : ℚ) / den = single.magnitude x.bits.toNat := by
  have hexponent : ¬ single.exponent x.bits.toNat = 255 := Nat.ne_of_lt h
  have hbias : (single.bias : ℤ) = 127 := by decide
  rw [ofBinary32_eq, if_neg hexponent, magnitude, hbias, show single.fractionBits = 23 from rfl]
  by_cases hzero : single.exponent x.bits.toNat = 0
  · rw [if_pos hzero, if_pos hzero]
    refine ⟨_, _, Nat.two_pow_pos 149, rfl, ?_⟩
    rw [Nat.cast_pow, Nat.cast_ofNat, div_eq_mul_inv, ← zpow_natCast, ← zpow_neg]
    rfl
  · rw [if_neg hzero, if_neg hzero]
    refine ⟨_, _, Nat.two_pow_pos 150, rfl, ?_⟩
    rw [Nat.cast_mul, Nat.cast_add, Nat.cast_pow, Nat.cast_pow, Nat.cast_pow, Nat.cast_ofNat, div_eq_mul_inv,
      mul_assoc, ← zpow_natCast 2 (single.exponent _), ← zpow_natCast 2 150, ← zpow_neg,
      ← zpow_add₀ two_ne_zero]
    congr 2
    push_cast
    ring

/-- The number of the same value is the nearest one. -/
theorem exists_place_of_isFinite (h : single.IsFinite x.bits.toNat) : ∃ m < infinityBits,
    ofBinary32 x = ofParts (single.negative x.bits.toNat) m ∧
      double.valueAt m = single.magnitude x.bits.toNat := by
  obtain ⟨num, den, hden, hwide, hratio⟩ := exists_ratio_of_isFinite x h
  have hplace : x.bits.toNat % 2 ^ (single.fractionBits + single.exponentBits) < 255 * 2 ^ 23 := by
    simp only [IsFinite, exponent, single] at h ⊢
    omega
  obtain ⟨m, hm, hvalue⟩ := exists_valueAt_eq_single hplace
  rw [← magnitude_eq] at hvalue
  have hnearest : nearestBits num den = m :=
    (nearestAt_nearestBits num hden).unique double.strictMono_valueAt
      (.of_eq double.strictMono_valueAt hm.le (hvalue.trans hratio.symm))
  exact ⟨m, hm, by rw [hwide, ofRatio, hnearest], hvalue⟩

/-- Every number of single precision is widened to one that stands for the same value. -/
theorem widensTo_ofBinary32 : x.WidensTo (ofBinary32 x) := by
  by_cases h : single.IsFinite x.bits.toNat
  · obtain ⟨m, hm, hwide, hvalue⟩ := exists_place_of_isFinite x h
    have hm' := lt_of_le_infinityBits hm.le
    rw [hwide]
    refine ⟨(fields_ofParts _ hm').1, fun _ => ⟨(isFinite_ofParts_iff hm').2 hm, ?_⟩,
      fun hinfinite => absurd hinfinite.1 h.ne, fun hnan => absurd hnan.1 h.ne⟩
    rw [magnitude_ofParts _ hm', hvalue]
  · have hexponent : single.exponent x.bits.toNat = 255 := by
      have hlt : single.exponent x.bits.toNat < 256 := Nat.mod_lt _ (by decide)
      have hge : ¬ single.exponent x.bits.toNat < 255 := h
      omega
    rw [ofBinary32_eq, if_pos hexponent]
    by_cases hfraction : single.fraction x.bits.toNat = 0
    · rw [if_pos hfraction]
      obtain ⟨hsign, hfields⟩ :=
        fields_ofParts (single.negative x.bits.toNat) (lt_of_le_infinityBits (le_refl infinityBits))
      exact ⟨hsign, fun hfinite => absurd hfinite h, fun _ => hfields,
        fun hnan => absurd hfraction hnan.2⟩
    · rw [if_neg hfraction]
      obtain ⟨hsign, hfields⟩ := fields_ofParts (single.negative x.bits.toNat)
        (show infinityBits + fractionRange / 2 < 2 ^ 63 by decide)
      exact ⟨hsign, fun hfinite => absurd hfinite h, fun hinfinite => absurd hinfinite.2 hfraction,
        fun _ => hfields⟩

end Widening

end Binary64

/-- Widening gives the number that a number widens to, and there is only one. -/
theorem Binary32.widensTo_iff {x : Binary32} {y : Binary64} : x.WidensTo y ↔ y = Binary64.ofBinary32 x := by
  have hwide := Binary64.widensTo_ofBinary32 x
  constructor
  · intro h
    have hsign := h.sign.trans hwide.sign.symm
    by_cases hfinite : Interchange.single.IsFinite x.bits.toNat
    · exact Binary64.eq_of_magnitude hsign ((h.finite hfinite).2.trans (hwide.finite hfinite).2.symm)
    · have hexponent : Interchange.single.exponent x.bits.toNat = 2 ^ 8 - 1 := by
        have hlt : Interchange.single.exponent x.bits.toNat < 2 ^ 8 := Nat.mod_lt _ (Nat.two_pow_pos 8)
        have hge : ¬ Interchange.single.exponent x.bits.toNat < 2 ^ 8 - 1 := hfinite
        omega
      by_cases hfraction : Interchange.single.fraction x.bits.toNat = 0
      · obtain ⟨he, hf⟩ := h.infinite ⟨hexponent, hfraction⟩
        obtain ⟨he', hf'⟩ := hwide.infinite ⟨hexponent, hfraction⟩
        exact Binary64.eq_of_fields hsign (he.trans he'.symm) (hf.trans hf'.symm)
      · obtain ⟨he, hf⟩ := h.nan ⟨hexponent, hfraction⟩
        obtain ⟨he', hf'⟩ := hwide.nan ⟨hexponent, hfraction⟩
        exact Binary64.eq_of_fields hsign (he.trans he'.symm) (hf.trans hf'.symm)
  · rintro rfl
    exact hwide

end SeriesQuery
