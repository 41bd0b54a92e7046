import Mathlib.Algebra.Order.Field.Power
import Mathlib.Algebra.Order.Field.Rat
import Mathlib.Algebra.Ring.Parity
import Mathlib.Data.Nat.Log
import Mathlib.Order.Monotone.Basic
import Mathlib.Tactic.FieldSimp
import Mathlib.Tactic.Linarith
import Mathlib.Tactic.NormNum
import Mathlib.Tactic.Positivity
import Mathlib.Tactic.Ring
import SeriesQuery.Number.Binary64

/-!
# Rounding to the nearest number

What the bits of a floating-point number stand for is said once for all formats (`Interchange.magnitude`): a
sign, an exponent and a fraction, as IEEE 754 has them. Read without the sign, the bits of the magnitudes
count them up in order (`strictMono_steps`), so rounding a quotient is a question about two neighbouring
numbers of a strictly monotone sequence: `NearestAt` is what has to be found, `nearestAt_nearestBits` says
that it is. `Binary64.ofRatio` is the nearest number for that reason (`isNearest_ratio_iff`).
-/

namespace SeriesQuery

/-! ## The nearest value of a sequence -/

/-- Of the values at the places up to `top`, the one at `m` is nearest to `q`. Of two nearest ones it is the
one at an even place. -/
def NearestAt (v : ℕ → ℚ) (top : ℕ) (q : ℚ) (m : ℕ) : Prop :=
  m ≤ top ∧ ∀ n ≤ top, |v m - q| < |v n - q| ∨ |v m - q| = |v n - q| ∧ (m = n ∨ Even m)

namespace NearestAt

variable {v : ℕ → ℚ} {top m n : ℕ} {q : ℚ}

/-- A value between two others is on the near side of one of them. -/
theorem abs_lt_of_between {a b c : ℚ} (hab : a < b) (hbc : b < c) (h : |a - q| = |c - q|) :
    |b - q| < |a - q| := by
  have hmid : a + c = 2 * q := by
    rcases abs_eq_abs.1 h with h | h
    · linarith
    · linarith
  rw [abs_of_neg (by linarith : a - q < 0), abs_lt]
  exact ⟨by linarith, by linarith⟩

/-- No two places are nearest: between two even ones there is a nearer one. -/
theorem not_lt (hv : StrictMono v) (hm : NearestAt v top q m) (hn : NearestAt v top q n) : ¬ m < n := by
  intro hlt
  have hmn := hm.2 n hn.1
  have hnm := hn.2 m hm.1
  have heq : |v m - q| = |v n - q| := by
    rcases hmn with h | h
    · rcases hnm with h' | h'
      · exact absurd h (lt_asymm h')
      · exact h'.1.symm
    · exact h.1
  have heven : Even m := by
    rcases hmn with h | ⟨-, rfl | h⟩
    · exact absurd heq h.ne
    · exact absurd hlt (lt_irrefl _)
    · exact h
  have heven' : Even n := by
    rcases hnm with h | ⟨-, rfl | h⟩
    · exact absurd heq.symm h.ne
    · exact absurd hlt (lt_irrefl _)
    · exact h
  have hgap : m + 1 < n := by
    rcases Nat.lt_or_eq_of_le (Nat.succ_le_of_lt hlt) with h | rfl
    · exact h
    · exact absurd heven' (Nat.not_even_iff_odd.2 heven.add_one)
  have hnear : |v (m + 1) - q| < |v m - q| :=
    abs_lt_of_between (hv (Nat.lt_succ_self m)) (hv hgap) heq
  rcases hm.2 (m + 1) (hgap.le.trans hn.1) with h | h
  · exact lt_asymm h hnear
  · exact h.1.not_gt hnear

/-- Two positions that are nearest to one number are the same. -/
theorem unique (hv : StrictMono v) (hm : NearestAt v top q m) (hn : NearestAt v top q n) : m = n :=
  le_antisymm (Nat.not_lt.1 (not_lt hv hn hm)) (Nat.not_lt.1 (not_lt hv hm hn))

/-- A value that is hit is nearest to itself. -/
theorem of_eq (hv : StrictMono v) (hm : m ≤ top) (h : v m = q) : NearestAt v top q m := by
  refine ⟨hm, fun n _ => ?_⟩
  rw [h, sub_self, abs_zero]
  by_cases hn : m = n
  · subst hn
    exact .inr ⟨by rw [h, sub_self, abs_zero], .inl rfl⟩
  · refine .inl (abs_pos.2 (sub_ne_zero.2 fun heq => hn (hv.injective (h.trans heq.symm))))

/-- Beyond the last value the last one is nearest. -/
theorem of_le (hv : StrictMono v) (h : v top ≤ q) : NearestAt v top q top := by
  refine ⟨le_rfl, fun n hn => ?_⟩
  rcases Nat.lt_or_eq_of_le hn with hlt | rfl
  · have hn' : v n < v top := hv hlt
    rw [abs_of_nonpos (by linarith), abs_of_nonpos (by linarith)]
    exact .inl (by linarith)
  · exact .inr ⟨rfl, .inl rfl⟩

/-- Between two neighbours the lower one is nearest below their midpoint, and at it if its place is even. -/
theorem of_lower (hv : StrictMono v) (hlow : v m ≤ q) (hhigh : q < v (m + 1))
    (hmid : 2 * q < v m + v (m + 1) ∨ 2 * q = v m + v (m + 1) ∧ Even m) :
    NearestAt v top q (min top m) := by
  by_cases hm : m ≤ top
  swap
  · rw [min_eq_left (Nat.le_of_not_le hm)]
    exact of_le hv ((hv.monotone (Nat.le_of_not_le hm)).trans hlow)
  rw [min_eq_right hm]
  refine ⟨hm, fun n _ => ?_⟩
  rw [abs_of_nonpos (sub_nonpos.2 hlow)]
  rcases Nat.lt_trichotomy n m with hlt | rfl | hlt
  · have hn : v n < v m := hv hlt
    rw [abs_of_nonpos (by linarith)]
    exact .inl (by linarith)
  · exact .inr ⟨(abs_of_nonpos (sub_nonpos.2 hlow)).symm, .inl rfl⟩
  · have hn : v (m + 1) ≤ v n := hv.monotone hlt
    rw [abs_of_pos (by linarith)]
    rcases hmid with hmid | ⟨hmid, heven⟩
    · exact .inl (by linarith)
    · rcases hn.lt_or_eq with hn | hn
      · exact .inl (by linarith)
      · exact .inr ⟨by linarith, .inr heven⟩

/-- The upper one is nearest above the midpoint, and at it if the place of the lower one is odd. -/
theorem of_upper (hv : StrictMono v) (hlow : v m ≤ q) (hhigh : q < v (m + 1))
    (hmid : v m + v (m + 1) < 2 * q ∨ 2 * q = v m + v (m + 1) ∧ ¬ Even m) :
    NearestAt v top q (min top (m + 1)) := by
  by_cases hm : m + 1 ≤ top
  swap
  · rw [min_eq_left (Nat.le_of_not_le hm)]
    exact of_le hv ((hv.monotone (Nat.le_of_lt_succ (Nat.lt_of_not_le hm))).trans hlow)
  rw [min_eq_right hm]
  refine ⟨hm, fun n _ => ?_⟩
  rw [abs_of_pos (sub_pos.2 hhigh)]
  rcases Nat.lt_trichotomy n (m + 1) with hlt | rfl | hlt
  · have hn : v n ≤ v m := hv.monotone (Nat.le_of_lt_succ hlt)
    rw [abs_of_nonpos (by linarith)]
    rcases hmid with hmid | ⟨hmid, hodd⟩
    · exact .inl (by linarith)
    · rcases hn.lt_or_eq with hn | hn
      · exact .inl (by linarith)
      · exact .inr ⟨by linarith, .inr (Nat.not_even_iff_odd.1 hodd).add_one⟩
  · exact .inr ⟨(abs_of_pos (sub_pos.2 hhigh)).symm, .inl rfl⟩
  · have hn : v (m + 1) < v n := hv hlt
    rw [abs_of_pos (by linarith)]
    exact .inl (by linarith)

/-- What lies between the midpoints to both neighbours is nearest to the value in the middle; at a midpoint it is
if the place is even. -/
theorem of_between (hv : StrictMono v) (hm : m + 1 ≤ top) (hlow : v m + v (m + 1) ≤ 2 * q)
    (hhigh : 2 * q ≤ v (m + 1) + v (m + 2))
    (hends : Even (m + 1) ∨ v m + v (m + 1) < 2 * q ∧ 2 * q < v (m + 1) + v (m + 2)) :
    NearestAt v top q (m + 1) := by
  have hbelow : v m < v (m + 1) := hv (Nat.lt_succ_self m)
  have habove : v (m + 1) < v (m + 2) := hv (Nat.lt_succ_self (m + 1))
  rw [← min_eq_right hm]
  by_cases hq : q < v (m + 1)
  · apply of_upper hv (by linarith) hq
    rcases hends with heven | hlt
    · rcases hlow.lt_or_eq with hlt | heq
      · exact .inl hlt
      · exact .inr ⟨heq.symm, Nat.even_add_one.1 heven⟩
    · exact .inl hlt.1
  · apply of_lower hv (le_of_not_gt hq) (by linarith)
    rcases hends with heven | hlt
    · rcases hhigh.lt_or_eq with hlt | heq
      · exact .inl hlt
      · exact .inr ⟨heq, heven⟩
    · exact .inl hlt.2
end NearestAt

/-! ## What bits stand for -/

/-- A binary format: the widths of its fraction, which comes last, and of its exponent. The sign comes
first. -/
structure Interchange where
  fractionBits : ℕ
  exponentBits : ℕ

namespace Interchange

/-- The format of 32 bits. -/
def single : Interchange := ⟨23, 8⟩

/-- The format of 64 bits. -/
def double : Interchange := ⟨52, 11⟩

variable (f : Interchange) (bits : ℕ)

/-- The sign is minus. -/
def negative : Bool := bits / 2 ^ (f.fractionBits + f.exponentBits) % 2 = 1

/-- The field of the exponent. -/
def exponent : ℕ := bits / 2 ^ f.fractionBits % 2 ^ f.exponentBits

/-- The field of the fraction. -/
def fraction : ℕ := bits % 2 ^ f.fractionBits

/-- What the field of the exponent is too great by. -/
def bias : ℕ := 2 ^ (f.exponentBits - 1) - 1

/-- The number without its sign. With exponent field zero it is subnormal, else the fraction has a leading
one in front. -/
def magnitude : ℚ :=
  if f.exponent bits = 0 then f.fraction bits * 2 ^ (1 - f.bias - f.fractionBits : ℤ)
  else (2 ^ f.fractionBits + f.fraction bits) * 2 ^ (f.exponent bits - f.bias - f.fractionBits : ℤ)

/-- The bits stand for a finite number. -/
def IsFinite : Prop := f.exponent bits < 2 ^ f.exponentBits - 1

/-- The bits stand for an infinity. -/
def IsInfinite : Prop := f.exponent bits = 2 ^ f.exponentBits - 1 ∧ f.fraction bits = 0

/-- The bits stand for no number. -/
def IsNaN : Prop := f.exponent bits = 2 ^ f.exponentBits - 1 ∧ f.fraction bits ≠ 0

end Interchange

/-! ## Magnitudes in order -/

/-- The magnitude of bits, in units of the least positive one, when the fraction has `p` bits. -/
def steps (p m : ℕ) : ℕ := if m / 2 ^ p = 0 then m else (2 ^ p + m % 2 ^ p) * 2 ^ (m / 2 ^ p - 1)

variable {p : ℕ}

/-- A significand of `p + 1` bits and the exponent of its last bit. The next power of two carries into the
exponent. -/
theorem steps_eq {e R : ℕ} (hR : R ≤ 2 * 2 ^ p) (h : e = 0 ∨ 2 ^ p ≤ R) :
    steps p (e * 2 ^ p + R) = R * 2 ^ e := by
  have hpos : 0 < 2 ^ p := Nat.two_pow_pos p
  have hdiv : (e * 2 ^ p + R) / 2 ^ p = e + R / 2 ^ p := by
    rw [Nat.add_comm, Nat.add_mul_div_right _ _ hpos, Nat.add_comm]
  have hmod : (e * 2 ^ p + R) % 2 ^ p = R % 2 ^ p := Nat.mul_add_mod' e (2 ^ p) R
  rw [steps, hdiv, hmod]
  rcases Nat.lt_or_ge R (2 ^ p) with hlt | hge
  · obtain rfl : e = 0 := h.resolve_right (Nat.not_le.2 hlt)
    rw [Nat.div_eq_of_lt hlt, if_pos rfl, Nat.zero_mul, Nat.zero_add, Nat.pow_zero, Nat.mul_one]
  · have hne : e + R / 2 ^ p ≠ 0 := (Nat.add_pos_right e (Nat.div_pos hge hpos)).ne'
    rw [if_neg hne]
    rcases Nat.lt_or_eq_of_le hR with hlt | rfl
    · have hone : R / 2 ^ p = 1 := Nat.div_eq_of_lt_le (by omega) (by omega)
      have hrest : R % 2 ^ p = R - 2 ^ p := by
        rw [Nat.mod_eq_sub_mod hge, Nat.mod_eq_of_lt (by omega)]
      rw [hone, hrest, Nat.add_sub_cancel' hge, Nat.add_sub_cancel]
    · rw [Nat.mul_div_cancel _ hpos, Nat.mul_mod_left, Nat.add_zero, show e + 2 - 1 = e + 1 from rfl,
        Nat.pow_succ]
      ring

/-- Every place is a significand and an exponent. -/
theorem exists_significand (p m : ℕ) :
    ∃ e R, m = e * 2 ^ p + R ∧ R < 2 * 2 ^ p ∧ (e = 0 ∨ 2 ^ p ≤ R) := by
  have hmod : m % 2 ^ p < 2 ^ p := Nat.mod_lt m (Nat.two_pow_pos p)
  have hsplit : m / 2 ^ p * 2 ^ p + m % 2 ^ p = m := Nat.div_add_mod' m (2 ^ p)
  cases hdiv : m / 2 ^ p with
  | zero =>
      rw [hdiv, Nat.zero_mul, Nat.zero_add] at hsplit
      exact ⟨0, m, by rw [Nat.zero_mul, Nat.zero_add], by omega, .inl rfl⟩
  | succ e =>
      rw [hdiv, Nat.succ_mul] at hsplit
      exact ⟨e, 2 ^ p + m % 2 ^ p, by omega, by omega, .inr (Nat.le_add_right _ _)⟩

/-- Each next magnitude has more steps. -/
theorem strictMono_steps (p : ℕ) : StrictMono (steps p) := by
  apply strictMono_nat_of_lt_succ
  intro m
  obtain ⟨e, R, rfl, hlt, h⟩ := exists_significand p m
  have hsucc : steps p (e * 2 ^ p + R + 1) = (R + 1) * 2 ^ e :=
    steps_eq (R := R + 1) hlt (h.imp_right Nat.le_succ_of_le)
  rw [hsucc, steps_eq hlt.le h]
  exact Nat.mul_lt_mul_of_pos_right (Nat.lt_succ_self R) (Nat.two_pow_pos e)

namespace Interchange

variable (f : Interchange)

/-- The exponent of the least positive number. -/
def leastExponent : ℤ := 1 - f.bias - f.fractionBits

/-- The magnitude at a place, in a format whose exponents go on. -/
def valueAt (m : ℕ) : ℚ := steps f.fractionBits m * 2 ^ f.leastExponent

/-- Magnitudes are ordered like their values. -/
theorem strictMono_valueAt : StrictMono f.valueAt := by
  intro m n h
  have hunit : (0 : ℚ) < 2 ^ f.leastExponent := by positivity
  exact mul_lt_mul_of_pos_right (Nat.cast_lt.2 (strictMono_steps _ h)) hunit

/-- The magnitude zero has the value zero. -/
theorem valueAt_zero : f.valueAt 0 = 0 := by
  rw [valueAt, steps, Nat.zero_div, if_pos rfl, Nat.cast_zero, zero_mul]

/-- The magnitude of bits is the value at the place that is left without the sign. -/
theorem magnitude_eq (bits : ℕ) :
    f.magnitude bits = f.valueAt (bits % 2 ^ (f.fractionBits + f.exponentBits)) := by
  have hdiv : bits % 2 ^ (f.fractionBits + f.exponentBits) / 2 ^ f.fractionBits = f.exponent bits := by
    rw [Nat.pow_add, Nat.mod_mul_right_div_self, exponent]
  have hmod : bits % 2 ^ (f.fractionBits + f.exponentBits) % 2 ^ f.fractionBits = f.fraction bits := by
    rw [Nat.pow_add, Nat.mod_mul_right_mod, fraction]
  rw [magnitude, valueAt, steps, hdiv, hmod]
  split
  · next hzero =>
    have hplace : bits % 2 ^ (f.fractionBits + f.exponentBits) = f.fraction bits := by
      rw [← hmod, Nat.mod_eq_of_lt (Nat.lt_of_div_eq_zero (Nat.two_pow_pos _) (hdiv.trans hzero))]
    rw [hplace, leastExponent]
  · next hne =>
    obtain ⟨e, he⟩ := Nat.exists_eq_succ_of_ne_zero hne
    rw [he, leastExponent, Nat.succ_sub_one]
    push_cast
    rw [mul_assoc, ← zpow_natCast 2 e, ← zpow_add₀ (two_ne_zero' ℚ)]
    congr 2
    ring

end Interchange

/-! ## Rounding of quotients -/

/-- The program's powers of two. -/
theorem twoTo_eq (n : ℕ) : twoTo n = 2 ^ n := rfl

/-- The integer that a quotient is rounded to is its whole part, below a half and at an even half. -/
theorem roundQuotient_of_lower {num den : ℕ}
    (h : 2 * (num % den) < den ∨ 2 * (num % den) = den ∧ Even (num / den)) :
    roundQuotient num den = num / den := by
  rw [roundQuotient]
  exact if_pos (h.imp_right fun h => ⟨h.1, Nat.even_iff.1 h.2⟩)

/-- Above a half, and at an odd one, it is one more. -/
theorem roundQuotient_of_upper {num den : ℕ}
    (h : den < 2 * (num % den) ∨ 2 * (num % den) = den ∧ ¬ Even (num / den)) :
    roundQuotient num den = num / den + 1 := by
  rw [roundQuotient]
  apply if_neg
  rintro (hlt | ⟨heq, heven⟩)
  · rcases h with h | h <;> omega
  · rcases h with h | ⟨-, h⟩
    · omega
    · exact h (Nat.even_iff.2 heven)

/-- Rounding moves a quotient by a half at most. -/
theorem roundQuotient_bounds (num : ℕ) {den : ℕ} (hden : 0 < den) :
    2 * num ≤ (2 * roundQuotient num den + 1) * den ∧ 2 * roundQuotient num den * den ≤ 2 * num + den := by
  have hsplit : num = num / den * den + num % den := (Nat.div_add_mod' num den).symm
  have hrest : num % den < den := Nat.mod_lt num hden
  by_cases hlower : 2 * (num % den) < den ∨ 2 * (num % den) = den ∧ num / den % 2 = 0
  · have hround : roundQuotient num den = num / den := if_pos hlower
    rw [hround, Nat.add_mul, Nat.mul_assoc]
    omega
  · have hround : roundQuotient num den = num / den + 1 := if_neg hlower
    rw [hround, Nat.add_mul, Nat.mul_assoc, Nat.add_mul]
    omega

/-- Where the values behind `base` are the multiples of a unit, rounding a quotient finds the nearest
one. -/
theorem NearestAt.of_roundQuotient {v : ℕ → ℚ} {top base num den : ℕ} {unit : ℚ} (hv : StrictMono v)
    (hden : 0 < den) (hunit : 0 < unit) (hbase : Even base)
    (hlower : v (base + num / den) = (num / den : ℕ) * unit)
    (hupper : v (base + num / den + 1) = (num / den + 1 : ℕ) * unit) :
    NearestAt v top (num / den * unit) (min top (base + roundQuotient num den)) := by
  have hd : (0 : ℚ) < den := Nat.cast_pos.2 hden
  have hpart : (0 : ℚ) < unit / den := div_pos hunit hd
  have hsplit : (num : ℚ) = den * (num / den : ℕ) + (num % den : ℕ) := by
    exact_mod_cast (Nat.div_add_mod num den).symm
  have hrest : (num : ℚ) / den * unit = (num / den : ℕ) * unit + (num % den : ℕ) * (unit / den) := by
    nth_rewrite 1 [hsplit]
    field_simp
  -- how far the quotient is behind the midpoint is told by the rest
  have hmid : 2 * ((num : ℚ) / den * unit) = v (base + num / den) + v (base + num / den + 1) +
      ((2 * (num % den) : ℕ) - den) * (unit / den) := by
    rw [hrest, hlower, hupper]
    push_cast
    field_simp
    ring
  have hlow : v (base + num / den) ≤ num / den * unit := by
    rw [hlower, hrest]
    exact le_add_of_nonneg_right (mul_nonneg (Nat.cast_nonneg _) hpart.le)
  have hhigh : num / den * unit < v (base + num / den + 1) := by
    have hlt : (num % den : ℕ) * (unit / den) < den * (unit / den) :=
      mul_lt_mul_of_pos_right (Nat.cast_lt.2 (Nat.mod_lt num hden)) hpart
    rw [mul_div_cancel₀ unit hd.ne'] at hlt
    rw [hupper, hrest, Nat.cast_succ, add_mul, one_mul]
    exact add_lt_add_right hlt _
  have heven : Even (base + num / den) ↔ Even (num / den) := by rw [Nat.even_add, iff_true_left hbase]
  rcases Nat.lt_trichotomy (2 * (num % den)) den with hlt | heq | hgt
  · rw [roundQuotient_of_lower (.inl hlt)]
    have hneg : ((2 * (num % den) : ℕ) : ℚ) - den < 0 := sub_neg.2 (Nat.cast_lt.2 hlt)
    have hless := mul_neg_of_neg_of_pos hneg hpart
    exact of_lower hv hlow hhigh (.inl (by linarith))
  · rw [heq, sub_self, zero_mul, add_zero] at hmid
    by_cases hpar : Even (num / den)
    · rw [roundQuotient_of_lower (.inr ⟨heq, hpar⟩)]
      exact of_lower hv hlow hhigh (.inr ⟨hmid, heven.2 hpar⟩)
    · rw [roundQuotient_of_upper (.inr ⟨heq, hpar⟩), ← Nat.add_assoc]
      exact of_upper hv hlow hhigh (.inr ⟨hmid, mt heven.1 hpar⟩)
  · rw [roundQuotient_of_upper (.inl hgt), ← Nat.add_assoc]
    have hpos : (0 : ℚ) < ((2 * (num % den) : ℕ) : ℚ) - den := sub_pos.2 (Nat.cast_lt.2 hgt)
    have hmore := mul_pos hpos hpart
    exact of_upper hv hlow hhigh (.inl (by linarith))

namespace Binary64

open Interchange

variable {num den : ℕ}

/-- Scaling divides the quotient by the power of two. -/
theorem scaled_spec (num : ℕ) (hden : 0 < den) (e : ℤ) :
    0 < (scaled num den e).2 ∧
      ((scaled num den e).1 : ℚ) / (scaled num den e).2 * 2 ^ e = (num : ℚ) / den := by
  have hd : (den : ℚ) ≠ 0 := Nat.cast_ne_zero.2 hden.ne'
  refine ⟨Nat.mul_pos hden (Nat.two_pow_pos _), ?_⟩
  simp only [scaled, twoTo_eq]
  push_cast
  obtain ⟨n, rfl | rfl⟩ := Int.eq_nat_or_neg e
  · rw [Int.toNat_natCast, Int.toNat_neg_natCast, zpow_natCast, pow_zero]
    field_simp
  · rw [neg_neg, Int.toNat_natCast, Int.toNat_neg_natCast, zpow_neg, zpow_natCast, pow_zero]
    field_simp

/-- A quotient lies within a factor of two of the power of two that its logarithms suggest. -/
theorem quotient_bounds (hnum : 0 < num) (hden : 0 < den) :
    (2 : ℚ) ^ ((Nat.log2 num : ℤ) - Nat.log2 den - 1) < num / den ∧
      (num : ℚ) / den < 2 ^ ((Nat.log2 num : ℤ) - Nat.log2 den + 1) := by
  have hd : (0 : ℚ) < den := Nat.cast_pos.2 hden
  have hnumLow : (2 : ℚ) ^ (Nat.log2 num : ℤ) ≤ num := by
    rw [zpow_natCast]
    exact_mod_cast Nat.log2_self_le hnum.ne'
  have hnumHigh : (num : ℚ) < 2 ^ (Nat.log2 num + 1 : ℤ) := by
    exact_mod_cast Nat.lt_log2_self
  have hdenLow : (2 : ℚ) ^ (Nat.log2 den : ℤ) ≤ den := by
    rw [zpow_natCast]
    exact_mod_cast Nat.log2_self_le hden.ne'
  have hdenHigh : (den : ℚ) < 2 ^ (Nat.log2 den + 1 : ℤ) := by
    exact_mod_cast Nat.lt_log2_self
  constructor
  · rw [lt_div_iff₀ hd]
    calc (2 : ℚ) ^ ((Nat.log2 num : ℤ) - Nat.log2 den - 1) * den
        < 2 ^ ((Nat.log2 num : ℤ) - Nat.log2 den - 1) * 2 ^ (Nat.log2 den + 1 : ℤ) :=
          mul_lt_mul_of_pos_left hdenHigh (by positivity)
      _ = 2 ^ (Nat.log2 num : ℤ) := by
          rw [← zpow_add₀ two_ne_zero]
          congr 1
          ring
      _ ≤ num := hnumLow
  · rw [div_lt_iff₀ hd]
    calc (num : ℚ) < 2 ^ (Nat.log2 num + 1 : ℤ) := hnumHigh
      _ = 2 ^ ((Nat.log2 num : ℤ) - Nat.log2 den + 1) * 2 ^ (Nat.log2 den : ℤ) := by
          rw [← zpow_add₀ two_ne_zero]
          congr 1
          ring
      _ ≤ 2 ^ ((Nat.log2 num : ℤ) - Nat.log2 den + 1) * den :=
          mul_le_mul_of_nonneg_left hdenLow (by positivity)

/-- Comparing the whole part of a scaled quotient is comparing the quotient. -/
theorem scaled_lt_iff (num : ℕ) (hden : 0 < den) (e : ℤ) (k : ℕ) :
    (scaled num den e).1 / (scaled num den e).2 < k ↔ (num : ℚ) / den < k * 2 ^ e := by
  obtain ⟨hpos, hscaled⟩ := scaled_spec num hden e
  have hpos' : (0 : ℚ) < (scaled num den e).2 := Nat.cast_pos.2 hpos
  have hunit : (0 : ℚ) < 2 ^ e := by positivity
  rw [Nat.div_lt_iff_lt_mul hpos, ← hscaled, mul_lt_mul_iff_left₀ hunit, div_lt_iff₀ hpos']
  exact_mod_cast Iff.rfl

/-- With its exponent, the whole part of a quotient has 53 bits, or fewer if the exponent is the least
one. -/
theorem exponentFor_spec (hnum : 0 < num) (hden : 0 < den) :
    -1074 ≤ exponentFor num den ∧
      (scaled num den (exponentFor num den)).1 / (scaled num den (exponentFor num den)).2 < 2 * 2 ^ 52 ∧
      (exponentFor num den = -1074 ∨
        2 ^ 52 ≤ (scaled num den (exponentFor num den)).1 / (scaled num den (exponentFor num den)).2) := by
  obtain ⟨hlow, hhigh⟩ := quotient_bounds hnum hden
  have hfraction : fractionRange = 2 ^ 52 := rfl
  -- the guess is one too great where the whole part has 52 bits only
  obtain ⟨e, he, hbelow, habove⟩ : ∃ e : ℤ, exponentFor num den = max (-1074) e ∧
      (num : ℚ) / den < (2 * 2 ^ 52 : ℕ) * 2 ^ e ∧ ((2 ^ 52 : ℕ) : ℚ) * 2 ^ e ≤ num / den := by
    set guess : ℤ := (Nat.log2 num : ℤ) - Nat.log2 den - 52 with hguess
    have hpowers : ∀ k : ℕ, ∀ e : ℤ, ((2 ^ k : ℕ) : ℚ) * 2 ^ e = 2 ^ (k + e) := by
      intro k e
      rw [zpow_add₀ two_ne_zero, zpow_natCast]
      push_cast
      ring
    by_cases hshort : (scaled num den guess).1 / (scaled num den guess).2 < 2 ^ 52
    · refine ⟨guess - 1, ?_, ?_, ?_⟩
      · exact congrArg (max (-1074)) (if_pos hshort)
      · rw [scaled_lt_iff num hden, hpowers] at hshort
        rwa [← Nat.pow_succ', hpowers, show ((52 + 1 : ℕ) : ℤ) + (guess - 1) = (52 : ℕ) + guess by omega]
      · rw [hpowers, show ((52 : ℕ) : ℤ) + (guess - 1) = Nat.log2 num - Nat.log2 den - 1 by omega]
        exact hlow.le
    · refine ⟨guess, ?_, ?_, ?_⟩
      · exact congrArg (max (-1074)) (if_neg hshort)
      · rwa [← Nat.pow_succ', hpowers,
          show ((52 + 1 : ℕ) : ℤ) + guess = Nat.log2 num - Nat.log2 den + 1 by omega]
      · rw [scaled_lt_iff num hden, not_lt] at hshort
        exact hshort
  have hmono : ∀ k : ℕ, (k : ℚ) * 2 ^ e ≤ k * 2 ^ max (-1074) e := fun k =>
    mul_le_mul_of_nonneg_left (zpow_le_zpow_right₀ one_le_two (le_max_right _ _)) (Nat.cast_nonneg k)
  rw [he]
  refine ⟨le_max_left _ _, (scaled_lt_iff num hden _ _).2 (hbelow.trans_le (hmono _)), ?_⟩
  rcases le_total e (-1074) with hle | hle
  · exact .inl (max_eq_left hle)
  · right
    rw [max_eq_right hle, ← not_lt, scaled_lt_iff num hden, not_lt]
    exact habove

/-- The value of a significand with the exponent of its last bit. -/
theorem valueAt_eq {e : ℤ} {R : ℕ} (he : -1074 ≤ e) (hR : R ≤ 2 * 2 ^ 52) (h : e = -1074 ∨ 2 ^ 52 ≤ R) :
    double.valueAt ((e + 1074).toNat * 2 ^ 52 + R) = R * 2 ^ e := by
  have hleast : double.leastExponent = -1074 := by decide
  have hsteps : steps 52 ((e + 1074).toNat * 2 ^ 52 + R) = R * 2 ^ (e + 1074).toNat :=
    steps_eq hR (h.imp_left fun h => by omega)
  have hexponent : ((e + 1074).toNat : ℤ) + -1074 = e := by omega
  rw [valueAt, hleast, show double.fractionBits = 52 from rfl, hsteps]
  rw [Nat.cast_mul, Nat.cast_pow, Nat.cast_ofNat, mul_assoc, ← zpow_natCast, ← zpow_add₀ two_ne_zero, hexponent]

/-- The bits that a quotient is rounded to are those of the number nearest to it. -/
theorem nearestAt_nearestBits (num : ℕ) (hden : 0 < den) :
    NearestAt double.valueAt infinityBits ((num : ℚ) / den) (nearestBits num den) := by
  have hv := double.strictMono_valueAt
  rcases Nat.eq_zero_or_pos num with rfl | hnum
  · refine .of_eq hv (Nat.zero_le _) ?_
    rw [Nat.cast_zero, zero_div, show nearestBits 0 den = 0 from rfl, valueAt_zero]
  · obtain ⟨he, hshort, hlong⟩ := exponentFor_spec hnum hden
    obtain ⟨hpos, hscaled⟩ := scaled_spec num hden (exponentFor num den)
    have hbase : Even ((exponentFor num den + 1074).toNat * 2 ^ 52) :=
      (Nat.even_pow.2 ⟨even_two, by decide⟩).mul_left _
    have hbits : nearestBits num den = min infinityBits ((exponentFor num den + 1074).toNat * 2 ^ 52 +
        roundQuotient (scaled num den (exponentFor num den)).1 (scaled num den (exponentFor num den)).2) :=
      if_neg hnum.ne'
    rw [hbits, ← hscaled]
    refine .of_roundQuotient hv hpos (by positivity) hbase (valueAt_eq he hshort.le hlong) ?_
    rw [Nat.add_assoc]
    exact valueAt_eq he hshort (hlong.imp_right Nat.le_succ_of_le)

/-! ## The nearest number -/

/-- Of the numbers with the given sign, `y` is the nearest to the magnitude `q`; of two nearest ones it is the
one whose last bit is zero. Infinity counts as `2 ^ 1024`, where the next number would be. -/
structure IsNearest (negative : Bool) (q : ℚ) (y : Binary64) : Prop where
  sign : double.negative y.bits.toNat = negative
  number : ¬ double.IsNaN y.bits.toNat
  nearest : ∀ z : Binary64, double.negative z.bits.toNat = negative → ¬ double.IsNaN z.bits.toNat →
    |double.magnitude y.bits.toNat - q| < |double.magnitude z.bits.toNat - q| ∨
      |double.magnitude y.bits.toNat - q| = |double.magnitude z.bits.toNat - q| ∧
        (y = z ∨ Even y.bits.toNat)

variable {negative : Bool} {m : ℕ} {q : ℚ} {x y : Binary64}

/-- The bits of a number are its magnitude and, in front, its sign. -/
theorem toNat_ofParts (negative : Bool) (hm : m < 2 ^ 63) :
    (ofParts negative m).bits.toNat = m + if negative then 2 ^ 63 else 0 := by
  have hlt : m + (if negative then 2 ^ 63 else 0) < 2 ^ 64 := by split <;> omega
  exact UInt64.toNat_ofNat_of_lt' hlt

/-- Every number is a sign and the bits of a magnitude. -/
theorem exists_ofParts (x : Binary64) : ∃ negative m, m < 2 ^ 63 ∧ x = ofParts negative m := by
  have hbits : x.bits.toNat < 2 ^ 64 := x.bits.toNat_lt
  by_cases hsign : x.bits.toNat < 2 ^ 63
  · exact ⟨false, x.bits.toNat, hsign, congrArg mk UInt64.ofNat_toNat.symm⟩
  · refine ⟨true, x.bits.toNat - 2 ^ 63, by omega, ?_⟩
    have hbits' : ∀ n, ofParts true n = ⟨UInt64.ofNat (n + 2 ^ 63)⟩ := fun n => rfl
    rw [hbits', Nat.sub_add_cancel (Nat.not_lt.1 hsign), UInt64.ofNat_toNat]

/-- The three fields of a number that is put together. -/
theorem fields_ofParts (negative : Bool) (hm : m < 2 ^ 63) :
    double.negative (ofParts negative m).bits.toNat = negative ∧
      double.exponent (ofParts negative m).bits.toNat = m / 2 ^ 52 ∧
      double.fraction (ofParts negative m).bits.toNat = m % 2 ^ 52 := by
  rw [toNat_ofParts negative hm]
  simp only [Interchange.negative, exponent, fraction, double, Nat.reduceAdd]
  cases negative with
  | false =>
      rw [if_neg Bool.false_ne_true]
      exact ⟨decide_eq_false (by omega), by omega, by omega⟩
  | true =>
      rw [if_pos rfl]
      exact ⟨decide_eq_true (by omega), by omega, by omega⟩

/-- A number has the value of its magnitude. -/
theorem magnitude_ofParts (negative : Bool) (hm : m < 2 ^ 63) :
    double.magnitude (ofParts negative m).bits.toNat = double.valueAt m := by
  have hplace : (ofParts negative m).bits.toNat % 2 ^ (double.fractionBits + double.exponentBits) = m := by
    rw [toNat_ofParts negative hm]
    simp only [double, Nat.reduceAdd]
    split <;> omega
  rw [magnitude_eq, hplace]

/-- The magnitude bits of a number that is put together. -/
theorem magnitudeBits_ofParts (negative : Bool) (hm : m < 2 ^ 63) : (ofParts negative m).magnitudeBits = m := by
  rw [magnitudeBits, toNat_ofParts negative hm, show signBit = 2 ^ 63 from rfl]
  split
  · omega
  · omega

/-- A number made of its parts has the sign that it is made with. -/
theorem isNegative_ofParts (negative : Bool) (hm : m < 2 ^ 63) : (ofParts negative m).isNegative = negative := by
  rw [isNegative, toNat_ofParts negative hm, show signBit = 2 ^ 63 from rfl]
  cases negative with
  | false =>
      rw [if_neg Bool.false_ne_true]
      exact decide_eq_false (by omega)
  | true =>
      rw [if_pos rfl]
      exact decide_eq_true (by omega)

/-- Infinity has all bits of the exponent and none of the fraction. -/
theorem infinityBits_eq : infinityBits = 2047 * 2 ^ 52 := rfl

/-- Infinity has the place where the next power of two would be. -/
theorem valueAt_infinityBits : double.valueAt infinityBits = 2 ^ (1024 : ℤ) := by
  have htop := valueAt_eq (e := 971) (R := 2 * 2 ^ 52) (by decide) le_rfl (.inr (by omega))
  rw [infinityBits_eq, show 2047 * 2 ^ 52 = ((971 : ℤ) + 1074).toNat * 2 ^ 52 + 2 * 2 ^ 52 from rfl, htop,
    Nat.cast_mul, Nat.cast_pow, Nat.cast_ofNat, ← zpow_natCast, ← zpow_one_add₀ two_ne_zero,
    ← zpow_add₀ two_ne_zero]
  rfl

/-- What lies above infinity is no number. -/
theorem isNaN_ofParts_iff (hm : m < 2 ^ 63) :
    double.IsNaN (ofParts negative m).bits.toNat ↔ infinityBits < m := by
  obtain ⟨-, hexponent, hfraction⟩ := fields_ofParts negative hm
  rw [IsNaN, hexponent, hfraction, infinityBits_eq]
  simp only [double]
  omega

/-- What lies below it is finite. -/
theorem isFinite_ofParts_iff (hm : m < 2 ^ 63) :
    double.IsFinite (ofParts negative m).bits.toNat ↔ m < infinityBits := by
  obtain ⟨-, hexponent, -⟩ := fields_ofParts negative hm
  rw [IsFinite, hexponent, infinityBits_eq]
  simp only [double]
  omega

/-- A magnitude up to infinity leaves the sign alone. -/
theorem lt_of_le_infinityBits (h : m ≤ infinityBits) : m < 2 ^ 63 := by
  rw [infinityBits_eq] at h
  omega

/-- Whether the bits are even is told by the magnitude. -/
theorem even_ofParts_iff (hm : m < 2 ^ 63) : Even (ofParts negative m).bits.toNat ↔ Even m := by
  have hsign : Even (if negative then 2 ^ 63 else 0 : ℕ) := by
    cases negative with
    | false => exact Even.zero
    | true => exact even_two.pow_of_ne_zero (by decide)
  rw [toNat_ofParts negative hm, Nat.even_add, iff_true_right hsign]

/-- Numbers of one sign are the same if their magnitudes are. -/
theorem ofParts_inj {n : ℕ} (hm : m < 2 ^ 63) (hn : n < 2 ^ 63) :
    ofParts negative m = ofParts negative n ↔ m = n := by
  constructor
  · intro h
    have hbits : (ofParts negative m).bits.toNat = (ofParts negative n).bits.toNat := by rw [h]
    rw [toNat_ofParts negative hm, toNat_ofParts negative hn] at hbits
    exact Nat.add_right_cancel hbits
  · rintro rfl
    rfl

/-- The nearest number has the nearest place. -/
theorem isNearest_iff :
    IsNearest negative q y ↔ ∃ m, NearestAt double.valueAt infinityBits q m ∧ y = ofParts negative m := by
  constructor
  · rintro ⟨hsign, hnumber, hnearest⟩
    obtain ⟨negative', m, hm, rfl⟩ := exists_ofParts y
    obtain rfl : negative' = negative := (fields_ofParts negative' hm).1.symm.trans hsign
    refine ⟨m, ⟨Nat.not_lt.1 (mt (isNaN_ofParts_iff hm).2 hnumber), fun n hn => ?_⟩, rfl⟩
    have hn' := lt_of_le_infinityBits hn
    have h := hnearest (ofParts negative' n) (fields_ofParts negative' hn').1
      (mt (isNaN_ofParts_iff hn').1 (Nat.not_lt.2 hn))
    rwa [magnitude_ofParts _ hm, magnitude_ofParts _ hn', ofParts_inj hm hn', even_ofParts_iff hm] at h
  · rintro ⟨m, ⟨htop, hnearest⟩, rfl⟩
    have hm := lt_of_le_infinityBits htop
    refine ⟨(fields_ofParts negative hm).1, mt (isNaN_ofParts_iff hm).1 (Nat.not_lt.2 htop), ?_⟩
    intro z hsign hnumber
    obtain ⟨negative', n, hn, rfl⟩ := exists_ofParts z
    obtain rfl : negative' = negative := (fields_ofParts negative' hn).1.symm.trans hsign
    rw [magnitude_ofParts _ hm, magnitude_ofParts _ hn, ofParts_inj hm hn, even_ofParts_iff hm]
    exact hnearest n (Nat.not_lt.1 (mt (isNaN_ofParts_iff hn).2 hnumber))

/-- Rounding a quotient gives the number nearest to it. -/
theorem isNearest_ratio_iff {num den : ℕ} (hden : 0 < den) :
    IsNearest negative ((num : ℚ) / den) y ↔ y = ofRatio negative num den := by
  rw [isNearest_iff, ofRatio]
  have hbits := nearestAt_nearestBits num hden
  constructor
  · rintro ⟨m, hm, rfl⟩
    rw [hm.unique double.strictMono_valueAt hbits]
  · rintro rfl
    exact ⟨_, hbits, rfl⟩

/-- Sign, exponent and fraction are all of a number. -/
theorem eq_of_fields {x y : Binary64} (hsign : double.negative x.bits.toNat = double.negative y.bits.toNat)
    (hexponent : double.exponent x.bits.toNat = double.exponent y.bits.toNat)
    (hfraction : double.fraction x.bits.toNat = double.fraction y.bits.toNat) : x = y := by
  obtain ⟨negative, m, hm, rfl⟩ := exists_ofParts x
  obtain ⟨negative', n, hn, rfl⟩ := exists_ofParts y
  rw [(fields_ofParts _ hm).1, (fields_ofParts _ hn).1] at hsign
  rw [(fields_ofParts _ hm).2.1, (fields_ofParts _ hn).2.1] at hexponent
  rw [(fields_ofParts _ hm).2.2, (fields_ofParts _ hn).2.2] at hfraction
  rw [hsign, ← Nat.div_add_mod m (2 ^ 52), hexponent, hfraction, Nat.div_add_mod]

/-- Finite numbers of one sign and one magnitude are the same. -/
theorem eq_of_magnitude {x y : Binary64} (hsign : double.negative x.bits.toNat = double.negative y.bits.toNat)
    (hmagnitude : double.magnitude x.bits.toNat = double.magnitude y.bits.toNat) : x = y := by
  obtain ⟨negative, m, hm, rfl⟩ := exists_ofParts x
  obtain ⟨negative', n, hn, rfl⟩ := exists_ofParts y
  rw [(fields_ofParts _ hm).1, (fields_ofParts _ hn).1] at hsign
  rw [magnitude_ofParts _ hm, magnitude_ofParts _ hn] at hmagnitude
  rw [hsign, double.strictMono_valueAt.injective hmagnitude]

end Binary64

end SeriesQuery
