import SeriesQuery.Calendar.Instant

/-!
# Order and offsets of instants

An offset that is not negative does not lead into the past, also from inside a leap second
(`not_lt_of_add?`). From one instant, a greater offset leads to a later one (`add?_lt_add?`), and outside
leap seconds one offset leads from a later instant to one that is not earlier (`exists_add?_of_le`).
-/

namespace SeriesQuery.Instant

variable {a b t u : Instant}

/-- Seconds are compared first, nanoseconds then. -/
theorem lt_iff : a < b ↔ a.secs < b.secs ∨ (a.secs = b.secs ∧ a.nanos < b.nanos) := Iff.rfl

theorem lt_irrefl (a : Instant) : ¬ a < a := by
  rw [lt_iff]
  omega

theorem lt_trans (hab : a < b) (hbt : b < t) : a < t := by
  rw [lt_iff] at hab hbt ⊢
  omega

theorem lt_asymm (h : a < b) : ¬ b < a := by
  rw [lt_iff] at h ⊢
  omega

/-- Of two instants one is before the other, or they are the same. -/
theorem lt_or_eq_or_lt (a b : Instant) : a < b ∨ a = b ∨ b < a := by
  obtain ⟨secs, nanos⟩ := a
  obtain ⟨secs', nanos'⟩ := b
  rw [lt_iff, lt_iff, Instant.mk.injEq]
  dsimp only
  omega

/-- The second is one that an instant can have. -/
def InLimits (t : Instant) : Prop := firstSecond ≤ t.secs ∧ t.secs ≤ lastSecond

/-- An instant is kept if it is within the limits. -/
theorem within?_eq_some_iff : within? t = some u ↔ t.InLimits ∧ t = u := by
  rw [within?, Option.ite_none_right_eq_some, Option.some.injEq]
  rfl

/-- An instant that is kept is not changed. -/
theorem eq_of_within? (h : within? t = some u) : t = u := (within?_eq_some_iff.1 h).2

/-- Time does not run backwards: an offset of zero or more does not lead before the instant. -/
theorem not_lt_of_add? {offset : Int} (h0 : 0 ≤ offset) (h : t.add? offset = some u) : ¬ u < t := by
  have hs : nanosPerSecond = 1000000000 := rfl
  simp only [add?, inLeapSecond, decide_eq_true_eq, Int.tdiv_eq_ediv_of_nonneg h0,
    Int.tmod_eq_emod_of_nonneg h0, ofNanos?, hs] at h
  rw [lt_iff]
  split at h
  · split at h
    · -- the leap second is left behind
      rw [← eq_of_within? h]
      dsimp only
      omega
    · split at h
      · omega
      · obtain rfl := Option.some.inj h
        dsimp only
        omega
  · rw [← eq_of_within? h]
    dsimp only
    omega

/-! ## From one instant -/

/-- The nanoseconds since the start of 1970, as if no second lasted longer than others. -/
def total (t : Instant) : Int := t.secs * nanosPerSecond + t.nanos

/-- The instant is within the limits, and not beyond the end of a leap second. -/
structure IsProper (t : Instant) : Prop where
  firstSecond_le : firstSecond ≤ t.secs
  le_lastSecond : t.secs ≤ lastSecond
  nanos_lt : t.nanos < 2 * nanosPerSecond

/-- A number of nanoseconds is split into seconds and a rest, if it is within the limits. -/
theorem ofNanos?_eq_some_iff {n : Int} :
    ofNanos? n = some u ↔
      u.nanos < nanosPerSecond ∧ u.total = n ∧ firstSecond ≤ u.secs ∧ u.secs ≤ lastSecond := by
  have hs : nanosPerSecond = 1000000000 := rfl
  rw [ofNanos?, within?, Option.ite_none_right_eq_some, Option.some.injEq, total, hs]
  constructor
  · rintro ⟨hlimits, rfl⟩
    dsimp only at hlimits ⊢
    omega
  · rintro ⟨hnanos, rfl, hlimits⟩
    have hsecs : (u.secs * (1000000000 : Nat) + u.nanos) / (1000000000 : Nat) = u.secs := by omega
    have hnanos' : ((u.secs * (1000000000 : Nat) + u.nanos) % (1000000000 : Nat)).toNat = u.nanos := by
      omega
    rw [hsecs, hnanos']
    exact ⟨hlimits, rfl⟩

/-- Outside of a leap second the nanoseconds are added up. -/
theorem add?_of_not_leap {offset : Int} (ht : t.inLeapSecond = false) :
    t.add? offset = ofNanos? (t.total + offset) := by
  rw [add?, ht]
  rfl

/-- The whole seconds of an offset and the part that is left have the sign of the offset. -/
theorem whole_and_part (offset : Int) :
    nanosPerSecond * offset.tdiv nanosPerSecond + offset.tmod nanosPerSecond = offset ∧
      -nanosPerSecond < offset.tmod nanosPerSecond ∧ offset.tmod nanosPerSecond < nanosPerSecond ∧
      (0 ≤ offset → 0 ≤ offset.tmod nanosPerSecond) ∧
      (offset ≤ 0 → offset.tmod nanosPerSecond ≤ 0) := by
  have hpos : (0 : Int) < nanosPerSecond := by decide
  refine ⟨Int.mul_tdiv_add_tmod offset _, Int.lt_tmod_of_pos offset hpos,
    Int.tmod_lt_of_pos offset hpos, Int.tmod_nonneg _, fun hoffset => ?_⟩
  have hneg : 0 ≤ (-offset).tmod nanosPerSecond := Int.tmod_nonneg _ (by omega)
  rw [Int.neg_tmod] at hneg
  omega

/-- Where an offset leads. It counts through the seconds, except that from inside a leap second it may
stay there, and that the leap second itself takes no place behind its end. -/
theorem cases_of_add? {offset : Int} (ht : t.nanos < 2 * nanosPerSecond)
    (h : t.add? offset = some u) :
    (u.nanos < nanosPerSecond ∧ u.total = t.total + offset ∧
        (nanosPerSecond ≤ t.nanos → offset ≤ -nanosPerSecond)) ∨
      (nanosPerSecond ≤ t.nanos ∧ u.secs = t.secs ∧ (u.nanos : Int) = t.nanos + offset ∧
        -nanosPerSecond < offset ∧ u.nanos < 2 * nanosPerSecond) ∨
      (nanosPerSecond ≤ t.nanos ∧ u.nanos < nanosPerSecond ∧
        u.total = t.total + offset - nanosPerSecond ∧ 2 * nanosPerSecond ≤ t.nanos + offset) := by
  cases hleap : t.inLeapSecond with
  | false =>
      rw [add?_of_not_leap hleap, ofNanos?_eq_some_iff] at h
      rw [inLeapSecond, decide_eq_false_iff_not] at hleap
      exact .inl ⟨h.1, h.2.1, fun hnanos => absurd hnanos hleap⟩
  | true =>
      have hs : nanosPerSecond = 1000000000 := rfl
      rw [inLeapSecond, decide_eq_true_eq] at hleap
      have hoffset := whole_and_part offset
      simp only [add?, inLeapSecond, decide_eq_true_eq, if_pos hleap] at h
      generalize offset.tdiv nanosPerSecond = whole at h hoffset
      generalize offset.tmod nanosPerSecond = part at h hoffset
      rw [hs] at ht hleap h hoffset ⊢
      split at h
      · -- the leap second is left behind
        have hn := ofNanos?_eq_some_iff.1 h
        simp only [total, hs] at hn ⊢
        omega
      · split at h
        · have hn := ofNanos?_eq_some_iff.1 h
          simp only [total, hs] at hn ⊢
          omega
        · obtain rfl := Option.some.inj h
          dsimp only
          omega

/-- From one instant, a greater offset leads to a later instant. -/
theorem add?_lt_add? {d e : Int} (ht : t.nanos < 2 * nanosPerSecond) (hlt : d < e)
    (ha : t.add? d = some a) (hb : t.add? e = some b) : a < b := by
  have hs : nanosPerSecond = 1000000000 := rfl
  have hcases := cases_of_add? ht ha
  have hcases' := cases_of_add? ht hb
  simp only [total, hs] at ht hcases hcases'
  rw [lt_iff]
  omega

/-- A negative offset leads into the past. -/
theorem lt_of_add? {offset : Int} (ht : t.nanos < 2 * nanosPerSecond) (hneg : offset < 0)
    (h : t.add? offset = some u) : u < t := by
  have hs : nanosPerSecond = 1000000000 := rfl
  have hcases := cases_of_add? ht h
  simp only [total, hs] at ht hcases
  rw [lt_iff]
  omega

/-! ## From two instants -/

/-- An instant is at most another if it is not behind it. -/
theorem le_iff : a ≤ b ↔ ¬ b < a := Iff.rfl

theorem le_antisymm (hab : a ≤ b) (hba : b ≤ a) : a = b := by
  obtain ⟨secs, nanos⟩ := a
  obtain ⟨secs', nanos'⟩ := b
  rw [le_iff, lt_iff] at hab hba
  rw [Instant.mk.injEq]
  dsimp only at hab hba
  omega

theorem lt_of_lt_of_le (hab : a < b) (hbt : b ≤ t) : a < t := by
  rw [le_iff, lt_iff] at hbt
  rw [lt_iff] at hab ⊢
  omega

/-- Outside leap seconds, an offset into the past that can be taken at one instant can be taken at every
later one, and does not lead to an earlier instant from there. -/
theorem exists_add?_of_le {offset : Int} (hle : a ≤ b) (ha : a.inLeapSecond = false)
    (hb : b.inLeapSecond = false) (hlast : b.secs ≤ lastSecond) (hneg : offset ≤ 0)
    (h : a.add? offset = some t) : ∃ u, b.add? offset = some u ∧ t ≤ u := by
  have hs : nanosPerSecond = 1000000000 := rfl
  have ht := ofNanos?_eq_some_iff.1 ((add?_of_not_leap ha).symm.trans h)
  rw [le_iff, lt_iff] at hle
  rw [inLeapSecond, decide_eq_false_iff_not] at ha
  have hbnanos := hb
  rw [inLeapSecond, decide_eq_false_iff_not] at hbnanos
  refine ⟨⟨(b.total + offset) / nanosPerSecond, ((b.total + offset) % nanosPerSecond).toNat⟩, ?_, ?_⟩
  · rw [add?_of_not_leap hb, ofNanos?_eq_some_iff]
    simp only [total, hs] at ha hbnanos ht ⊢
    omega
  · rw [le_iff, lt_iff]
    simp only [total, hs] at ha hbnanos ht ⊢
    omega

end SeriesQuery.Instant
