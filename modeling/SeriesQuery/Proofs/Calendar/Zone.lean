import SeriesQuery.Calendar.Zone
import SeriesQuery.Proofs.Calendar.Date
import SeriesQuery.Proofs.Calendar.Instant
import SeriesQuery.Proofs.Outcome

/-!
# From the wall clock to UTC

The instants at which the clock of a zone shows a time are those that `Zone.offsetsFor` lists, in order
(`mem_instantsFor_iff`, `pairwise_instantsFor`). So `Zone.earliest?` finds the first of them, wherever it
is not close to the limits of time (`earliest?_eq_some_iff`). The first instants are in the order of the
times (`IsFirst.lt_iff`), although all instants that show them need not be.
-/

namespace SeriesQuery

/-- The seconds of the years 0 to 9999. -/
theorem Instant.secs_of_fourDigits {t : Instant} (hnonneg : 0 ≤ t.date.year)
    (hle : t.date.year ≤ 9999) : -62167219200 ≤ t.secs ∧ t.secs < 253402300800 := by
  have hday : secondsPerDay = 86400 := rfl
  have hepoch : Date.epochDay = 719162 := rfl
  have hyear := Date.yearOfDay_spec (t.secs / secondsPerDay + Date.epochDay)
  rw [Instant.date, Date.ofDays_eq] at hnonneg hle
  simp only [Date.daysBeforeYear, hday, hepoch] at hyear hnonneg hle
  omega

namespace Zone

variable {zone : Zone} {shown shown' t u : Instant} {east : Int}

/-- A clock in the zone shows the wall-clock time at the instant. -/
def Shows (zone : Zone) (t shown : Instant) : Prop :=
  t.secs + zone.offsetAt t.secs = shown.secs ∧ t.nanos = shown.nanos

instance (zone : Zone) (t shown : Instant) : Decidable (zone.Shows t shown) :=
  inferInstanceAs (Decidable (_ ∧ _))

/-- The first of the instants at which a clock in the zone shows the wall-clock time. -/
structure IsFirst (zone : Zone) (shown t : Instant) : Prop where
  shows : zone.Shows t shown
  least : ∀ u, zone.Shows u shown → t ≤ u

/-! ## All instants that show a time -/

/-- An offset is listed when it is in force at the instant to which it leads. -/
theorem mem_offsetsFor_iff {secs : Int} :
    east ∈ zone.offsetsFor secs ↔ zone.offsetAt (secs - east) = east := by
  cases zone with
  | fixed e => rw [offsetsFor, offsetAt, List.mem_singleton, eq_comm]
  | change before moment after =>
      simp only [offsetsFor, offsetAt, List.mem_append, List.mem_ite_nil_right, List.mem_singleton]
      constructor
      · rintro (⟨hlt, rfl⟩ | ⟨hle, rfl⟩)
        · exact if_pos hlt
        · exact if_neg (Int.not_lt.2 hle)
      · split
        · next hlt =>
          rintro rfl
          exact .inl ⟨hlt, rfl⟩
        · next hle =>
          rintro rfl
          exact .inr ⟨Int.not_lt.1 hle, rfl⟩

/-- Where two offsets lead to an instant, the greater one is in force first. -/
theorem pairwise_offsetsFor (secs : Int) : (zone.offsetsFor secs).Pairwise (· > ·) := by
  cases zone with
  | fixed e => exact List.pairwise_singleton _ e
  | change before moment after =>
      rw [offsetsFor]
      split
      · split
        · rw [List.singleton_append, List.pairwise_pair]
          omega
        · exact List.pairwise_singleton _ before
      · split
        · exact List.pairwise_singleton _ after
        · exact List.Pairwise.nil

/-- The instants to which the listed offsets lead. -/
def instantsFor (zone : Zone) (shown : Instant) : List Instant :=
  (zone.offsetsFor shown.secs).map fun east => ⟨shown.secs + -east, shown.nanos⟩

/-- The instants that are tried are those at which the zone shows the time. -/
theorem mem_instantsFor_iff : t ∈ zone.instantsFor shown ↔ zone.Shows t shown := by
  obtain ⟨secs, nanos⟩ := t
  simp only [instantsFor, List.mem_map, mem_offsetsFor_iff, Instant.mk.injEq, Shows]
  constructor
  · rintro ⟨east, hforce, rfl, rfl⟩
    rw [← Int.sub_eq_add_neg, hforce]
    exact ⟨Int.sub_add_cancel _ _, rfl⟩
  · rintro ⟨hsecs, rfl⟩
    refine ⟨zone.offsetAt secs, ?_, by omega, rfl⟩
    rw [← hsecs, Int.add_sub_cancel]

/-- The instants for a wall-clock time are tried in order. -/
theorem pairwise_instantsFor : (zone.instantsFor shown).Pairwise (· ≤ ·) := by
  rw [instantsFor, List.pairwise_map]
  refine (pairwise_offsetsFor shown.secs).imp fun {a b} hab => ?_
  rw [Instant.le_iff, Instant.lt_iff]
  dsimp only
  omega

/-! ## The first one -/

/-- There is only one first instant. -/
theorem IsFirst.eq (ht : zone.IsFirst shown t) (hu : zone.IsFirst shown u) : t = u :=
  Instant.le_antisymm (ht.least u hu.shows) (hu.least t ht.shows)

/-- The first that is tried is the first at which the time is shown. -/
theorem head?_instantsFor_eq_some_iff :
    (zone.instantsFor shown).head? = some t ↔ zone.IsFirst shown t := by
  have hmem : ∀ {u}, u ∈ zone.instantsFor shown ↔ zone.Shows u shown := mem_instantsFor_iff
  have hfirst : ∀ {u}, (zone.instantsFor shown).head? = some u → zone.IsFirst shown u := by
    intro u hu
    -- the list is in order, so nothing in it is earlier than its head
    obtain ⟨rest, hrest⟩ := List.head?_eq_some_iff.1 hu
    have hsorted : (u :: rest).Pairwise (· ≤ ·) := hrest ▸ pairwise_instantsFor
    refine ⟨hmem.1 (hrest ▸ List.mem_cons_self), fun v hv => ?_⟩
    rw [← hmem, hrest] at hv
    rcases List.mem_cons.1 hv with rfl | hv
    · exact Instant.lt_irrefl v
    · exact (List.pairwise_cons.1 hsorted).1 v hv
  refine ⟨hfirst, fun h => ?_⟩
  cases hhead : (zone.instantsFor shown).head? with
  | none =>
      rw [List.head?_eq_none_iff] at hhead
      exact absurd (hhead ▸ hmem.2 h.shows) List.not_mem_nil
  | some u => rw [(hfirst hhead).eq h]

/-- `earliest?` finds the first instant that shows the time, if all that do are within the limits. -/
theorem earliest?_eq_some_iff_of_limits :
    zone.earliest? shown = some t ↔
      (∀ u, zone.Shows u shown → u.InLimits) ∧ zone.IsFirst shown t := by
  have hall : (∀ east ∈ zone.offsetsFor shown.secs,
      Instant.InLimits ⟨shown.secs + -east, shown.nanos⟩) ↔ ∀ u, zone.Shows u shown → u.InLimits := by
    simp only [← mem_instantsFor_iff, instantsFor, List.forall_mem_map]
  rw [earliest?, Option.bind_eq_bind, Option.bind_eq_some_iff, ← hall, ← head?_instantsFor_eq_some_iff]
  simp only [Outcome.mapM_eq_some_iff fun _ _ => Instant.within?_eq_some_iff, Instant.shift?]
  exact ⟨fun ⟨_, ⟨h, rfl⟩, hhead⟩ => ⟨h, hhead⟩, fun ⟨h, hhead⟩ => ⟨_, ⟨h, rfl⟩, hhead⟩⟩

/-! ## Away from the limits -/

/-- Offsets are less than a day. -/
theorem natAbs_offsetAt_lt (hzone : zone.isValid = true) (secs : Int) :
    (zone.offsetAt secs).natAbs < secondsPerDay := by
  cases zone with
  | fixed e => exact of_decide_eq_true hzone
  | change before moment after =>
      rw [isValid, Bool.and_eq_true] at hzone
      rw [offsetAt]
      split
      · exact of_decide_eq_true hzone.1
      · exact of_decide_eq_true hzone.2

/-- Years of four digits end before the limits do, by more than all offsets. -/
theorem Shows.inLimits (hzone : zone.isValid = true) (hnonneg : 0 ≤ t.date.year)
    (hle : t.date.year ≤ 9999) (ht : zone.Shows t shown) (hu : zone.Shows u shown) : u.InLimits := by
  have hfirst : Instant.firstSecond = -8334601228800 := by decide +kernel
  have hlast : Instant.lastSecond = 8210266876799 := by decide +kernel
  have hday : secondsPerDay = 86400 := rfl
  have hoffset := natAbs_offsetAt_lt hzone t.secs
  have hoffset' := natAbs_offsetAt_lt hzone u.secs
  have hbounds := Instant.secs_of_fourDigits hnonneg hle
  have hsecs := ht.1.trans hu.1.symm
  rw [Instant.InLimits]
  omega

/-- Where the instant has a year of four digits, the limits have no effect. -/
theorem earliest?_eq_some_iff (hzone : zone.isValid = true) (hnonneg : 0 ≤ t.date.year)
    (hle : t.date.year ≤ 9999) : zone.earliest? shown = some t ↔ zone.IsFirst shown t := by
  rw [earliest?_eq_some_iff_of_limits]
  exact and_iff_right_of_imp fun h u hu => h.shows.inLimits hzone hnonneg hle hu

/-! ## Times that exist -/

/-- A time that is shown at all is shown for a first time. -/
theorem exists_isFirst_iff : (∃ t, zone.IsFirst shown t) ↔ ∃ t, zone.Shows t shown := by
  refine ⟨fun ⟨t, ht⟩ => ⟨t, ht.shows⟩, fun ⟨u, hu⟩ => ?_⟩
  have hne := List.ne_nil_of_mem (mem_instantsFor_iff.2 hu)
  obtain ⟨t, ht⟩ := Option.isSome_iff_exists.1 (List.isSome_head?.2 hne)
  exact ⟨t, head?_instantsFor_eq_some_iff.1 ht⟩

/-- The wall-clock time exists in the zone: an instant shows it, and no instant beyond the limits does. -/
structure HasTime (zone : Zone) (shown : Instant) : Prop where
  shows : ∃ t, zone.Shows t shown
  inLimits : ∀ t, zone.Shows t shown → t.InLimits

/-- The instant that is taken for a time is the first at which it is shown. -/
theorem earliest?_eq_some_iff_hasTime :
    zone.earliest? shown = some t ↔ zone.HasTime shown ∧ zone.IsFirst shown t := by
  rw [earliest?_eq_some_iff_of_limits]
  exact ⟨fun h => ⟨⟨⟨t, h.2.shows⟩, h.1⟩, h.2⟩, fun h => ⟨h.1.inLimits, h.2⟩⟩

/-- Offsets are shorter than a day, so the limits are far from all times but those of two days. -/
theorem hasTime_iff (hzone : zone.isValid = true)
    (hfirst : Instant.firstSecond + secondsPerDay ≤ shown.secs)
    (hlast : shown.secs ≤ Instant.lastSecond - secondsPerDay) :
    zone.HasTime shown ↔ ∃ t, zone.Shows t shown := by
  refine ⟨HasTime.shows, fun h => ⟨h, fun t ht => ?_⟩⟩
  have hoffset := natAbs_offsetAt_lt hzone t.secs
  have hsecs := ht.1
  rw [Instant.InLimits]
  omega

/-! ## Order -/

/-- A time that the clock shows before its change is first shown before it. -/
theorem IsFirst.lt_moment {before moment after : Int}
    (h : (change before moment after).IsFirst shown t) (hlt : shown.secs - before < moment) :
    t.secs < moment := by
  have hshows : (change before moment after).Shows ⟨shown.secs - before, shown.nanos⟩ shown := by
    refine ⟨?_, rfl⟩
    rw [offsetAt, if_pos hlt, Int.sub_add_cancel]
  have hle := h.least _ hshows
  rw [Instant.le_iff, Instant.lt_iff] at hle
  dsimp only at hle
  omega

/-- Of two wall-clock times the earlier one is first shown at an earlier instant. -/
theorem IsFirst.lt_of_lt (ht : zone.IsFirst shown t) (hu : zone.IsFirst shown' u) (hlt : shown < shown') :
    t < u := by
  obtain ⟨hsecs, hnanos⟩ := ht.shows
  obtain ⟨hsecs', hnanos'⟩ := hu.shows
  rw [Instant.lt_iff] at hlt ⊢
  cases zone with
  | fixed east =>
      rw [offsetAt] at hsecs hsecs'
      omega
  | change before moment after =>
      -- were the earlier time first shown behind the change, and the later one before it, then the clock
      -- would have shown the earlier one before it too
      have hmoment := ht.lt_moment
      rw [offsetAt] at hsecs hsecs'
      split at hsecs
      · split at hsecs' <;> omega
      · split at hsecs' <;> omega

/-- First instants are ordered like the times that they show. -/
theorem IsFirst.lt_iff (ht : zone.IsFirst shown t) (hu : zone.IsFirst shown' u) :
    t < u ↔ shown < shown' := by
  refine ⟨fun hlt => ?_, ht.lt_of_lt hu⟩
  rcases Instant.lt_or_eq_or_lt shown shown' with hshown | rfl | hshown
  · exact hshown
  · exact absurd (ht.eq hu ▸ hlt) (Instant.lt_irrefl u)
  · exact absurd (hu.lt_of_lt ht hshown) (Instant.lt_asymm hlt)

end Zone

end SeriesQuery
