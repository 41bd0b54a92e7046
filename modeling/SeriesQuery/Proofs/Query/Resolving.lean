import SeriesQuery.Proofs.Query.DurationValue
import SeriesQuery.Proofs.Query.OverTime

/-!
# Where a time expression leads

What becomes of any text at any now: the instant that it resolves to, or the reason why there is none
(`resolvesExactly`). The three forms of a time expression exclude each other, so they can be tried in any
order (`findSome?_readers`).
-/

namespace SeriesQuery.TimeExpr

open Duration (Denotes InRange)

variable {text : String} {current t : Instant} {e : QueryError}

/-- The text is a duration literal in range. -/
def IsOffset (text : String) (d : Duration) : Prop := Denotes text.toList d.nanos ∧ InRange d.nanos

/-- The text is the canonical timestamp of calendar fields, which denote the instant. -/
def IsTimestamp (text : String) (t : Instant) : Prop :=
  ∃ f : Timestamp.Fields, text.toList = f.text ∧ f.instant = t

/-- The instants that a text resolves to. -/
inductive ResolvesTo (text : String) (current : Instant) : Instant → Prop where
  | now (form : text = "now()") : ResolvesTo text current current
  | offset {d : Duration} {t : Instant} (form : IsOffset text d) (past : d.nanos < 0)
      (lands : current.add? d.nanos = some t) : ResolvesTo text current t
  | timestamp {t : Instant} (form : IsTimestamp text t) (past : t < current) : ResolvesTo text current t

/-- The reasons why a text does not resolve. -/
inductive FailsWith (text : String) (current : Instant) : QueryError → Prop where
  | formless (now : text ≠ "now()") (offset : ∀ d, ¬ IsOffset text d)
      (timestamp : ∀ t, ¬ IsTimestamp text t) : FailsWith text current (.malformedTime text)
  | unreachable {d : Duration} (form : IsOffset text d) (lands : current.add? d.nanos = none) :
      FailsWith text current (.malformedTime (d.iso ++ " out of range"))
  | ahead {d : Duration} {t : Instant} (form : IsOffset text d) (ahead : 0 ≤ d.nanos)
      (lands : current.add? d.nanos = some t) : FailsWith text current (.futureTime text)
  | notBefore {t : Instant} (form : IsTimestamp text t) (ahead : ¬ t < current) :
      FailsWith text current (.futureTime text)

/-- An offset is a text that is read as its duration. -/
theorem isOffset_iff {d : Duration} : IsOffset text d ↔ Duration.read? text.toList = some d :=
  Duration.read?_eq_some_iff.symm

/-- A timestamp is a text that is read as its instant. -/
theorem isTimestamp_iff : IsTimestamp text t ↔ Timestamp.parse? text = some t :=
  Timestamp.parse?_eq_some_iff.symm

/-! ## The order of the forms -/

/-- The readers of the forms, each for itself. -/
def readers : List (String → Option TimeExpr) :=
  [fun text => if text = nowText then some now else none,
    fun text => (Duration.read? text.toList).map relative,
    fun text => (Timestamp.parse? text).map absolute]

/-- Each reader by itself gives what the text is read as: no text is of two forms. -/
theorem parse_of_mem_readers {f : String → Option TimeExpr} {x : TimeExpr} (hf : f ∈ readers)
    (h : f text = some x) : parse text = .ok x := by
  simp only [readers, List.mem_cons, List.not_mem_nil, or_false] at hf
  rcases hf with rfl | rfl | rfl
  · obtain ⟨hnow, hx⟩ := Option.ite_none_right_eq_some.1 h
    rw [parse, if_pos hnow, Option.some.inj hx]
  · obtain ⟨d, hd, rfl⟩ := Option.map_eq_some_iff.1 h
    exact parse_of_read? hd
  · obtain ⟨t, ht, rfl⟩ := Option.map_eq_some_iff.1 h
    exact parse_of_parse? ht

/-- A text that is read is read by one of the three readers. -/
theorem exists_mem_readers {x : TimeExpr} (h : parse text = .ok x) : ∃ f ∈ readers, f text = some x := by
  rcases cases_of_parse h with ⟨hnow, rfl⟩ | ⟨d, hd, rfl⟩ | ⟨t, ht, rfl⟩
  · exact ⟨_, List.mem_cons_self, if_pos hnow⟩
  · exact ⟨_, List.mem_cons_of_mem _ List.mem_cons_self, by rw [hd]; rfl⟩
  · exact ⟨_, List.mem_cons_of_mem _ (List.mem_cons_of_mem _ List.mem_cons_self), by rw [ht]; rfl⟩

/-- In whichever order the forms are tried, the same is read. -/
theorem findSome?_readers {order : List (String → Option TimeExpr)} (h : order.Perm readers) :
    order.findSome? (· text) = (parse text).toOption := by
  have hread : ∀ {x}, order.findSome? (· text) = some x → parse text = .ok x := fun hx => by
    obtain ⟨f, hf, hfx⟩ := List.exists_of_findSome?_eq_some hx
    exact parse_of_mem_readers (h.mem_iff.1 hf) hfx
  cases hfind : order.findSome? (· text) with
  | some x => exact (Outcome.toOption_eq_some_iff.2 (hread hfind)).symm
  | none =>
      refine (Option.eq_none_iff_forall_ne_some.2 fun x hx => ?_).symm
      obtain ⟨f, hf, hfx⟩ := exists_mem_readers (Outcome.toOption_eq_some_iff.1 hx)
      exact nomatch hfx.symm.trans (List.findSome?_eq_none_iff.1 hfind f (h.mem_iff.2 hf))

/-! ## Outcomes -/

/-- A text that resolves to an instant is resolved to it. -/
theorem resolve_of_resolvesTo (hcurrent : current.nanos < 2 * nanosPerSecond)
    (h : ResolvesTo text current t) : resolve text current = .ok t := by
  cases h with
  | now form =>
      rw [form]
      exact resolve_nowText current
  | offset form past lands =>
      rw [resolve_of_add? (isOffset_iff.1 form) lands, if_pos (Instant.lt_of_add? hcurrent past lands)]
  | timestamp form past => rw [resolve_of_parse? (isTimestamp_iff.1 form), if_pos past]

/-- A text that fails with an error is refused with it. -/
theorem resolve_of_failsWith (h : FailsWith text current e) : resolve text current = .error e := by
  cases h with
  | formless now offset timestamp =>
      have hread : Duration.read? text.toList = none :=
        Option.eq_none_iff_forall_ne_some.2 fun d hd => offset d (isOffset_iff.2 hd)
      have hparse : Timestamp.parse? text = none :=
        Option.eq_none_iff_forall_ne_some.2 fun t ht => timestamp t (isTimestamp_iff.2 ht)
      rw [resolve, parse, if_neg (show text ≠ nowText from now), hread, hparse]
      rfl
  | unreachable form lands =>
      rw [resolve, parse_of_read? (isOffset_iff.1 form)]
      show (relative _).anchor current >>= _ = _
      rw [anchor, lands]
      rfl
  | ahead form ahead lands =>
      rw [resolve_of_add? (isOffset_iff.1 form) lands, if_neg (Instant.not_lt_of_add? ahead lands)]
  | notBefore form ahead => rw [resolve_of_parse? (isTimestamp_iff.1 form), if_neg ahead]

/-- Every text has an outcome of the one kind or of the other. -/
theorem resolvesTo_or_failsWith (text : String) (current : Instant) :
    (∃ t, ResolvesTo text current t) ∨ ∃ e, FailsWith text current e := by
  by_cases hnow : text = "now()"
  · exact .inl ⟨current, .now hnow⟩
  by_cases hoffset : ∃ d, IsOffset text d
  · obtain ⟨d, hd⟩ := hoffset
    cases hadd : current.add? d.nanos with
    | none => exact .inr ⟨_, .unreachable hd hadd⟩
    | some t =>
        by_cases hneg : d.nanos < 0
        · exact .inl ⟨t, .offset hd hneg hadd⟩
        · exact .inr ⟨_, .ahead hd (Int.not_lt.1 hneg) hadd⟩
  by_cases htimestamp : ∃ t, IsTimestamp text t
  · obtain ⟨t, ht⟩ := htimestamp
    by_cases hlt : t < current
    · exact .inl ⟨t, .timestamp ht hlt⟩
    · exact .inr ⟨_, .notBefore ht hlt⟩
  · exact .inr ⟨_, .formless hnow (not_exists.1 hoffset) (not_exists.1 htimestamp)⟩

/-- A text is resolved to the instants that it resolves to by its form, and to no others. -/
theorem resolve_eq_ok_iff (hcurrent : current.nanos < 2 * nanosPerSecond) :
    resolve text current = .ok t ↔ ResolvesTo text current t := by
  refine ⟨fun h => ?_, resolve_of_resolvesTo hcurrent⟩
  rcases resolvesTo_or_failsWith text current with ⟨u, hu⟩ | ⟨e, he⟩
  · obtain rfl := Except.ok.inj (h.symm.trans (resolve_of_resolvesTo hcurrent hu))
    exact hu
  · exact nomatch h.symm.trans (resolve_of_failsWith he)

/-- A text is refused with the reasons that its form gives, and with no others. -/
theorem resolve_eq_error_iff (hcurrent : current.nanos < 2 * nanosPerSecond) :
    resolve text current = .error e ↔ FailsWith text current e := by
  refine ⟨fun h => ?_, resolve_of_failsWith⟩
  rcases resolvesTo_or_failsWith text current with ⟨u, hu⟩ | ⟨e', he⟩
  · exact nomatch h.symm.trans (resolve_of_resolvesTo hcurrent hu)
  · obtain rfl := Except.error.inj (h.symm.trans (resolve_of_failsWith he))
    exact he

/-- Only `now()` leads to now itself, and nothing leads beyond. -/
theorem ResolvesTo.lt_or_eq (hcurrent : current.nanos < 2 * nanosPerSecond)
    (h : ResolvesTo text current t) :
    (t < current ∧ text ≠ "now()") ∨ (t = current ∧ text = "now()") := by
  cases h with
  | now form => exact .inr ⟨rfl, form⟩
  | offset form past lands =>
      exact .inl ⟨Instant.lt_of_add? hcurrent past lands, ne_nowText_of_read? (isOffset_iff.1 form)⟩
  | timestamp form past => exact .inl ⟨past, ne_nowText_of_parse? (isTimestamp_iff.1 form)⟩

/-- All about resolving a text at a now. -/
structure ResolvesExactly (text : String) (current : Instant) : Prop where
  ok_iff : ∀ t, resolve text current = .ok t ↔ ResolvesTo text current t
  error_iff : ∀ e, resolve text current = .error e ↔ FailsWith text current e
  /-- No text is of two forms. -/
  exclusive : (∀ d, IsOffset text d → text ≠ "now()" ∧ ∀ t, ¬ IsTimestamp text t) ∧
    ∀ t, IsTimestamp text t → text ≠ "now()"
  /-- The forms can be tried in any order. -/
  order : ∀ order : List (String → Option TimeExpr), order.Perm readers →
    order.findSome? (· text) = (parse text).toOption
  /-- No text resolves to a later instant, and none but `now()` to now. -/
  not_after : ∀ t, resolve text current = .ok t →
    t ≤ current ∧ (t = current ↔ text = "now()")

/-- Each text resolves to one instant or fails with one error, at every current instant. -/
theorem resolvesExactly (hcurrent : current.nanos < 2 * nanosPerSecond) :
    ResolvesExactly text current := by
  constructor
  case ok_iff => exact fun t => resolve_eq_ok_iff hcurrent
  case error_iff => exact fun e => resolve_eq_error_iff hcurrent
  case exclusive =>
      constructor
      · intro d hd
        refine ⟨ne_nowText_of_read? (isOffset_iff.1 hd), fun t ht => ?_⟩
        exact nomatch (isOffset_iff.1 hd).symm.trans (read?_eq_none_of_parse? (isTimestamp_iff.1 ht))
      · exact fun t ht => ne_nowText_of_parse? (isTimestamp_iff.1 ht)
  case order => exact fun order => findSome?_readers
  case not_after =>
      intro t h
      rcases ((resolve_eq_ok_iff hcurrent).1 h).lt_or_eq hcurrent with ⟨hlt, hne⟩ | ⟨rfl, hnow⟩
      · refine ⟨Instant.lt_asymm hlt, fun heq => ?_, fun heq => absurd heq hne⟩
        exact absurd (heq ▸ hlt) (Instant.lt_irrefl _)
      · exact ⟨Instant.lt_irrefl t, fun _ => hnow, fun _ => rfl⟩

/-- From the middle of a leap second, half a second back leads to its start, and from the end of the last
day there is nothing ahead. -/
theorem resolvesExactly_leapSecond :
    (Instant.nanos ⟨1483228799, 1500000000⟩ < 2 * nanosPerSecond ∧
      ResolvesExactly "-.5s" ⟨1483228799, 1500000000⟩ ∧
      resolve "-.5s" ⟨1483228799, 1500000000⟩ = .ok ⟨1483228799, 1000000000⟩) ∧
    (Instant.nanos ⟨Instant.lastSecond, 0⟩ < 2 * nanosPerSecond ∧
      ResolvesExactly "1.5s" ⟨Instant.lastSecond, 0⟩ ∧
      resolve "1.5s" ⟨Instant.lastSecond, 0⟩ = .error (.malformedTime "PT1.5S out of range")) := by
  have hleap : Instant.nanos ⟨1483228799, 1500000000⟩ < 2 * nanosPerSecond := by decide
  have hlast : Instant.nanos ⟨Instant.lastSecond, 0⟩ < 2 * nanosPerSecond := by decide
  refine ⟨⟨hleap, resolvesExactly hleap, ?_⟩, hlast, resolvesExactly hlast, ?_⟩
  · decide +kernel
  · decide +kernel

end SeriesQuery.TimeExpr
