import SeriesQuery.Proofs.Query.DurationWords

/-!
# Windows

The width of a window is written in groups of digits and a unit, and nothing else. Its reader has no
grammar of its own: it turns down plus signs and points, reads the rest as a duration, and turns down what
is not positive. The three checks leave exactly the windows of a length in range (`parseWindow_of_isWidth`),
and every other text has the one reason that is its own (`classifiesWindows`).
-/

namespace SeriesQuery.Duration

open Text

variable {text : String} {d : Duration} {e : QueryError} {n : ℕ}

/-- The length of a group of digits and a unit, in nanoseconds. -/
def Group.span (g : Group) : ℕ := natOfDigits g.whole * g.unit.nanos

/-- The text is a window of `n` nanoseconds: groups of digits and a unit, and the sum of them. -/
inductive Spans : List Char → ℕ → Prop where
  | groups {gs : List Group} {cs : List Char} (nonempty : gs ≠ [])
      (written : Sequence Group.WritesWhole gs cs) : Spans cs (gs.map Group.span).sum

/-- The text is a window of a length that a duration can have. -/
structure IsWidth (text : String) (n : ℕ) : Prop where
  spans : Spans text.toList n
  pos : 1 ≤ n
  le : n ≤ twoTo 63 - 1

/-- The text has the form of a duration that is not positive, and neither a plus sign nor a point. -/
structure IsNotPositive (text : String) : Prop where
  no_plus : text.toList.head? ≠ some '+'
  no_point : '.' ∉ text.toList
  literal : ∃ n, Denotes text.toList n ∧ InRange n ∧ n ≤ 0

/-! ## Windows among the durations -/

/-- A group without a fraction is worth its whole part. -/
theorem Group.WritesWhole.worth_eq {g : Group} {cs : List Char} (h : g.WritesWhole cs) :
    g.worth = g.span := by
  obtain ⟨-, -, -⟩ := h
  rw [Group.worth, Group.span, List.take_nil, fractionValue, zero_mul, Nat.floor_zero, Nat.add_zero]

/-- Groups without fractions are worth their whole parts. -/
theorem Sequence.map_worth_eq {gs : List Group} {cs : List Char}
    (h : Sequence Group.WritesWhole gs cs) : gs.map Group.worth = gs.map Group.span := by
  induction h with
  | nil => rfl
  | cons hg _ ih => rw [List.map_cons, List.map_cons, hg.worth_eq, ih]

/-- A window is worth what its groups add up to. -/
theorem Spans.measures {cs : List Char} (h : Spans cs n) : Measures cs n := by
  obtain ⟨hne, hgs⟩ := h
  rw [← hgs.map_worth_eq]
  apply Measures.groups hne
  apply hgs.imp
  intro g front _ hg
  exact .inl hg

/-- Without a point there are no fractions, and the bare zero is not positive. -/
theorem Measures.spans {cs : List Char} (h : Measures cs n) (hpoint : '.' ∉ cs) (hpos : 0 < n) :
    Spans cs n := by
  cases h with
  | zero => exact absurd hpos (Nat.lt_irrefl 0)
  | groups hne hgs =>
      have hwhole := hgs.whole_of_no_point hpoint
      rw [hwhole.map_worth_eq]
      exact .groups hne hwhole

/-- No unit has a point. -/
theorem TimeUnit.point_not_mem {unit : TimeUnit} {spelling : List Char}
    (h : spelling ∈ unit.spellings) : '.' ∉ spelling := by
  have hall : ∀ s ∈ unit.spellings, '.' ∉ s := by cases unit <;> decide
  exact hall spelling h

/-- A window has no point. -/
theorem Spans.point_not_mem {cs : List Char} (h : Spans cs n) : '.' ∉ cs := by
  obtain ⟨-, hgs⟩ := h
  intro hpoint
  refine hgs.forall_mem (P := (· ≠ '.')) ?_ '.' hpoint rfl
  rintro g front ⟨hdigits, -, hspell⟩ c hc rfl
  rcases List.mem_append.1 hc with hc | hc
  · exact absurd (hdigits '.' hc) (by decide)
  · exact TimeUnit.point_not_mem hspell hc

/-- A window does not start with a plus sign. -/
theorem Spans.head?_ne_plus {cs : List Char} (h : Spans cs n) : cs.head? ≠ some '+' := by
  intro hplus
  rcases h.measures.head?_cases '+' hplus with hdigit | hpoint
  · exact absurd hdigit (by decide)
  · exact absurd hpoint (by decide)

/-! ## One outcome for each text -/

/-- A window is read as its total. -/
theorem parseWindow_of_isWidth (h : IsWidth text n) : parseWindow text = .ok ⟨n⟩ := by
  have hrange : InRange n := by
    have hle := h.le
    have hten : twoTo 63 = 9223372036854775808 := rfl
    rw [InRange]
    omega
  rw [parseWindow_eq_ok_iff, read?_eq_some_iff]
  exact ⟨h.spans.head?_ne_plus, h.spans.point_not_mem, ⟨.bare h.spans.measures, hrange⟩,
    Int.natCast_pos.2 h.pos⟩

/-- A duration above zero with neither a plus sign nor a point is a window. -/
theorem exists_isWidth_of_read? (hplus : text.toList.head? ≠ some '+') (hpoint : '.' ∉ text.toList)
    (hread : read? text.toList = some d) (hpos : 0 < d.nanos) :
    ∃ n : ℕ, IsWidth text n ∧ d.nanos = n := by
  obtain ⟨hdenotes, -, hle⟩ := read?_eq_some_iff.1 hread
  generalize hcs : text.toList = cs at hplus hpoint hdenotes
  generalize d.nanos = total at hdenotes hle hpos ⊢
  cases hdenotes with
  | @bare _ n h =>
      have hn : 1 ≤ n := Int.natCast_pos.1 hpos
      exact ⟨n, ⟨hcs ▸ h.spans hpoint hn, hn, by omega⟩, rfl⟩
  | plus => exact absurd rfl hplus
  | minus => omega

/-- A literal of the grammar that is zero or negative is refused as not positive. -/
theorem parseWindow_of_isNotPositive (h : IsNotPositive text) :
    parseWindow text = .error (.nonPositiveDuration text) := by
  obtain ⟨hplus, hpoint, n, hdenotes, hrange, hn⟩ := h
  have hparse : parse text = .ok ⟨n⟩ := parse_eq_ok_iff.2 (read?_eq_some_iff.2 ⟨hdenotes, hrange⟩)
  rw [parseWindow, if_neg (not_or.2 ⟨hplus, hpoint⟩), parsePositive, hparse]
  exact if_neg (not_lt.2 hn)

/-- What is no window is malformed, unless it is a duration that is not positive. -/
theorem parseWindow_of_not_isWidth (hwidth : ∀ n, ¬ IsWidth text n) (h : ¬ IsNotPositive text) :
    parseWindow text = .error (.malformedTime text) := by
  by_cases htests : text.toList.head? = some '+' ∨ '.' ∈ text.toList
  · exact if_pos htests
  · obtain ⟨hplus, hpoint⟩ := not_or.1 htests
    rw [parseWindow, if_neg htests, parsePositive]
    cases hread : read? text.toList with
    | none =>
        rw [parse_eq_error_iff.2 ⟨rfl, hread⟩]
        rfl
    | some d =>
        exfalso
        by_cases hpos : 0 < d.nanos
        · obtain ⟨n, hn, -⟩ := exists_isWidth_of_read? hplus hpoint hread hpos
          exact hwidth n hn
        · obtain ⟨hdenotes, hrange⟩ := read?_eq_some_iff.1 hread
          exact h ⟨hplus, hpoint, d.nanos, hdenotes, hrange, not_lt.1 hpos⟩

/-- Which texts are windows, of what width, and why any other is refused. -/
structure ClassifiesWindows (text : String) : Prop where
  /-- The windows in range are read, as the sum of their groups. -/
  ok_iff : ∀ d, parseWindow text = .ok d ↔ ∃ n : ℕ, IsWidth text n ∧ d.nanos = n
  /-- A duration that is not positive has a reason of its own, and all the rest is malformed. -/
  error_iff : ∀ e, parseWindow text = .error e ↔
    (e = .nonPositiveDuration text ∧ IsNotPositive text) ∨
      (e = .malformedTime text ∧ ¬ IsNotPositive text ∧ ∀ n, ¬ IsWidth text n)
  /-- The arithmetic behind it has room in machine words. -/
  words : readInWords text.toList = Halt.ofOption (read? text.toList)

/-- Each text is a window with its total, is not positive, or is malformed. -/
theorem classifiesWindows (h : text.utf8ByteSize < twoTo 63) : ClassifiesWindows text where
  ok_iff := by
    intro d
    constructor
    · intro hok
      obtain ⟨hplus, hpoint, hread, hpos⟩ := parseWindow_eq_ok_iff.1 hok
      exact exists_isWidth_of_read? hplus hpoint hread hpos
    · rintro ⟨n, hn, hd⟩
      rw [parseWindow_of_isWidth hn, ← hd]
  error_iff := by
    intro e
    constructor
    · intro herror
      by_cases hnot : IsNotPositive text
      · rw [parseWindow_of_isNotPositive hnot] at herror
        exact .inl ⟨(Except.error.inj herror).symm, hnot⟩
      · have hwidth : ∀ n, ¬ IsWidth text n := by
          intro n hn
          rw [parseWindow_of_isWidth hn] at herror
          exact nomatch herror
        rw [parseWindow_of_not_isWidth hwidth hnot] at herror
        exact .inr ⟨(Except.error.inj herror).symm, hnot, hwidth⟩
    · rintro (⟨rfl, hnot⟩ | ⟨rfl, hnot, hwidth⟩)
      · exact parseWindow_of_isNotPositive hnot
      · exact parseWindow_of_not_isWidth hwidth hnot
  words := readInWords_eq ((length_toList_le text).trans_lt h)

/-- The widest window has no fraction, unlike the longest duration as it is usually written. -/
theorem classifiesWindows_widest :
    ("2562047h47m16s854ms775us807ns".utf8ByteSize < twoTo 63 ∧
        ClassifiesWindows "2562047h47m16s854ms775us807ns") ∧
      parseWindow "2562047h47m16s854ms775us807ns" = .ok ⟨9223372036854775807⟩ ∧
      IsWidth "2562047h47m16s854ms775us807ns" 9223372036854775807 := by
  have hsize : "2562047h47m16s854ms775us807ns".utf8ByteSize < twoTo 63 := by decide
  have hread : parseWindow "2562047h47m16s854ms775us807ns" = .ok ⟨9223372036854775807⟩ := by
    decide +kernel
  have hall : ClassifiesWindows "2562047h47m16s854ms775us807ns" := classifiesWindows hsize
  obtain ⟨n, hn, hd⟩ := (hall.ok_iff _).1 hread
  obtain rfl : n = 9223372036854775807 := (Int.natCast_inj.1 hd).symm
  exact ⟨⟨hsize, hall⟩, hread, hn⟩

end SeriesQuery.Duration
