import Mathlib.Algebra.Order.BigOperators.Group.List
import Mathlib.Algebra.Order.Floor.Semifield
import Mathlib.Data.Rat.Floor
import Mathlib.Tactic.FieldSimp
import SeriesQuery.Proofs.Outcome
import SeriesQuery.Proofs.Query.DurationGrammar

/-!
# The value of duration literals

What a duration literal is worth, told by its grammar and by exact fractions. No literal is lost by the
reader: groups follow each other in one way only (`readGroups?_eq_some_iff`), and the bounds on single
groups follow from the bound on the whole (`read?_eq_some_iff`).
-/

namespace SeriesQuery.Duration

open Text

/-- The value of the digits behind a point. -/
def fractionValue : List Char → ℚ
  | [] => 0
  | c :: cs => (digitValue c + fractionValue cs) / 10

/-- The group in nanoseconds, of its fraction eighteen digits, rounded down. -/
def Group.worth (g : Group) : ℕ :=
  natOfDigits g.whole * g.unit.nanos + ⌊fractionValue (g.fraction.take 18) * g.unit.nanos⌋₊

/-- The text is an unsigned literal of `n` nanoseconds: `0`, or groups and the sum of them. -/
inductive Measures : List Char → ℕ → Prop where
  | zero : Measures ['0'] 0
  | groups {gs : List Group} {cs : List Char} (nonempty : gs ≠ [])
      (written : Sequence Group.Writes gs cs) : Measures cs (gs.map Group.worth).sum

/-- The text is a literal of `n` nanoseconds, of any size. -/
inductive Denotes : List Char → ℤ → Prop where
  | bare {cs : List Char} {n : ℕ} : Measures cs n → Denotes cs n
  | plus {cs : List Char} {n : ℕ} : Measures cs n → Denotes ('+' :: cs) n
  | minus {cs : List Char} {n : ℕ} : Measures cs n → Denotes ('-' :: cs) (-n)

/-- The nanoseconds that a duration can have. -/
def InRange (n : ℤ) : Prop := -(twoTo 63 : ℤ) ≤ n ∧ n ≤ twoTo 63 - 1

/-! ## Fractions -/

/-- The first digit counts for the power of ten of its place. -/
theorem natOfDigits_cons (c : Char) (ds : List Char) :
    natOfDigits (c :: ds) = tenTo ds.length * digitValue c + natOfDigits ds := by
  have hzero : 10 * 0 + digitValue c = digitValue c := by rw [Nat.mul_zero, Nat.zero_add]
  rw [natOfDigits, List.foldl_cons, hzero]
  exact Nat.ofDigitChars_eq_ofDigitChars_zero

/-- A fraction is its digits over a power of ten. -/
theorem fractionValue_eq (ds : List Char) : fractionValue ds = natOfDigits ds / tenTo ds.length := by
  induction ds with
  | nil => exact (zero_div _).symm
  | cons c ds ih =>
      have hpos : (tenTo ds.length : ℚ) ≠ 0 := by
        exact_mod_cast (Nat.pow_pos (by decide) : 0 < tenTo ds.length).ne'
      rw [fractionValue, ih, natOfDigits_cons, List.length_cons, tenTo_succ]
      push_cast
      field_simp

/-- What a group is worth, in natural numbers. -/
theorem Group.worth_eq (g : Group) :
    g.worth = natOfDigits g.whole * g.unit.nanos +
      natOfDigits (g.fraction.take countedDigits) * g.unit.nanos /
        tenTo (g.fraction.take countedDigits).length := by
  rw [worth, fractionValue_eq, div_mul_eq_mul_div, ← Nat.cast_mul, Nat.floor_div_eq_div]
  rfl

/-- Every unit is longer than nothing. -/
theorem TimeUnit.nanos_pos (unit : TimeUnit) : 0 < unit.nanos := by
  cases unit <;> decide

/-- A group is refused only when it is longer than any duration: then alone its whole part can need more
than 64 bits. -/
theorem Group.nanos?_eq_some_iff {g : Group} {n : ℕ} :
    g.nanos? = some n ↔ g.worth ≤ greatest ∧ g.worth = n := by
  have hwhole : natOfDigits g.whole ≤ g.worth :=
    (Nat.le_mul_of_pos_right _ g.unit.nanos_pos).trans (Nat.le_add_right _ _)
  have hlt : greatest < twoTo 64 := by decide
  simp only [nanos?, ← worth_eq, Option.ite_none_right_eq_some, Option.some.injEq, fitsUnsigned,
    decide_eq_true_eq]
  constructor
  · rintro ⟨⟨-, hle⟩, hn⟩
    exact ⟨hle, hn⟩
  · rintro ⟨hle, hn⟩
    exact ⟨⟨hwhole.trans_lt (hle.trans_lt hlt), hle⟩, hn⟩

/-! ## No group is lost -/

/-- No unit starts like the number of a group. -/
theorem TimeUnit.head?_of_mem {unit : TimeUnit} {spelling : List Char}
    (h : spelling ∈ unit.spellings) (rest : List Char) :
    ∀ c ∈ (spelling ++ rest).head?, c.isDigit = false ∧ c ≠ '.' := by
  have hall : ∀ s ∈ unit.spellings, ∃ c cs, s = c :: cs ∧ c.isDigit = false ∧ c ≠ '.' := by
    cases unit <;> simp [spellings]
  obtain ⟨c, cs, rfl, hc⟩ := hall spelling h
  rintro d hd
  obtain rfl := Option.some.inj hd
  exact hc

/-- A unit is read whole. Only `m` could be mistaken, for the start of `ms`. -/
theorem TimeUnit.read?_spelling {unit : TimeUnit} {spelling rest : List Char}
    (h : spelling ∈ unit.spellings) (hrest : rest.head? ≠ some 's') :
    TimeUnit.read? (spelling ++ rest) = some (unit, rest) := by
  cases unit with
  | minute =>
      obtain rfl := List.mem_singleton.1 h
      cases rest with
      | nil => rfl
      | cons c rest =>
          have hc : c ≠ 's' := fun hc => hrest (hc ▸ rfl)
          simp [TimeUnit.read?, hc]
  | microsecond =>
      simp only [spellings, List.mem_cons, List.not_mem_nil, or_false] at h
      rcases h with rfl | rfl | rfl <;> rfl
  | nanosecond | millisecond | second | hour =>
      obtain rfl := List.mem_singleton.1 h
      rfl

/-- Without a point there is no fraction to read. -/
theorem Group.readFraction_of_head? {cs : List Char} (h : ∀ c ∈ cs.head?, c ≠ '.') :
    readFraction cs = ([], cs) := by
  unfold readFraction
  split
  · next rest => exact absurd rfl (h '.' rfl)
  · rfl

/-- Behind a point all digits are read. -/
theorem Group.readFraction_point {fraction rest : List Char} (hd : IsDigits fraction)
    (hrest : ∀ c ∈ rest.head?, c.isDigit = false) :
    readFraction ('.' :: (fraction ++ rest)) = (fraction, rest) :=
  Prod.ext (takeWhile_isDigit_append hd hrest).1 (takeWhile_isDigit_append hd hrest).2

/-- A group is read when its parts are. -/
theorem Group.read?_of_parts {cs whole fraction tail rest : List Char} {unit : TimeUnit}
    (hwhole : cs.takeWhile Char.isDigit = whole)
    (hfraction : readFraction (cs.dropWhile Char.isDigit) = (fraction, tail))
    (hne : whole ≠ [] ∨ fraction ≠ []) (hunit : TimeUnit.read? tail = some (unit, rest)) :
    Group.read? cs = some (⟨whole, fraction, unit⟩, rest) := by
  have hempty : (whole.isEmpty && fraction.isEmpty) = false := by
    rw [Bool.and_eq_false_iff, List.isEmpty_eq_false_iff, List.isEmpty_eq_false_iff]
    exact hne
  simp only [read?, hwhole, hfraction, hempty, hunit]
  rfl

/-- A group is read whole, whatever follows it but an `s`. -/
theorem Group.read?_of_writes {g : Group} {front rest : List Char} (h : g.Writes front)
    (hrest : rest.head? ≠ some 's') : Group.read? (front ++ rest) = some (g, rest) := by
  rcases h with h | h
  · obtain @⟨whole, spelling, unit, hwhole, hne, hspell⟩ := h
    have hhead := TimeUnit.head?_of_mem hspell rest
    have hscan := takeWhile_isDigit_append hwhole fun c hc => (hhead c hc).1
    rw [List.append_assoc]
    apply Group.read?_of_parts hscan.1 _ (.inl hne) (TimeUnit.read?_spelling hspell hrest)
    rw [hscan.2, readFraction_of_head? fun c hc => (hhead c hc).2]
  · obtain @⟨whole, fraction, spelling, unit, hwhole, hfraction, hne, hspell⟩ := h
    have hhead := TimeUnit.head?_of_mem hspell rest
    have hpoint : ∀ c ∈ ('.' :: (fraction ++ (spelling ++ rest))).head?, c.isDigit = false := by
      rintro c hc
      obtain rfl := Option.some.inj hc
      rfl
    have hscan := takeWhile_isDigit_append hwhole hpoint
    rw [List.append_assoc, List.cons_append, List.append_assoc]
    apply Group.read?_of_parts hscan.1 _ hne (TimeUnit.read?_spelling hspell hrest)
    rw [hscan.2, readFraction_point hfraction fun c hc => (hhead c hc).1]

/-- A group starts with a digit or a point. -/
theorem Group.Writes.exists_cons {g : Group} {front : List Char} (h : g.Writes front) :
    ∃ c cs, front = c :: cs ∧ (c.isDigit = true ∨ c = '.') := by
  rcases h with ⟨hwhole, hne, -⟩ | @⟨whole, _, _, _, hwhole, -, -, -⟩
  · obtain ⟨c, cs, rfl⟩ := List.exists_cons_of_ne_nil hne
    exact ⟨c, _, rfl, .inl (hwhole c (by simp))⟩
  · cases whole with
    | nil => exact ⟨'.', _, rfl, .inr rfl⟩
    | cons c cs => exact ⟨c, _, rfl, .inl (hwhole c (by simp))⟩

/-- What stands in front of groups is a digit or a point: no sign, and not the second letter of a unit. -/
theorem Sequence.head?_cases {gs : List Group} {cs : List Char} (h : Sequence Group.Writes gs cs) :
    ∀ c ∈ cs.head?, c.isDigit = true ∨ c = '.' := by
  cases h with
  | nil => exact fun _ hc => nomatch hc
  | cons hg _ =>
      obtain ⟨c, cs, rfl, hc⟩ := hg.exists_cons
      rintro d hd
      obtain rfl := Option.some.inj hd
      exact hc

/-- A text is groups in one way at most, and the reader finds it. -/
theorem readGroups?_eq_some_iff {cs : List Char} {gs : List Group} :
    readGroups? cs = some gs ↔ Sequence Group.Writes gs cs := by
  refine ⟨sequence_of_readGroups?, fun h => ?_⟩
  induction h with
  | nil =>
      rw [readGroups?]
      exact if_pos rfl
  | @cons g gs front rest hg hgs ih =>
      have hrest : rest.head? ≠ some 's' := fun hs => by
        rcases hgs.head?_cases 's' hs with hd | hd <;> exact absurd hd (by decide)
      obtain ⟨c, cs, hfront, -⟩ := hg.exists_cons
      rw [readGroups?, if_neg (by simp [hfront])]
      split
      · next hread =>
        rw [Group.read?_of_writes hg hrest] at hread
        cases hread
      · next g' rest' hread =>
        obtain ⟨rfl, rfl⟩ : g = g' ∧ rest = rest' := by
          simpa using (Group.read?_of_writes hg hrest).symm.trans hread
        rw [ih]
        rfl

/-! ## Totals -/

/-- The groups have values exactly when none is longer than any duration. -/
theorem mapM_nanos?_eq_some_iff {gs : List Group} {ns : List ℕ} :
    gs.mapM Group.nanos? = some ns ↔
      (∀ g ∈ gs, g.worth ≤ Group.greatest) ∧ gs.map Group.worth = ns :=
  Outcome.mapM_eq_some_iff fun _ _ => Group.nanos?_eq_some_iff

/-- Groups whose sum is not above the greatest duration are not above it either. -/
theorem worth_le_of_sum_le {gs : List Group} (h : (gs.map Group.worth).sum ≤ Group.greatest) :
    ∀ g ∈ gs, g.worth ≤ Group.greatest := fun _ hg =>
  (List.single_le_sum (fun _ _ => Nat.zero_le _) _ (List.mem_map_of_mem hg)).trans h

/-- Zero by itself has no unit. -/
theorem not_sequence_zero {gs : List Group} : ¬ Sequence Group.Writes gs ['0'] := fun h => by
  have hread : readGroups? ['0'] = none := by
    rw [readGroups?]
    rfl
  exact nomatch (readGroups?_eq_some_iff.2 h).symm.trans hread

/-- The magnitudes that are read: a bare zero, or groups, none longer than any duration. -/
theorem readMagnitude?_eq_some_iff {cs : List Char} {n : ℕ} :
    readMagnitude? cs = some n ↔ (cs = ['0'] ∧ n = 0) ∨
      ∃ gs, gs ≠ [] ∧ Sequence Group.Writes gs cs ∧ (∀ g ∈ gs, g.worth ≤ Group.greatest) ∧
        (gs.map Group.worth).sum = n := by
  rw [readMagnitude?]
  split
  · next hzero =>
    subst hzero
    constructor
    · exact fun h => .inl ⟨rfl, (Option.some.inj h).symm⟩
    · rintro (⟨-, rfl⟩ | ⟨gs, -, hgs, -⟩)
      · rfl
      · exact absurd hgs not_sequence_zero
  · next hzero =>
    simp only [Option.bind_eq_bind, Option.bind_eq_some_iff, Option.ite_none_left_eq_some,
      List.isEmpty_iff, readGroups?_eq_some_iff, mapM_nanos?_eq_some_iff, ← List.sum_eq_foldl_nat,
      Option.pure_def, Option.some.injEq, hzero, false_and, false_or]
    constructor
    · rintro ⟨gs, hgs, hne, _, ⟨hle, rfl⟩, hn⟩
      exact ⟨gs, hne, hgs, hle, hn⟩
    · rintro ⟨gs, hne, hgs, hle, hn⟩
      exact ⟨gs, hgs, hne, _, ⟨hle, rfl⟩, hn⟩

/-- Where the total is no longer than a duration, the bound on the groups has no effect. -/
theorem readMagnitude?_iff_measures {cs : List Char} {n : ℕ} (hn : n ≤ Group.greatest) :
    readMagnitude? cs = some n ↔ Measures cs n := by
  rw [readMagnitude?_eq_some_iff]
  constructor
  · rintro (⟨rfl, rfl⟩ | ⟨gs, hne, hgs, -, rfl⟩)
    · exact .zero
    · exact .groups hne hgs
  · rintro (_ | ⟨hne, hgs⟩)
    · exact .inl ⟨rfl, rfl⟩
    · exact .inr ⟨_, hne, hgs, worth_le_of_sum_le hn, rfl⟩

/-! ## Signs -/

/-- A magnitude starts with a digit or a point, never with a sign. -/
theorem Measures.head?_cases {cs : List Char} {n : ℕ} (h : Measures cs n) :
    ∀ c ∈ cs.head?, c.isDigit = true ∨ c = '.' := by
  cases h with
  | zero =>
      rintro c hc
      obtain rfl := Option.some.inj hc
      exact .inl rfl
  | groups _ hgs => exact hgs.head?_cases

/-- The integer of a sign, `true` for minus, and a magnitude. -/
def signed (negative : Bool) (magnitude : ℕ) : ℤ := if negative then -magnitude else magnitude

/-- At most one sign is taken off, and what is left has none. -/
theorem denotes_iff {cs : List Char} {n : ℤ} :
    Denotes cs n ↔ ∃ m, Measures (readSign cs).2 m ∧ signed (readSign cs).1 m = n := by
  constructor
  · rintro (@⟨_, m, h⟩ | @⟨_, m, h⟩ | @⟨_, m, h⟩)
    · have hbare : readSign cs = (false, cs) := by
        unfold readSign
        split
        · exact absurd (h.head?_cases '-' rfl) (by decide)
        · exact absurd (h.head?_cases '+' rfl) (by decide)
        · rfl
      rw [hbare]
      exact ⟨m, h, rfl⟩
    · exact ⟨m, h, rfl⟩
    · exact ⟨m, h, rfl⟩
  · rintro ⟨m, h, rfl⟩
    unfold readSign at h ⊢
    split at h
    · exact .minus h
    · exact .plus h
    · exact .bare h

/-- A text is worth one number at most. -/
theorem Measures.unique {cs : List Char} {m n : ℕ} (hm : Measures cs m) (hn : Measures cs n) :
    m = n := by
  cases hm with
  | zero =>
      cases hn with
      | zero => rfl
      | groups _ hgs => exact absurd hgs not_sequence_zero
  | groups _ hgs =>
      cases hn with
      | zero => exact absurd hgs not_sequence_zero
      | groups _ hgs' =>
          obtain rfl := Option.some.inj
            ((readGroups?_eq_some_iff.2 hgs).symm.trans (readGroups?_eq_some_iff.2 hgs'))
          rfl

/-- A literal is worth one number. -/
theorem Denotes.unique {cs : List Char} {m n : ℤ} (hm : Denotes cs m) (hn : Denotes cs n) : m = n := by
  obtain ⟨a, ha, rfl⟩ := denotes_iff.1 hm
  obtain ⟨b, hb, rfl⟩ := denotes_iff.1 hn
  rw [ha.unique hb]

/-- A number in range is one that fits 64 bits. -/
theorem fitsSigned_iff {n : ℤ} : fitsSigned 64 n = true ↔ InRange n := by
  rw [fitsSigned, Bool.and_eq_true, decide_eq_true_iff, decide_eq_true_iff, InRange]
  exact and_congr_right fun _ => Int.le_sub_one_iff.symm

/-- The magnitude of a number in range is within the bound on groups. -/
theorem le_greatest_of_inRange {negative : Bool} {m : ℕ} (h : InRange (signed negative m)) :
    m ≤ Group.greatest := by
  obtain ⟨hlow, hhigh⟩ := h
  rw [Group.greatest]
  cases negative with
  | false =>
      rw [signed, if_neg Bool.false_ne_true] at hhigh
      omega
  | true =>
      rw [signed, if_pos rfl] at hlow
      omega

/-- The durations that are read are the literals in range, with what they denote. -/
theorem read?_eq_some_iff {cs : List Char} {d : Duration} :
    read? cs = some d ↔ Denotes cs d.nanos ∧ InRange d.nanos := by
  have hread : read? cs = some d ↔ ∃ m, readMagnitude? (readSign cs).2 = some m ∧
      InRange (signed (readSign cs).1 m) ∧ signed (readSign cs).1 m = d.nanos := by
    simp only [read?, Option.bind_eq_bind, Option.bind_eq_some_iff,
      Option.ite_none_right_eq_some, fitsSigned_iff, Option.some.injEq]
    refine exists_congr fun m => and_congr_right fun _ => and_congr_right fun _ => ?_
    exact ⟨fun h => h ▸ rfl, fun h => congrArg Duration.mk h⟩
  rw [hread, denotes_iff]
  constructor
  · rintro ⟨m, hm, hrange, hd⟩
    have hle := le_greatest_of_inRange hrange
    exact ⟨⟨m, (readMagnitude?_iff_measures hle).1 hm, hd⟩, hd ▸ hrange⟩
  · rintro ⟨⟨m, hm, hd⟩, hrange⟩
    rw [← hd] at hrange
    have hle := le_greatest_of_inRange hrange
    exact ⟨m, (readMagnitude?_iff_measures hle).2 hm, hrange, hd⟩

/-- No duration is read exactly when no literal in range is written. -/
theorem read?_eq_none_iff {cs : List Char} :
    read? cs = none ↔ ∀ n, Denotes cs n → ¬ InRange n := by
  rw [Option.eq_none_iff_forall_ne_some]
  constructor
  · intro h n hn hrange
    exact h ⟨n⟩ (read?_eq_some_iff.2 ⟨hn, hrange⟩)
  · intro h d hd
    obtain ⟨hn, hrange⟩ := read?_eq_some_iff.1 hd
    exact h d.nanos hn hrange

end SeriesQuery.Duration
