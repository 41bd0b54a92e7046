import SeriesQuery.Proofs.Text.Digits
import SeriesQuery.Query.Duration

/-!
# The grammar of duration literals

What a duration literal looks like, apart from how it is read: groups of a decimal number and a unit, one
after the other. The main statements say that the reader accepts nothing else: a negative duration is a
minus sign and groups (`exists_groups_of_neg`), and a window is groups without a point
(`isWindow_of_parseWindow`). So a text with any other character is no duration
(`isLiteralChar_of_read?`).
-/

namespace SeriesQuery.Duration

open Text

/-- The ways to write the unit. -/
def TimeUnit.spellings : TimeUnit → List (List Char)
  | nanosecond => [['n', 's']]
  | microsecond => [['u', 's'], ['\u00b5', 's'], ['\u03bc', 's']]
  | millisecond => [['m', 's']]
  | second => [['s']]
  | minute => [['m']]
  | hour => [['h']]

/-- The text is `<digits><unit>`, with at least one digit. -/
inductive Group.WritesWhole : Group → List Char → Prop where
  | intro {whole spelling : List Char} {unit : TimeUnit} (digits : IsDigits whole)
      (nonempty : whole ≠ []) (spelled : spelling ∈ unit.spellings) :
      WritesWhole ⟨whole, [], unit⟩ (whole ++ spelling)

/-- The text is `<digits>.<digits><unit>`, with at least one digit. -/
inductive Group.WritesPointed : Group → List Char → Prop where
  | intro {whole fraction spelling : List Char} {unit : TimeUnit} (digits : IsDigits whole)
      (fractionDigits : IsDigits fraction) (nonempty : whole ≠ [] ∨ fraction ≠ [])
      (spelled : spelling ∈ unit.spellings) :
      WritesPointed ⟨whole, fraction, unit⟩ (whole ++ '.' :: (fraction ++ spelling))

/-- The text is a decimal number, with or without a fraction, and a unit. -/
def Group.Writes (g : Group) (cs : List Char) : Prop := g.WritesWhole cs ∨ g.WritesPointed cs

/-- The text is the groups one after the other, each of them written as `Form` says. -/
inductive Sequence (Form : Group → List Char → Prop) : List Group → List Char → Prop where
  | nil : Sequence Form [] []
  | cons {g : Group} {gs : List Group} {front rest : List Char} :
      Form g front → Sequence Form gs rest → Sequence Form (g :: gs) (front ++ rest)

/-- The text is one or more groups, with or without fractions. -/
def IsMagnitude (cs : List Char) : Prop := ∃ gs, gs ≠ [] ∧ Sequence Group.Writes gs cs

/-- The text is one or more groups of the form `<digits><unit>`. -/
def IsWindow (cs : List Char) : Prop := ∃ gs, gs ≠ [] ∧ Sequence Group.WritesWhole gs cs

/-- A sequence stays one when the form of its groups is changed, as far as its own characters go. -/
theorem Sequence.imp {F G : Group → List Char → Prop} {gs : List Group} {cs : List Char}
    (h : Sequence F gs cs) (hFG : ∀ g front, (∀ c ∈ front, c ∈ cs) → F g front → G g front) :
    Sequence G gs cs := by
  induction h with
  | nil => exact .nil
  | cons hg _ ih =>
      refine .cons (hFG _ _ (fun c hc => List.mem_append_left _ hc) hg) (ih ?_)
      exact fun g front hsub => hFG g front fun c hc => List.mem_append_right _ (hsub c hc)

/-- What holds of the characters of each group holds of the characters of all of them. -/
theorem Sequence.forall_mem {F : Group → List Char → Prop} {P : Char → Prop} {gs : List Group}
    {cs : List Char} (h : Sequence F gs cs) (hF : ∀ g front, F g front → ∀ c ∈ front, P c) :
    ∀ c ∈ cs, P c := by
  induction h with
  | nil => exact fun _ hc => absurd hc List.not_mem_nil
  | cons hg _ ih =>
      intro c hc
      exact (List.mem_append.1 hc).elim (hF _ _ hg c) (ih c)

/-- A group with a fraction would put a point into the text. -/
theorem Sequence.whole_of_no_point {gs : List Group} {cs : List Char}
    (h : Sequence Group.Writes gs cs) (hpoint : '.' ∉ cs) : Sequence Group.WritesWhole gs cs := by
  apply h.imp
  intro g front hsub hg
  apply hg.resolve_right
  rintro ⟨-, -, -, -⟩
  exact hpoint (hsub '.' (by simp))

/-! ## The reader accepts only the grammar -/

/-- A unit is read from one of its spellings. -/
theorem TimeUnit.exists_spelling_of_read? {cs rest : List Char} {unit : TimeUnit}
    (h : TimeUnit.read? cs = some (unit, rest)) :
    ∃ spelling ∈ unit.spellings, cs = spelling ++ rest := by
  unfold TimeUnit.read? at h
  split at h <;> simp only [Option.some.injEq, Prod.mk.injEq, reduceCtorEq] at h <;>
    (obtain ⟨rfl, rfl⟩ := h; simp [TimeUnit.spellings])

/-- The fraction that is read stands behind a point, or there is none. -/
theorem Group.readFraction_cases (cs : List Char) :
    (Group.readFraction cs = ([], cs)) ∨
      ∃ fraction rest, Group.readFraction cs = (fraction, rest) ∧ IsDigits fraction ∧
        cs = '.' :: (fraction ++ rest) := by
  unfold Group.readFraction
  split
  · next rest =>
    refine .inr ⟨_, _, rfl, isDigits_takeWhile rest, ?_⟩
    rw [List.takeWhile_append_dropWhile]
  · exact .inl rfl

/-- What is read as a group from the front of a text writes the group. -/
theorem Group.exists_writes_of_read? {cs rest : List Char} {g : Group}
    (h : Group.read? cs = some (g, rest)) : ∃ front, g.Writes front ∧ cs = front ++ rest := by
  have hcs : cs.takeWhile Char.isDigit ++ cs.dropWhile Char.isDigit = cs :=
    List.takeWhile_append_dropWhile
  have hwhole : IsDigits (cs.takeWhile Char.isDigit) := isDigits_takeWhile cs
  simp only [Group.read?, Option.ite_none_left_eq_some, Bool.and_eq_true, List.isEmpty_iff,
    not_and_or, Option.map_eq_some_iff, Prod.mk.injEq, Prod.exists] at h
  obtain ⟨hne, unit, tail, hunit, rfl, rfl⟩ := h
  obtain ⟨spelling, hspell, hrest⟩ := TimeUnit.exists_spelling_of_read? hunit
  rcases Group.readFraction_cases (cs.dropWhile Char.isDigit) with hf | ⟨fraction, rest, hf, hd, heq⟩
  · rw [hf] at hne hrest ⊢
    refine ⟨_, .inl (.intro hwhole (hne.resolve_right fun h => h rfl) hspell), ?_⟩
    rw [List.append_assoc, ← hrest, hcs]
  · rw [hf] at hne hrest ⊢
    refine ⟨_, .inr (.intro hwhole hd hne hspell), ?_⟩
    dsimp only at hrest
    rw [List.append_assoc, List.cons_append, List.append_assoc, ← hrest, ← heq, hcs]

/-- Groups that are read stand one after the other in the text. -/
theorem sequence_of_readGroups? {cs : List Char} {gs : List Group}
    (h : readGroups? cs = some gs) : Sequence Group.Writes gs cs := by
  fun_induction readGroups? cs generalizing gs with
  | case1 cs hnil =>
      rw [← Option.some.inj h, List.isEmpty_iff.1 hnil]
      exact .nil
  | case2 => exact nomatch h
  | case3 cs _ g rest hread _ ih =>
      obtain ⟨tail, htail, rfl⟩ := Option.map_eq_some_iff.1 h
      obtain ⟨front, hfront, rfl⟩ := Group.exists_writes_of_read? hread
      exact .cons hfront (ih htail)

/-- A magnitude is read from a bare zero or from groups. -/
theorem readMagnitude?_cases {cs : List Char} {magnitude : Nat}
    (h : readMagnitude? cs = some magnitude) : (cs = ['0'] ∧ magnitude = 0) ∨ IsMagnitude cs := by
  simp only [readMagnitude?] at h
  split at h
  · next h0 => exact .inl ⟨h0, (Option.some.inj h).symm⟩
  · simp only [Option.bind_eq_bind, Option.bind_eq_some_iff, Option.ite_none_left_eq_some,
      List.isEmpty_iff] at h
    obtain ⟨gs, hread, hne, -⟩ := h
    exact .inr ⟨gs, hne, sequence_of_readGroups? hread⟩

/-- A duration is a magnitude behind a minus sign, behind a plus sign, or alone. -/
theorem exists_magnitude_of_read? {cs : List Char} {d : Duration} (h : read? cs = some d) :
    ∃ body magnitude, readMagnitude? body = some magnitude ∧
      ((cs = '-' :: body ∧ d.nanos = -magnitude) ∨
        ((cs = '+' :: body ∨ cs = body) ∧ d.nanos = magnitude)) := by
  simp only [read?, Option.bind_eq_bind, Option.bind_eq_some_iff,
    Option.ite_none_right_eq_some] at h
  obtain ⟨magnitude, hread, -, hd⟩ := h
  obtain rfl := Option.some.inj hd
  refine ⟨_, magnitude, hread, ?_⟩
  unfold readSign
  split
  · exact .inl ⟨rfl, rfl⟩
  · exact .inr ⟨.inl rfl, rfl⟩
  · exact .inr ⟨.inr rfl, rfl⟩

/-- A negative duration is a minus sign and groups. -/
theorem exists_groups_of_neg {cs : List Char} {d : Duration} (h : read? cs = some d)
    (hneg : d.nanos < 0) : ∃ body, IsMagnitude body ∧ cs = '-' :: body := by
  obtain ⟨body, magnitude, hread, ⟨rfl, hd⟩ | ⟨-, hd⟩⟩ := exists_magnitude_of_read? h
  · rcases readMagnitude?_cases hread with ⟨-, rfl⟩ | hgroups
    · omega
    · exact ⟨body, hgroups, rfl⟩
  · omega

/-- A duration is parsed from what the reader accepts. -/
theorem parse_eq_ok_iff {text : String} {d : Duration} :
    parse text = .ok d ↔ read? text.toList = some d := by
  unfold parse
  split
  · next h => rw [h, Except.ok.injEq, Option.some.injEq]
  · next h => exact ⟨nofun, fun h' => nomatch h.symm.trans h'⟩

/-- A positive duration is one above zero. -/
theorem parsePositive_eq_ok_iff {text : String} {d : Duration} :
    parsePositive text = .ok d ↔ read? text.toList = some d ∧ 0 < d.nanos := by
  rw [← parse_eq_ok_iff, parsePositive]
  cases parse text with
  | error e => exact ⟨nofun, fun h => nomatch h.1⟩
  | ok d' =>
      show (if 0 < d'.nanos then Except.ok d' else .error _) = _ ↔ _
      rw [Except.ok.injEq]
      split
      · next hpos => exact ⟨fun h => Except.ok.inj h ▸ ⟨rfl, hpos⟩, fun h => h.1 ▸ rfl⟩
      · next hpos => exact ⟨nofun, fun h => absurd (h.1 ▸ h.2) hpos⟩

/-- A window is a positive duration with neither a plus sign nor a point. -/
theorem parseWindow_eq_ok_iff {text : String} {d : Duration} :
    parseWindow text = .ok d ↔
      text.toList.head? ≠ some '+' ∧ '.' ∉ text.toList ∧ read? text.toList = some d ∧
        0 < d.nanos := by
  rw [← parsePositive_eq_ok_iff, ← and_assoc, ← not_or, parseWindow]
  split
  · next h => exact ⟨nofun, fun h' => absurd h h'.1⟩
  · next h => exact ⟨fun h' => ⟨h, h'⟩, And.right⟩

/-- A window is groups of the form `<digits><unit>`: the signs, the bare zero and the fractions that
durations may have are refused. -/
theorem isWindow_of_parseWindow {text : String} {d : Duration} (h : parseWindow text = .ok d) :
    IsWindow text.toList := by
  obtain ⟨hplus, hpoint, hread, hpos⟩ := parseWindow_eq_ok_iff.1 h
  obtain ⟨body, magnitude, hbody, ⟨-, hd⟩ | ⟨hcs | hcs, hd⟩⟩ := exists_magnitude_of_read? hread
  · omega
  · rw [hcs] at hplus
    exact absurd rfl hplus
  · rcases readMagnitude?_cases hbody with ⟨-, rfl⟩ | ⟨gs, hne, hgs⟩
    · omega
    · rw [← hcs] at hgs
      exact ⟨gs, hne, hgs.whole_of_no_point hpoint⟩

/-! ## Characters -/

/-- The characters of duration literals. -/
def isLiteralChar (c : Char) : Bool :=
  c.isDigit || c ∈ ['+', '-', '.', 'n', 'u', '\u00b5', '\u03bc', 'm', 's', 'h']

/-- The letters of a unit may stand in a literal. -/
theorem TimeUnit.isLiteralChar_of_mem {unit : TimeUnit} {spelling : List Char}
    (h : spelling ∈ unit.spellings) : ∀ c ∈ spelling, isLiteralChar c = true := by
  have hall : (unit.spellings.all fun s => s.all isLiteralChar) = true := by cases unit <;> decide
  exact List.all_eq_true.1 (List.all_eq_true.1 hall spelling h)

/-- Digits may stand in a literal. -/
theorem isLiteralChar_of_isDigits {cs : List Char} (h : IsDigits cs) :
    ∀ c ∈ cs, isLiteralChar c = true := by
  intro c hc
  rw [isLiteralChar, h c hc]
  rfl

/-- All characters of a group may stand in a literal. -/
theorem Group.Writes.isLiteralChar {g : Group} {cs : List Char} (h : g.Writes cs) :
    ∀ c ∈ cs, isLiteralChar c = true := by
  rcases h with ⟨hwhole, -, hunit⟩ | ⟨hwhole, hfraction, -, hunit⟩
  · exact List.forall_mem_append.2
      ⟨isLiteralChar_of_isDigits hwhole, TimeUnit.isLiteralChar_of_mem hunit⟩
  · refine List.forall_mem_append.2 ⟨isLiteralChar_of_isDigits hwhole, ?_⟩
    refine List.forall_mem_cons.2 ⟨by decide, List.forall_mem_append.2 ?_⟩
    exact ⟨isLiteralChar_of_isDigits hfraction, TimeUnit.isLiteralChar_of_mem hunit⟩

/-- A duration has no other characters. -/
theorem isLiteralChar_of_read? {cs : List Char} {d : Duration} (h : read? cs = some d) :
    ∀ c ∈ cs, isLiteralChar c = true := by
  obtain ⟨body, magnitude, hmagnitude, hsign⟩ := exists_magnitude_of_read? h
  have hbody : ∀ c ∈ body, isLiteralChar c = true := by
    rcases readMagnitude?_cases hmagnitude with ⟨rfl, -⟩ | ⟨gs, -, hgs⟩
    · exact List.forall_mem_singleton.2 (by decide)
    · exact hgs.forall_mem fun g front hg => hg.isLiteralChar
  rcases hsign with ⟨rfl, -⟩ | ⟨rfl | rfl, -⟩
  · exact List.forall_mem_cons.2 ⟨by decide, hbody⟩
  · exact List.forall_mem_cons.2 ⟨by decide, hbody⟩
  · exact hbody

end SeriesQuery.Duration
