import SeriesQuery.Json.Text

/-!
# Written strings are read back

Each character is written plain, with a short escape or with four hexadecimal digits (`writeChar_cases`),
and each of the three is read back as the character. Two escapes with hexadecimal digits side by side are
read as one when they are a surrogate pair, so what follows such an escape matters: `NoBrokenUnit`.
-/

namespace SeriesQuery.JsonText

/-- The text does not begin with an escape by hexadecimal digits that are none. -/
def NoBrokenUnit (cs : List Char) : Prop :=
  ∀ a b c d rest, cs = '\\' :: 'u' :: a :: b :: c :: d :: rest → unit? a b c d ≠ none

/-! ## How a character is written -/

/-- The escape of a control character holds its number. -/
theorem exists_fourHex {n : Nat} (h : n < 0x20) :
    ∃ a b c d, fourHex n = [a, b, c, d] ∧ unit? a b c d = some n := by
  have hall : ∀ n < 0x20, fourHex n = ['0', '0', Nat.digitChar (n / 16), Nat.digitChar (n % 16)] ∧
      unit? '0' '0' (Nat.digitChar (n / 16)) (Nat.digitChar (n % 16)) = some n := by
    decide +kernel
  exact ⟨_, _, _, _, hall n h⟩

/-- A character is written plain, with a letter or with its number. -/
theorem writeChar_cases (c : Char) :
    (writeChar c = [c] ∧ c ≠ '\"' ∧ c ≠ '\\' ∧ ¬ c.toNat < 0x20) ∨
      (∃ e, writeChar c = ['\\', e] ∧ e ≠ 'u' ∧ escaped? e = some c) ∨
      ∃ a b d e, writeChar c = ['\\', 'u', a, b, d, e] ∧ unit? a b d e = some c.toNat ∧
        c.toNat < 0x20 := by
  unfold writeChar
  split
  case h_8 hquote hbackslash _ _ _ _ _ =>
      split
      · next hcontrol =>
        obtain ⟨a, b, d, e, hdigits, hunit⟩ := exists_fourHex hcontrol
        exact .inr (.inr ⟨a, b, d, e, by rw [hdigits]; rfl, hunit, hcontrol⟩)
      · next hcontrol => exact .inl ⟨rfl, hquote, hbackslash, hcontrol⟩
  all_goals exact .inr (.inl ⟨_, rfl, by decide, rfl⟩)

/-! ## How it is read -/

/-- A character that needs no escape is read as itself. -/
theorem read?_plain {c : Char} (hquote : c ≠ '\"') (hbackslash : c ≠ '\\') (hcontrol : ¬ c.toNat < 0x20)
    (before : Option (List Char)) (rest : List Char) :
    read? before (c :: rest) = read? (before.map (c :: ·)) rest := by
  rw [read?]
  · simp [hcontrol, hbackslash]
  all_goals simp_all

/-- A backslash with a letter is read as the character that the letter stands for. -/
theorem read?_letter {e c : Char} (hu : e ≠ 'u') (h : escaped? e = some c)
    (before : Option (List Char)) (rest : List Char) :
    read? before ('\\' :: e :: rest) = read? (before.map (c :: ·)) rest := by
  rw [read?]
  · simp [h]
  all_goals simp_all

/-- A character below the space is no half of a surrogate pair. -/
theorem not_surrogate {n : Nat} (h : n < 0x20) : isHigh n = false ∧ isLow n = false := by
  simp only [isHigh, isLow, Bool.and_eq_false_iff, decide_eq_false_iff_not]
  omega

/-- A control character is read from its four hexadecimal digits. -/
theorem read?_unit {a b d e c : Char} (h : unit? a b d e = some c.toNat) (hcontrol : c.toNat < 0x20)
    (before : Option (List Char)) {rest : List Char} (hrest : NoBrokenUnit rest) :
    read? before ('\\' :: 'u' :: a :: b :: d :: e :: rest) = read? (before.map (c :: ·)) rest := by
  obtain ⟨hhigh, hlow⟩ := not_surrogate hcontrol
  by_cases hnext : ∃ f g i j tail, rest = '\\' :: 'u' :: f :: g :: i :: j :: tail
  · -- the next escape is looked at too, but this one is no first half
    obtain ⟨f, g, i, j, tail, rfl⟩ := hnext
    obtain ⟨second, hsecond⟩ := Option.ne_none_iff_exists'.1 (hrest f g i j tail rfl)
    rw [read?, h, hsecond]
    simp [hhigh, hlow, Char.ofNat_toNat]
  · rw [read?]
    · simp [h, hhigh, hlow, Char.ofNat_toNat]
    · exact fun f g i j tail htail => hnext ⟨f, g, i, j, tail, htail⟩

/-- The first escape of a written string is not broken. -/
theorem noBrokenUnit_flatMap (cs rest : List Char) :
    NoBrokenUnit (cs.flatMap writeChar ++ '\"' :: rest) := by
  intro a b d e tail htail
  cases cs with
  | nil => simp at htail
  | cons c cs =>
      rw [List.flatMap_cons, List.append_assoc] at htail
      rcases writeChar_cases c with ⟨hwrite, -, hbackslash, -⟩ | ⟨e, hwrite, hu, -⟩ |
        ⟨a', b', d', e', hwrite, hunit, -⟩
      · simp [hwrite, hbackslash] at htail
      · simp [hwrite, hu] at htail
      · simp only [hwrite, List.cons_append, List.cons.injEq, true_and] at htail
        obtain ⟨rfl, rfl, rfl, rfl, -⟩ := htail
        simp [hunit]

/-- Written characters are read back one after the other. -/
theorem read?_flatMap (cs before rest : List Char) :
    read? (some before) (cs.flatMap writeChar ++ '\"' :: rest) =
      some (some (String.ofList (before.reverse ++ cs)), rest) := by
  induction cs generalizing before with
  | nil => simp [read?]
  | cons c cs ih =>
      have hread : read? (some before) (writeChar c ++ (cs.flatMap writeChar ++ '\"' :: rest)) =
          read? (some (c :: before)) (cs.flatMap writeChar ++ '\"' :: rest) := by
        rcases writeChar_cases c with ⟨hwrite, hquote, hbackslash, hcontrol⟩ | ⟨e, hwrite, hu, hletter⟩ |
          ⟨a, b, d, e, hwrite, hunit, hcontrol⟩
        · rw [hwrite]
          exact read?_plain hquote hbackslash hcontrol _ _
        · rw [hwrite]
          exact read?_letter hu hletter _ _
        · rw [hwrite]
          exact read?_unit hunit hcontrol _ (noBrokenUnit_flatMap cs rest)
      rw [List.flatMap_cons, List.append_assoc, hread, ih, List.reverse_cons, List.append_assoc,
        List.singleton_append]

/-- A written string is read back, whatever follows it. -/
theorem read?_write (text : String) (rest : List Char) :
    ∃ cs, write text = '\"' :: cs ∧ read? (some []) (cs ++ rest) = some (some text, rest) := by
  refine ⟨text.toList.flatMap writeChar ++ ['\"'], rfl, ?_⟩
  rw [List.append_assoc, List.singleton_append, read?_flatMap, List.reverse_nil, List.nil_append,
    String.ofList_toList]

end SeriesQuery.JsonText
