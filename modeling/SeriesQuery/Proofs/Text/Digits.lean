import Mathlib.Algebra.Ring.Int.Defs
import Mathlib.Algebra.Ring.Nat
import Mathlib.Data.List.Induction
import Mathlib.Data.Nat.Init
import SeriesQuery.Text.Numeral

/-!
# Runs of digits

A run of digits is what `padded` writes: `padded_natOfDigits` says that the run of a given length is
determined by its value. In front of a text, numbers of one width decide the order by their values
(`padded_append_lt_iff`). A sign may stand in front of a run (`IsSign`); whatever reads on behind it is told by
`behindSign_eq_some_iff`.
-/

namespace SeriesQuery.Text

/-- The text is a run of ASCII digits, possibly empty. -/
def IsDigits (cs : List Char) : Prop := ∀ c ∈ cs, c.isDigit = true

/-- What is taken while there are digits is digits. -/
theorem isDigits_takeWhile (cs : List Char) : IsDigits (cs.takeWhile Char.isDigit) :=
  fun _ h => List.all_eq_true.1 List.all_takeWhile _ h

/-! ## The value of a run -/

/-- One more digit behind makes the number ten times as large, and adds to it. -/
theorem natOfDigits_concat (ds : List Char) (c : Char) :
    natOfDigits (ds ++ [c]) = 10 * natOfDigits ds + digitValue c := by
  rw [natOfDigits, List.foldl_append, List.foldl_cons, List.foldl_nil, natOfDigits]

/-- A digit is worth less than ten. -/
theorem digitValue_lt_ten {c : Char} (h : c.isDigit = true) : digitValue c < 10 := by
  have h9 : c.toNat ≤ '9'.toNat := (Char.isDigit_iff_toNat.1 h).2
  have e9 : '9'.toNat = 57 := rfl
  have e0 : '0'.toNat = 48 := rfl
  rw [digitValue]
  omega

/-- A number is smaller than the power of ten with as many zeros as it has digits. -/
theorem natOfDigits_lt_tenTo {ds : List Char} (hd : IsDigits ds) :
    natOfDigits ds < tenTo ds.length := by
  induction ds using List.reverseRecOn with
  | nil => exact Nat.one_pos
  | append_singleton ds c ih =>
      have hinit := ih fun d h => hd d (List.mem_append_left _ h)
      have hlt : digitValue c < 10 := digitValue_lt_ten (hd c (by simp))
      rw [natOfDigits_concat, List.length_append, List.length_singleton, tenTo_succ]
      omega

/-- A digit is the one of its value. -/
theorem digitChar_digitValue {c : Char} (h : c.isDigit = true) :
    (digitValue c).digitChar = c := by
  obtain ⟨h0, h9⟩ := Char.isDigit_iff_toNat.1 h
  have e9 : '9'.toNat = 57 := rfl
  have e0 : '0'.toNat = 48 := rfl
  have hlt : digitValue c < 10 := digitValue_lt_ten h
  apply Char.toNat_inj.1
  rw [Nat.toNat_digitChar_of_lt_ten hlt, digitValue]
  omega

/-- One more digit at the end multiplies the number by ten. -/
theorem padded_succ {width n d : Nat} (hw : 0 < width) (hd : d < 10) :
    padded (width + 1) (10 * n + d) = padded width n ++ [d.digitChar] := by
  -- zero has a digit of its own, which is one of the leading zeros afterwards
  rcases Nat.eq_zero_or_pos n with rfl | hn
  · rw [Nat.mul_zero, Nat.zero_add, padded, padded, Nat.toDigits_of_lt_base hd,
      Nat.toDigits_zero, List.append_cancel_right_eq]
    obtain ⟨w, rfl⟩ : ∃ w, width = w + 1 := ⟨width - 1, by omega⟩
    exact List.replicate_succ'
  · rw [padded, padded, ← Nat.toDigits_append_toDigits (by decide) hn hd,
      Nat.toDigits_of_lt_base hd, List.length_append, List.length_singleton,
      Nat.add_sub_add_right, List.append_assoc]

/-- A run of digits is its value, written with as many places. -/
theorem padded_natOfDigits {ds : List Char} (hd : IsDigits ds) (hne : ds ≠ []) :
    padded ds.length (natOfDigits ds) = ds := by
  induction ds using List.reverseRecOn with
  | nil => exact absurd rfl hne
  | append_singleton ds c ih =>
      have hc : c.isDigit = true := hd c (by simp)
      have hlt : digitValue c < 10 := digitValue_lt_ten hc
      rw [natOfDigits_concat, List.length_append, List.length_singleton]
      by_cases hds : ds = []
      · subst hds
        rw [natOfDigits, List.foldl_nil, Nat.mul_zero, Nat.zero_add, padded,
          Nat.toDigits_of_lt_base hlt, digitChar_digitValue hc]
        rfl
      · have hinit : IsDigits ds := fun d h => hd d (List.mem_append_left _ h)
        rw [padded_succ (List.length_pos_iff.2 hds) hlt, ih hinit hds, digitChar_digitValue hc]

/-- A padded number is made of digits. -/
theorem isDigits_padded (width n : Nat) : IsDigits (padded width n) := by
  intro c hc
  rcases List.mem_append.1 hc with h | h
  · rw [List.eq_of_mem_replicate h]
    rfl
  · exact Nat.isDigit_of_mem_toDigits (by decide) (by decide) h

/-! ## Back from the digits -/

/-- Digits are read like the numerals of the standard library. -/
theorem natOfDigits_eq_ofDigitChars (ds : List Char) : natOfDigits ds = Nat.ofDigitChars 10 ds 0 := rfl

/-- A padded number is read back. -/
theorem natOfDigits_padded (width n : Nat) : natOfDigits (padded width n) = n := by
  rw [natOfDigits_eq_ofDigitChars, padded, Nat.ofDigitChars_append, Nat.ofDigitChars_replicate_zero,
    Nat.mul_zero, Nat.ofDigitChars_ten_toDigits]

/-- Digits behind others count for themselves and move the others up. -/
theorem natOfDigits_append (ds es : List Char) :
    natOfDigits (ds ++ es) = natOfDigits ds * tenTo es.length + natOfDigits es := by
  induction es using List.reverseRecOn with
  | nil => rw [List.append_nil, List.length_nil, natOfDigits]; exact (Nat.mul_one _).symm
  | append_singleton es c ih =>
      rw [← List.append_assoc, natOfDigits_concat, ih, natOfDigits_concat, List.length_append,
        List.length_singleton, tenTo_succ]
      grind

/-- The digits of a number have its value. -/
theorem natOfDigits_toDigits (n : Nat) : natOfDigits (Nat.toDigits 10 n) = n := Nat.ofDigitChars_ten_toDigits

/-- The decimal digits of a number are digits. -/
theorem isDigits_toDigits (n : Nat) : IsDigits (Nat.toDigits 10 n) := by
  have hpadded := isDigits_padded 0 n
  rwa [padded, Nat.zero_sub, List.replicate_zero, List.nil_append] at hpadded

/-- Zeros in front of a run do not count. -/
theorem natOfDigits_replicate_append (k : Nat) (ds : List Char) :
    natOfDigits (List.replicate k '0' ++ ds) = natOfDigits ds := by
  rw [natOfDigits_eq_ofDigitChars, Nat.ofDigitChars_append, Nat.ofDigitChars_replicate_zero, Nat.mul_zero]
  rfl

/-- Zeros behind a run make its value greater by a power of ten. -/
theorem natOfDigits_append_replicate (ds : List Char) (k : Nat) :
    natOfDigits (ds ++ List.replicate k '0') = natOfDigits ds * tenTo k := by
  have hzero : natOfDigits (List.replicate k '0') = 0 := by
    rw [← List.append_nil (List.replicate k '0'), natOfDigits_replicate_append]
    rfl
  rw [natOfDigits_append, hzero, Nat.add_zero, List.length_replicate]

/-- Only zeros are dropped. -/
theorem exists_dropTrailingZeros_append (ds : List Char) :
    ∃ k, ds = dropTrailingZeros ds ++ List.replicate k '0' := by
  have hzeros : ∀ c ∈ ds.reverse.takeWhile (· == '0'), c = '0' :=
    fun c hc => eq_of_beq (List.all_eq_true.1 List.all_takeWhile c hc)
  refine ⟨(ds.reverse.takeWhile (· == '0')).length, ?_⟩
  rw [dropTrailingZeros, ← List.reverse_replicate, ← List.eq_replicate_of_mem hzeros, ← List.reverse_append,
    List.takeWhile_append_dropWhile, List.reverse_reverse]

/-- Zeros are digits. -/
theorem isDigits_replicate_zero (k : Nat) : IsDigits (List.replicate k '0') := by
  intro c hc
  rw [List.eq_of_mem_replicate hc]
  rfl

/-- A number that fits is padded to the width. -/
theorem length_padded {width n : Nat} (hw : 0 < width) (hn : n < tenTo width) :
    (padded width n).length = width := by
  have hle : (Nat.toDigits 10 n).length ≤ width := (Nat.length_toDigits_le_iff (by decide) hw).2 hn
  rw [padded, List.length_append, List.length_replicate]
  exact Nat.sub_add_cancel hle

/-- Numbers that fit their places are told apart by their digits. -/
theorem padded_inj {width m n : Nat} (h : padded width m = padded width n) : m = n := by
  rw [← natOfDigits_padded width m, h, natOfDigits_padded]

/-- A number starts with a digit. -/
theorem exists_padded_eq_cons (width n : Nat) :
    ∃ c cs, padded width n = c :: cs ∧ c.isDigit = true := by
  have hne : padded width n ≠ [] := List.append_ne_nil_of_right_ne_nil _ Nat.toDigits_ne_nil
  obtain ⟨c, cs, hcs⟩ := List.exists_cons_of_ne_nil hne
  exact ⟨c, cs, hcs, isDigits_padded width n c (hcs ▸ List.mem_cons_self)⟩

/-! ## The end of a run -/

/-- Digits are split off in front of a text that starts with none. -/
theorem takeWhile_isDigit_append {ds rest : List Char} (hd : IsDigits ds)
    (hrest : ∀ c ∈ rest.head?, c.isDigit = false) :
    (ds ++ rest).takeWhile Char.isDigit = ds ∧ (ds ++ rest).dropWhile Char.isDigit = rest := by
  rw [List.takeWhile_append_of_pos hd, List.dropWhile_append_of_pos hd]
  cases rest with
  | nil => exact ⟨List.append_nil ds, rfl⟩
  | cons c rest =>
      have hc : ¬ c.isDigit = true := by rw [hrest c rfl]; exact Bool.false_ne_true
      rw [List.takeWhile_cons_of_neg hc, List.dropWhile_cons_of_neg hc]
      exact ⟨List.append_nil ds, rfl⟩

/-- In front of a character that is no digit, a number is told apart by its digits. -/
theorem padded_append_cons_inj {width m n : Nat} {c : Char} {as bs : List Char}
    (hc : c.isDigit = false) (h : padded width m ++ c :: as = padded width n ++ c :: bs) :
    m = n ∧ as = bs := by
  have hsplit : ∀ k rest, (padded width k ++ c :: rest).takeWhile Char.isDigit = padded width k ∧
      (padded width k ++ c :: rest).dropWhile Char.isDigit = c :: rest := fun k rest =>
    takeWhile_isDigit_append (isDigits_padded width k) fun d hd => Option.some.inj hd ▸ hc
  have hdigits := (hsplit m as).1
  have hrest := (hsplit m as).2
  rw [h, (hsplit n bs).1] at hdigits
  rw [h, (hsplit n bs).2] at hrest
  exact ⟨(padded_inj hdigits).symm, (List.cons.inj hrest).2.symm⟩

/-! ## Order -/

/-- Digits are ordered like their values. -/
theorem digitChar_lt_iff {a b : Nat} (ha : a < 10) (hb : b < 10) :
    a.digitChar < b.digitChar ↔ a < b := by
  have hlt : a.digitChar < b.digitChar ↔ a.digitChar.toNat < b.digitChar.toNat := Iff.rfl
  rw [hlt, Nat.toNat_digitChar_of_lt_ten ha, Nat.toNat_digitChar_of_lt_ten hb, Nat.add_lt_add_iff_left]

/-- Digits of different value are different. -/
theorem digitChar_inj {a b : Nat} (ha : a < 10) (hb : b < 10) : a.digitChar = b.digitChar ↔ a = b := by
  rw [← Char.toNat_inj, Nat.toNat_digitChar_of_lt_ten ha, Nat.toNat_digitChar_of_lt_ten hb,
    Nat.add_left_cancel_iff]

theorem padded_one {n : Nat} (hn : n < 10) : padded 1 n = [n.digitChar] := by
  rw [padded, Nat.toDigits_of_lt_base hn]
  rfl

/-- Texts that start with numbers of the same width are in the order of the numbers first. -/
theorem padded_append_lt_iff {width m n : Nat} {as bs : List Char} (hw : 0 < width)
    (hm : m < tenTo width) (hn : n < tenTo width) :
    padded width m ++ as < padded width n ++ bs ↔ m < n ∨ (m = n ∧ as < bs) := by
  induction width, hw using Nat.le_induction generalizing m n as bs with
  | base =>
      rw [padded_one hm, padded_one hn, List.singleton_append, List.singleton_append,
        List.cons_lt_cons_iff, digitChar_lt_iff hm hn, digitChar_inj hm hn]
  | succ width hw ih =>
      obtain ⟨q, a, ha, rfl⟩ : ∃ q a, a < 10 ∧ m = 10 * q + a :=
        ⟨m / 10, m % 10, Nat.mod_lt m (by decide), (Nat.div_add_mod m 10).symm⟩
      obtain ⟨r, b, hb, rfl⟩ : ∃ r b, b < 10 ∧ n = 10 * r + b :=
        ⟨n / 10, n % 10, Nat.mod_lt n (by decide), (Nat.div_add_mod n 10).symm⟩
      rw [tenTo_succ] at hm hn
      rw [padded_succ hw ha, padded_succ hw hb, List.append_assoc, List.append_assoc,
        List.singleton_append, List.singleton_append, ih (by omega) (by omega), List.cons_lt_cons_iff,
        digitChar_lt_iff ha hb, digitChar_inj ha hb]
      -- the last digits decide where all the others agree
      constructor
      · rintro (hlt | ⟨rfl, hlt | ⟨rfl, hrest⟩⟩)
        · exact .inl (by omega)
        · exact .inl (by omega)
        · exact .inr ⟨rfl, hrest⟩
      · rintro (hlt | ⟨heq, hrest⟩)
        · obtain hfront | ⟨rfl, hlast⟩ : q < r ∨ (q = r ∧ a < b) := by omega
          · exact .inl hfront
          · exact .inr ⟨rfl, .inl hlast⟩
        · obtain ⟨rfl, rfl⟩ : q = r ∧ a = b := by omega
          exact .inr ⟨rfl, .inr ⟨rfl, hrest⟩⟩

/-! ## Numerals and signs -/

/-- A numeral is one or more digits. -/
theorem isNumeral_iff {cs : List Char} : isNumeral cs = true ↔ IsDigits cs ∧ cs ≠ [] := by
  rw [isNumeral, Bool.and_eq_true, Bool.not_eq_true', List.isEmpty_eq_false_iff, List.all_eq_true, and_comm]
  rfl

/-- A number is read from a numeral, as its value. -/
theorem readNat?_eq_some_iff {cs : List Char} {n : Nat} :
    readNat? cs = some n ↔ (IsDigits cs ∧ cs ≠ []) ∧ natOfDigits cs = n := by
  rw [readNat?, Option.ite_none_right_eq_some, isNumeral_iff, Option.some.injEq]

/-- What may stand in front of a number, and whether it is a minus sign. -/
inductive IsSign : List Char → Bool → Prop where
  | absent : IsSign [] false
  | plus : IsSign ['+'] false
  | minus : IsSign ['-'] true

/-- A reader that takes a sign first, and reads the rest by it. -/
def behindSign {α : Type} (read : Bool → List Char → Option α) : List Char → Option α
  | '+' :: rest => read false rest
  | '-' :: rest => read true rest
  | cs => read false cs

/-- If nothing is read at a sign, then the sign is split off from the rest in one way. -/
theorem behindSign_eq_some_iff {α : Type} {read : Bool → List Char → Option α} {cs : List Char} {a : α}
    (hread : ∀ rest, read false ('+' :: rest) = none ∧ read false ('-' :: rest) = none) :
    behindSign read cs = some a ↔
      ∃ sign negative rest, IsSign sign negative ∧ cs = sign ++ rest ∧ read negative rest = some a := by
  constructor
  · intro h
    unfold behindSign at h
    split at h
    · exact ⟨['+'], false, _, .plus, rfl, h⟩
    · exact ⟨['-'], true, _, .minus, rfl, h⟩
    · exact ⟨[], false, _, .absent, rfl, h⟩
  · rintro ⟨sign, negative, rest, hsign, rfl, h⟩
    cases hsign with
    | plus => exact h
    | minus => exact h
    | absent =>
        rw [List.nil_append]
        unfold behindSign
        split
        · exact absurd h (by rw [(hread _).1]; exact nofun)
        · exact absurd h (by rw [(hread _).2]; exact nofun)
        · exact h

/-- The text is a whole number: digits behind a sign, or without one. -/
inductive WritesInt : List Char → ℤ → Prop where
  | intro {sign digits : List Char} {negative : Bool} (signed : IsSign sign negative) (run : IsDigits digits)
      (nonempty : digits ≠ []) :
      WritesInt (sign ++ digits) (if negative then -natOfDigits digits else natOfDigits digits)

/-- The text is a natural number: digits behind a plus sign, or without one. -/
inductive WritesNat : List Char → ℕ → Prop where
  | intro {sign digits : List Char} (signed : IsSign sign false) (run : IsDigits digits) (nonempty : digits ≠ []) :
      WritesNat (sign ++ digits) (natOfDigits digits)

/-- The number of a numeral behind a sign. -/
def signedNat? (negative : Bool) (digits : List Char) : Option ℤ :=
  (readNat? digits).map fun n : ℕ => if negative then -n else n

/-- A signed number is read if it fits its width. -/
theorem readSigned?_eq_some_iff {bits : ℕ} {cs : List Char} {n : ℤ} :
    readSigned? bits cs = some n ↔ WritesInt cs n ∧ -2 ^ (bits - 1) ≤ n ∧ n < 2 ^ (bits - 1) := by
  have hfits : fitsSigned bits n = true ↔ -2 ^ (bits - 1) ≤ n ∧ n < 2 ^ (bits - 1) := by
    rw [fitsSigned, Bool.and_eq_true, decide_eq_true_eq, decide_eq_true_eq]
    exact_mod_cast Iff.rfl
  have hread : readSigned? bits cs =
      (behindSign signedNat? cs).bind fun n => if fitsSigned bits n then some n else none := by
    unfold readSigned?
    split
    · rfl
    · rfl
    · next hnoPlus hnoMinus =>
      rw [behindSign.eq_3 _ _ hnoPlus hnoMinus]
      rfl
  have hsign : ∀ rest, signedNat? false ('+' :: rest) = none ∧ signedNat? false ('-' :: rest) = none :=
    fun _ => ⟨rfl, rfl⟩
  rw [hread, Option.bind_eq_some_iff]
  simp only [behindSign_eq_some_iff hsign, signedNat?, Option.map_eq_some_iff, readNat?_eq_some_iff,
    Option.ite_none_right_eq_some, Option.some.injEq]
  constructor
  · rintro ⟨_, ⟨sign, negative, digits, signed, rfl, _, ⟨⟨hrun, hne⟩, rfl⟩, rfl⟩, hn, rfl⟩
    exact ⟨.intro signed hrun hne, hfits.1 hn⟩
  · rintro ⟨⟨signed, hrun, hne⟩, hn⟩
    exact ⟨_, ⟨_, _, _, signed, rfl, _, ⟨⟨hrun, hne⟩, rfl⟩, rfl⟩, hfits.2 hn, rfl⟩

/-- The number of a numeral that has no minus sign. -/
def unsignedNat? (negative : Bool) (digits : List Char) : Option ℕ := if negative then none else readNat? digits

/-- A number without minus sign is read where its digits are, if it fits. -/
theorem readUnsigned?_eq_some_iff {bits : ℕ} {cs : List Char} {n : ℕ} :
    readUnsigned? bits cs = some n ↔ WritesNat cs n ∧ n < 2 ^ bits := by
  have hread : readUnsigned? bits cs =
      (behindSign unsignedNat? cs).bind fun n => if fitsUnsigned bits n then some n else none := by
    unfold readUnsigned?
    split
    · rfl
    · next hnoPlus =>
      by_cases hminus : ∃ rest, cs = '-' :: rest
      · obtain ⟨rest, rfl⟩ := hminus
        rfl
      · rw [behindSign.eq_3 _ _ hnoPlus fun rest h => hminus ⟨rest, h⟩]
        rfl
  have hsign : ∀ rest, unsignedNat? false ('+' :: rest) = none ∧ unsignedNat? false ('-' :: rest) = none :=
    fun _ => ⟨rfl, rfl⟩
  rw [hread, Option.bind_eq_some_iff]
  simp only [behindSign_eq_some_iff hsign, unsignedNat?, Option.ite_none_left_eq_some, readNat?_eq_some_iff,
    Option.ite_none_right_eq_some, Option.some.injEq]
  constructor
  · rintro ⟨_, ⟨sign, negative, digits, signed, rfl, hplus, ⟨hrun, hne⟩, rfl⟩, hn, rfl⟩
    rw [Bool.not_eq_true] at hplus
    subst hplus
    exact ⟨.intro signed hrun hne, of_decide_eq_true hn⟩
  · rintro ⟨⟨signed, hrun, hne⟩, hn⟩
    exact ⟨_, ⟨_, _, _, signed, rfl, Bool.false_ne_true, ⟨hrun, hne⟩, rfl⟩, decide_eq_true hn, rfl⟩

end SeriesQuery.Text
