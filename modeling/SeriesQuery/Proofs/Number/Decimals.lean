import SeriesQuery.Number.Numeral
import SeriesQuery.Proofs.Number.Rounding
import SeriesQuery.Proofs.Text.Digits

/-!
# Numbers as texts

What a decimal text stands for is a rational number (`IsDecimal`), and a text is read as the number nearest to
it. Together with the names of the infinities and of what is no number this is all that is read:
`parse?_eq_some_iff`. Numbers whose exponent is far outside the range of the format are rounded without a power
of ten, which is justified by `exists_nearestAt_ofDecimal`.
-/

namespace SeriesQuery.Binary64

open Interchange Text

/-! ## The grammar -/

/-- The number `n` that the digits of an exponent count for. Once it is 65536 or more, further digits do not
change it. -/
def CountsFor (digits : List Char) (n : ℕ) : Prop :=
  ∃ counted rest, digits = counted ++ rest ∧ natOfDigits counted = n ∧
    natOfDigits counted.dropLast < 65536 ∧ (rest = [] ∨ 65536 ≤ n)

/-- What stands behind the digits of a number: nothing, or the letter `e` and an exponent. -/
inductive IsExponent : List Char → ℤ → Prop where
  | absent : IsExponent [] 0
  | given {letter : Char} {sign digits : List Char} {negative : Bool} {n : ℕ}
      (lettered : letter = 'e' ∨ letter = 'E') (signed : IsSign sign negative) (run : IsDigits digits)
      (nonempty : digits ≠ []) (counts : CountsFor digits n) :
      IsExponent (letter :: (sign ++ digits)) (if negative then -n else n)

/-- The number that a decimal text without a sign stands for. It has a digit at least, before its point or
behind it. -/
inductive IsDecimal : List Char → ℚ → Prop where
  | whole {digits tail : List Char} {e : ℤ} (run : IsDigits digits) (nonempty : digits ≠ [])
      (exponent : IsExponent tail e) : IsDecimal (digits ++ tail) (natOfDigits digits * 10 ^ e)
  | pointed {digits part tail : List Char} {e : ℤ} (run : IsDigits (digits ++ part))
      (nonempty : digits ++ part ≠ []) (exponent : IsExponent tail e) :
      IsDecimal (digits ++ '.' :: (part ++ tail)) (natOfDigits (digits ++ part) * 10 ^ (e - part.length))

/-- The number of the given sign that a text without a sign is: the one nearest to its decimal, or the one with
its name. Capitals count as small letters in a name. -/
inductive WritesUnsigned (negative : Bool) : List Char → Binary64 → Prop where
  | decimal {cs : List Char} {q : ℚ} {x : Binary64} (decimal : IsDecimal cs q)
      (nearest : IsNearest negative q x) : WritesUnsigned negative cs x
  | infinity {cs : List Char} {x : Binary64}
      (name : cs.map Char.toLower = "inf".toList ∨ cs.map Char.toLower = "infinity".toList)
      (sign : double.negative x.bits.toNat = negative) (infinite : double.IsInfinite x.bits.toNat) :
      WritesUnsigned negative cs x
  | nan {cs : List Char} {x : Binary64} (name : cs.map Char.toLower = "nan".toList)
      (sign : double.negative x.bits.toNat = negative) (exponent : double.exponent x.bits.toNat = 2047)
      (fraction : double.fraction x.bits.toNat = 2 ^ 51) : WritesUnsigned negative cs x

/-- The text is the number, with an optional sign in front. -/
def Writes (cs : List Char) (x : Binary64) : Prop :=
  ∃ sign negative rest, IsSign sign negative ∧ cs = sign ++ rest ∧ WritesUnsigned negative rest x

/-! ## Exponents -/

variable {cs digits tail : List Char} {negative : Bool} {e : ℤ} {n : ℕ} {q : ℚ} {x : Binary64}

/-- One more digit counts as long as the exponent is below the bound. -/
theorem exponentOfDigits_concat (digits : List Char) (c : Char) :
    exponentOfDigits (digits ++ [c]) =
      if exponentOfDigits digits < 65536 then 10 * exponentOfDigits digits + digitValue c
      else exponentOfDigits digits := by
  rw [exponentOfDigits, List.foldl_append, List.foldl_cons, List.foldl_nil, exponentOfDigits]

/-- A number loses value with its last digit. -/
theorem natOfDigits_dropLast_le (digits : List Char) : natOfDigits digits.dropLast ≤ natOfDigits digits := by
  rcases List.eq_nil_or_concat digits with rfl | ⟨front, c, rfl⟩
  · exact le_rfl
  · rw [List.concat_eq_append, List.dropLast_concat, natOfDigits_concat]
    omega

/-- Short exponents count in full. -/
theorem exponentOfDigits_eq (h : natOfDigits digits.dropLast < 65536) :
    exponentOfDigits digits = natOfDigits digits := by
  induction digits using List.reverseRecOn with
  | nil => rfl
  | append_singleton digits c ih =>
      rw [List.dropLast_concat] at h
      have hinit := ih ((natOfDigits_dropLast_le digits).trans_lt h)
      rw [exponentOfDigits_concat, natOfDigits_concat, hinit, if_pos h]

/-- From 65536 on, digits do not change an exponent. -/
theorem exponentOfDigits_append (h : 65536 ≤ exponentOfDigits digits) (rest : List Char) :
    exponentOfDigits (digits ++ rest) = exponentOfDigits digits := by
  induction rest using List.reverseRecOn with
  | nil => rw [List.append_nil]
  | append_singleton rest c ih =>
      rw [← List.append_assoc, exponentOfDigits_concat, ih, if_neg (Nat.not_lt.2 h)]

/-- Digits count for the exponent that is made of them. -/
theorem countsFor_exponentOfDigits (digits : List Char) : CountsFor digits (exponentOfDigits digits) := by
  induction digits using List.reverseRecOn with
  | nil => exact ⟨[], [], rfl, rfl, by decide, .inl rfl⟩
  | append_singleton digits c ih =>
      obtain ⟨counted, rest, hsplit, hvalue, hshort, hrest⟩ := ih
      rw [exponentOfDigits_concat]
      by_cases hlt : exponentOfDigits digits < 65536
      · -- all digits have counted so far, and so does the next one
        obtain rfl := hrest.resolve_right (Nat.not_le.2 hlt)
        rw [List.append_nil] at hsplit
        subst hsplit
        rw [if_pos hlt, ← hvalue, ← natOfDigits_concat]
        refine ⟨digits ++ [c], [], (List.append_nil _).symm, rfl, ?_, .inl rfl⟩
        rw [List.dropLast_concat, hvalue]
        exact hlt
      · rw [if_neg hlt]
        exact ⟨counted, rest ++ [c], by rw [hsplit, List.append_assoc], hvalue, hshort,
          .inr (Nat.not_lt.1 hlt)⟩

/-- Digits count for one exponent only. -/
theorem countsFor_iff : CountsFor digits n ↔ exponentOfDigits digits = n := by
  constructor
  · rintro ⟨counted, rest, rfl, rfl, hshort, hrest⟩
    rw [← exponentOfDigits_eq hshort] at hrest ⊢
    rcases hrest with rfl | hlong
    · rw [List.append_nil]
    · exact exponentOfDigits_append hlong rest
  · rintro rfl
    exact countsFor_exponentOfDigits digits

/-- The magnitude of an exponent is read where there are digits, and is what they count for. -/
theorem magnitude?_eq_some_iff : readExponent?.magnitude? digits = some e ↔
    (IsDigits digits ∧ digits ≠ []) ∧ ∃ n : ℕ, CountsFor digits n ∧ n = e := by
  rw [readExponent?.magnitude?, Option.ite_none_right_eq_some, isNumeral_iff, Option.some.injEq]
  simp only [countsFor_iff, exists_eq_left']

/-- The exponent behind its letter is read behind its sign. -/
theorem readExponent?_cons (c : Char) (cs : List Char) : readExponent? (c :: cs) =
    if c = 'e' ∨ c = 'E' then
      behindSign (fun negative digits =>
        (readExponent?.magnitude? digits).map fun e => if negative then -e else e) cs
    else none := by
  have hplus : ∀ digits, (readExponent?.magnitude? digits).map (fun e => if false = true then -e else e) =
      readExponent?.magnitude? digits := fun digits => by simp only [Bool.false_eq_true, if_false, Option.map_id']
  unfold readExponent?
  dsimp only
  by_cases hletter : c = 'e' ∨ c = 'E'
  · rw [if_pos hletter, if_pos hletter]
    split
    · exact (hplus _).symm
    · rfl
    · next hnoPlus hnoMinus => rw [behindSign.eq_3 _ _ hnoPlus hnoMinus, hplus]
  · rw [if_neg hletter, if_neg hletter]

/-- An exponent is read exactly from the texts of the grammar. -/
theorem readExponent?_eq_some_iff : readExponent? cs = some e ↔ IsExponent cs e := by
  cases cs with
  | nil =>
      constructor
      · intro h
        obtain rfl := Option.some.inj h
        exact .absent
      · intro h
        cases h
        rfl
  | cons c cs =>
      rw [readExponent?_cons, Option.ite_none_right_eq_some, behindSign_eq_some_iff fun _ => ⟨rfl, rfl⟩]
      simp only [Option.map_eq_some_iff, magnitude?_eq_some_iff]
      constructor
      · rintro ⟨hletter, sign, negative, digits, hsign, rfl, _, ⟨⟨hrun, hne⟩, n, hcounts, rfl⟩, rfl⟩
        exact .given hletter hsign hrun hne hcounts
      · intro h
        cases h with
        | given hletter hsign hrun hne hcounts =>
            exact ⟨hletter, _, _, _, hsign, rfl, _, ⟨⟨hrun, hne⟩, _, hcounts, rfl⟩, rfl⟩

/-- An exponent does not start like the digits in front of it. -/
theorem IsExponent.head (h : IsExponent tail e) : ∀ c ∈ tail.head?, c.isDigit = false ∧ c ≠ '.' := by
  cases h with
  | absent => exact nofun
  | given hletter =>
      rintro c hc
      obtain rfl := Option.some.inj hc
      rcases hletter with rfl | rfl <;> exact ⟨rfl, by decide⟩

/-! ## Decimals -/

/-- A decimal is read from its digits before and behind the point. -/
theorem readDigits?_eq {digits part : List Char} (hdigits : cs.takeWhile Char.isDigit = digits)
    (hpart : readPoint (cs.dropWhile Char.isDigit) = (part, tail)) :
    readDigits? negative cs = if digits ++ part = [] then none
      else (readExponent? tail).map fun e =>
        ofDecimal negative (natOfDigits (digits ++ part)) (e - part.length) := by
  have hempty : (digits.isEmpty && part.isEmpty) = true ↔ digits ++ part = [] := by
    rw [Bool.and_eq_true, List.isEmpty_iff, List.isEmpty_iff, List.append_eq_nil_iff]
  rw [readDigits?, hdigits, hpart]
  dsimp only
  by_cases h : digits ++ part = []
  · rw [if_pos h, if_pos (hempty.2 h)]
    rfl
  · rw [if_neg h, if_neg (mt hempty.1 h)]
    cases readExponent? tail with
    | none => rfl
    | some e => rfl

/-- Where the digits end, there is a point with more digits, or none. -/
theorem readPoint_cases (cs : List Char) :
    (∃ part tail, cs = '.' :: (part ++ tail) ∧ IsDigits part ∧ readPoint cs = (part, tail)) ∨
      readPoint cs = ([], cs) := by
  unfold readPoint
  split
  · next rest =>
    exact .inl ⟨_, _, by rw [List.takeWhile_append_dropWhile], isDigits_takeWhile rest, rfl⟩
  · exact .inr rfl

/-- Where no point stands, there is no fraction. -/
theorem readPoint_of_ne (h : ∀ c ∈ cs.head?, c ≠ '.') : readPoint cs = ([], cs) := by
  unfold readPoint
  split
  · exact absurd rfl (h '.' rfl)
  · rfl

/-- What is read as a decimal is one, and nothing else. -/
theorem readDigits?_eq_some_iff : readDigits? negative cs = some x ↔
    ∃ digits part tail e, (cs = digits ++ tail ∧ part = [] ∨ cs = digits ++ '.' :: (part ++ tail)) ∧
      IsDigits (digits ++ part) ∧ digits ++ part ≠ [] ∧ IsExponent tail e ∧
      ofDecimal negative (natOfDigits (digits ++ part)) (e - part.length) = x := by
  constructor
  · intro h
    have hcs : cs.takeWhile Char.isDigit ++ cs.dropWhile Char.isDigit = cs := List.takeWhile_append_dropWhile
    have hrun : IsDigits (cs.takeWhile Char.isDigit) := isDigits_takeWhile cs
    rcases readPoint_cases (cs.dropWhile Char.isDigit) with ⟨part, tail, hdrop, hpart, hread⟩ | hread
    · rw [readDigits?_eq rfl hread, Option.ite_none_left_eq_some, Option.map_eq_some_iff] at h
      obtain ⟨hne, e, hexponent, hx⟩ := h
      refine ⟨_, part, tail, e, .inr ?_, List.forall_mem_append.2 ⟨hrun, hpart⟩, hne,
        readExponent?_eq_some_iff.1 hexponent, hx⟩
      rw [← hdrop, hcs]
    · rw [readDigits?_eq rfl hread, Option.ite_none_left_eq_some, Option.map_eq_some_iff] at h
      obtain ⟨hne, e, hexponent, hx⟩ := h
      refine ⟨_, [], _, e, .inl ⟨hcs.symm, rfl⟩, ?_, hne, readExponent?_eq_some_iff.1 hexponent, hx⟩
      rw [List.append_nil]
      exact hrun
  · rintro ⟨digits, part, tail, e, hsplit, hrun, hne, hexponent, rfl⟩
    have hrun' : IsDigits digits ∧ IsDigits part := List.forall_mem_append.1 hrun
    have hread := readExponent?_eq_some_iff.2 hexponent
    rcases hsplit with ⟨rfl, rfl⟩ | rfl
    · obtain ⟨htake, hdrop⟩ := takeWhile_isDigit_append hrun'.1 fun c hc => (hexponent.head c hc).1
      have hpoint := readPoint_of_ne fun c hc => (hexponent.head c hc).2
      rw [← hdrop] at hpoint
      rw [readDigits?_eq htake hpoint, if_neg hne, hdrop, hread]
      rfl
    · have hpoint : ∀ c ∈ ('.' :: (part ++ tail)).head?, c.isDigit = false := by
        intro c hc
        obtain rfl := Option.some.inj hc
        rfl
      obtain ⟨htake, hdrop⟩ := takeWhile_isDigit_append hrun'.1 hpoint
      obtain ⟨htake', hdrop'⟩ := takeWhile_isDigit_append hrun'.2 fun c hc => (hexponent.head c hc).1
      have hread' : readPoint (List.dropWhile Char.isDigit (digits ++ '.' :: (part ++ tail))) = (part, tail) := by
        rw [hdrop, readPoint, htake', hdrop']
      rw [readDigits?_eq htake hread', if_neg hne, hread]
      rfl

/-! ## Rounding -/

/-- The number of digits of a positive number tells its order of magnitude. -/
theorem bounds_of_length (hn : n ≠ 0) :
    (10 : ℚ) ^ ((Nat.toDigits 10 n).length - 1 : ℤ) ≤ n ∧ (n : ℚ) < 10 ^ ((Nat.toDigits 10 n).length : ℤ) := by
  obtain ⟨k, hk⟩ := Nat.exists_eq_succ_of_ne_zero
    (List.length_pos_iff.2 (Nat.toDigits_ne_nil (n := n) (b := 10))).ne'
  have hhigh : n < 10 ^ (k + 1) := (Nat.length_toDigits_le_iff (by decide) k.succ_pos).1 hk.le
  have hlow : 10 ^ k ≤ n := by
    rcases Nat.eq_zero_or_pos k with rfl | hpos
    · exact Nat.one_le_iff_ne_zero.2 hn
    · by_contra hlt
      have hle := (Nat.length_toDigits_le_iff (by decide) hpos).2 (Nat.not_le.1 hlt)
      omega
  rw [hk, Nat.cast_succ, add_sub_cancel_right]
  constructor
  · rw [zpow_natCast]
    exact_mod_cast hlow
  · rw [← Nat.cast_succ, zpow_natCast]
    exact_mod_cast hhigh

/-- Three bits are less than a digit. -/
theorem two_zpow_le_ten_zpow (k : ℕ) : (2 : ℚ) ^ (3 * k : ℤ) ≤ 10 ^ (k : ℤ) := by
  rw [zpow_mul, zpow_natCast, zpow_natCast]
  exact pow_le_pow_left₀ (by norm_num) (by norm_num) k

/-- A power of ten as a quotient of powers that are whole numbers. -/
theorem mul_tenTo_div_tenTo (n : ℕ) (e : ℤ) :
    ((n * tenTo e.toNat : ℕ) : ℚ) / (tenTo (-e).toNat : ℕ) = n * 10 ^ e := by
  have hten : ∀ k : ℕ, ((tenTo k : ℕ) : ℚ) = 10 ^ k := fun k => by exact_mod_cast rfl
  rw [Nat.cast_mul, hten, hten]
  obtain ⟨k, rfl | rfl⟩ := Int.eq_nat_or_neg e
  · rw [Int.toNat_natCast, Int.toNat_neg_natCast, pow_zero, div_one, zpow_natCast]
  · rw [neg_neg, Int.toNat_natCast, Int.toNat_neg_natCast, pow_zero, mul_one, zpow_neg, zpow_natCast,
      div_eq_mul_inv]

/-- A decimal is rounded to the number nearest to it. Beyond the exponents of the format, this is an infinity or
zero. -/
theorem exists_nearestAt_ofDecimal (n : ℕ) (e : ℤ) : ∃ m,
    NearestAt double.valueAt infinityBits (n * 10 ^ e) m ∧
      ∀ negative, ofDecimal negative n e = ofParts negative m := by
  have hv := double.strictMono_valueAt
  by_cases hn : n = 0
  · refine ⟨0, .of_eq hv (Nat.zero_le _) ?_, fun negative => if_pos hn⟩
    rw [hn, valueAt_zero, Nat.cast_zero, zero_mul]
  obtain ⟨hlow, hhigh⟩ := bounds_of_length hn
  have hten : (0 : ℚ) < 10 ^ e := by positivity
  simp only [ofDecimal, if_neg hn]
  generalize ((Nat.toDigits 10 n).length : ℤ) = places at hlow hhigh ⊢
  by_cases hlarge : 400 < e + places
  · refine ⟨infinityBits, .of_le hv ?_, fun negative => if_pos hlarge⟩
    calc double.valueAt infinityBits = 2 ^ (1024 : ℤ) := valueAt_infinityBits
      _ ≤ 2 ^ (3 * (400 : ℕ) : ℤ) := zpow_le_zpow_right₀ one_le_two (by norm_num)
      _ ≤ 10 ^ ((400 : ℕ) : ℤ) := two_zpow_le_ten_zpow 400
      _ ≤ 10 ^ (places - 1 + e) := zpow_le_zpow_right₀ (by norm_num) (by omega)
      _ = 10 ^ (places - 1) * 10 ^ e := zpow_add₀ (by norm_num) _ _
      _ ≤ n * 10 ^ e := mul_le_mul_of_nonneg_right hlow hten.le
  by_cases hsmall : e + places < -400
  · have hless : 2 * ((n : ℚ) * 10 ^ e) < double.valueAt 1 := by
      calc 2 * ((n : ℚ) * 10 ^ e) < 2 * (10 ^ places * 10 ^ e) := by
            gcongr
        _ = 2 * 10 ^ (places + e) := by rw [zpow_add₀ (by norm_num)]
        _ ≤ 2 * 10 ^ (-(401 : ℕ) : ℤ) := by
            gcongr
            · norm_num
            · omega
        _ ≤ 2 * 2 ^ (-(3 * (401 : ℕ)) : ℤ) := by
            rw [zpow_neg, zpow_neg]
            gcongr
            exact two_zpow_le_ten_zpow 401
        _ = 2 ^ (1 + -(3 * (401 : ℕ)) : ℤ) := (zpow_one_add₀ two_ne_zero _).symm
        _ ≤ 2 ^ (-1074 : ℤ) := zpow_le_zpow_right₀ one_le_two (by norm_num)
        _ = double.valueAt 1 := by
            have hone := valueAt_eq (e := -1074) (R := 1) le_rfl (by omega) (.inl rfl)
            rw [Nat.cast_one, one_mul] at hone
            exact hone.symm
    refine ⟨0, ?_, fun negative => (if_neg hlarge).trans (if_pos hsmall)⟩
    have hzero : double.valueAt 0 = 0 := valueAt_zero double
    have hnonneg : 0 ≤ (n : ℚ) * 10 ^ e := by positivity
    exact .of_lower (m := 0) hv (hzero.trans_le hnonneg) (by linarith) (.inl (by linarith))
  · refine ⟨_, ?_, fun negative => (if_neg hlarge).trans (if_neg hsmall)⟩
    rw [← mul_tenTo_div_tenTo]
    exact nearestAt_nearestBits _ (Nat.pow_pos (by decide))

/-- With an exponent that is not negative, the nearest number is the rounded product. -/
theorem isNearest_decimal_iff :
    IsNearest negative (n * 10 ^ e) x ↔ x = ofDecimal negative n e := by
  obtain ⟨m, hm, hdecimal⟩ := exists_nearestAt_ofDecimal n e
  rw [isNearest_iff, hdecimal]
  constructor
  · rintro ⟨m', hm', rfl⟩
    rw [hm'.unique double.strictMono_valueAt hm]
  · rintro rfl
    exact ⟨m, hm, rfl⟩

/-- A text in digits is read as the number nearest to its decimal. -/
theorem readDigits?_eq_some_iff_isDecimal :
    readDigits? negative cs = some x ↔ ∃ q, IsDecimal cs q ∧ IsNearest negative q x := by
  rw [readDigits?_eq_some_iff]
  constructor
  · rintro ⟨digits, part, tail, e, ⟨rfl, rfl⟩ | rfl, hrun, hne, hexponent, rfl⟩
    · rw [List.append_nil] at hrun hne ⊢
      refine ⟨_, .whole hrun hne hexponent, isNearest_decimal_iff.2 ?_⟩
      rw [List.length_nil, Nat.cast_zero, sub_zero]
    · exact ⟨_, .pointed hrun hne hexponent, isNearest_decimal_iff.2 rfl⟩
  · rintro ⟨q, hdecimal, hnearest⟩
    cases hdecimal with
    | @whole digits tail e hrun hne hexponent =>
        rw [← List.append_nil digits] at hrun hne
        refine ⟨digits, [], tail, e, .inl ⟨rfl, rfl⟩, hrun, hne, hexponent, ?_⟩
        rw [List.append_nil, List.length_nil, Nat.cast_zero, sub_zero]
        exact (isNearest_decimal_iff.1 hnearest).symm
    | @pointed digits part tail e hrun hne hexponent =>
        exact ⟨digits, part, tail, e, .inr rfl, hrun, hne, hexponent, (isNearest_decimal_iff.1 hnearest).symm⟩

/-! ## Texts -/

/-- A decimal starts with a digit or a point. -/
theorem IsDecimal.exists_cons (h : IsDecimal cs q) : ∃ c rest, cs = c :: rest ∧ (c.isDigit = true ∨ c = '.') := by
  cases h with
  | whole hrun hne =>
      obtain ⟨c, rest, rfl⟩ := List.exists_cons_of_ne_nil hne
      exact ⟨c, _, rfl, .inl (hrun c List.mem_cons_self)⟩
  | @pointed digits part tail e hrun =>
      cases digits with
      | nil => exact ⟨'.', _, rfl, .inr rfl⟩
      | cons c rest => exact ⟨c, _, rfl, .inl (hrun c List.mem_cons_self)⟩

/-- A name is no decimal, because it starts with a letter. -/
theorem not_isDecimal_of_name {letter : Char} {name : List Char} (hletter : letter = 'i' ∨ letter = 'n')
    (h : cs.map Char.toLower = letter :: name) : ¬ IsDecimal cs q := by
  intro hdecimal
  obtain ⟨c, rest, rfl, hc⟩ := hdecimal.exists_cons
  have hlower : c.toLower = c := by
    rcases hc with hdigit | rfl
    · have hsmall : c.toNat ≤ 57 := (Char.isDigit_iff_toNat.1 hdigit).2
      apply dif_neg
      rintro ⟨hcapital, -⟩
      have hcapital' : 65 ≤ c.toNat := hcapital
      omega
    · rfl
  rw [List.map_cons, hlower] at h
  obtain rfl := (List.cons.inj h).1
  rcases hletter with rfl | rfl
  · exact absurd hc (by decide)
  · exact absurd hc (by decide)

/-- Infinity of a sign has the fields of one. -/
theorem fields_infinity (negative : Bool) : double.negative (infinity negative).bits.toNat = negative ∧
    double.IsInfinite (infinity negative).bits.toNat :=
  fields_ofParts negative (lt_of_le_infinityBits (le_refl infinityBits))

/-- What is no number has the greatest exponent and the first bit of the fraction. -/
theorem fields_nan (negative : Bool) : double.negative (nan negative).bits.toNat = negative ∧
    double.exponent (nan negative).bits.toNat = 2047 ∧ double.fraction (nan negative).bits.toNat = 2 ^ 51 :=
  fields_ofParts negative (show infinityBits + fractionRange / 2 < 2 ^ 63 by decide)

/-- A number without its sign is read exactly from the texts of the grammar. -/
theorem readUnsigned?_eq_some_iff : readUnsigned? negative cs = some x ↔ WritesUnsigned negative cs x := by
  have hname : ∀ name : String, String.ofList (cs.map Char.toLower) = name ↔ cs.map Char.toLower = name.toList := by
    intro name
    rw [← String.toList_inj, String.toList_ofList]
  simp only [readUnsigned?, hname]
  obtain ⟨hinfinitySign, hinfinite⟩ := fields_infinity negative
  obtain ⟨hnanSign, hexponent, hfraction⟩ := fields_nan negative
  constructor
  · intro h
    split at h
    · next hinf =>
      obtain rfl := Option.some.inj h
      exact .infinity hinf hinfinitySign hinfinite
    · split at h
      · next hnan =>
        obtain rfl := Option.some.inj h
        exact .nan hnan hnanSign hexponent hfraction
      · obtain ⟨q, hdecimal, hnearest⟩ := readDigits?_eq_some_iff_isDecimal.1 h
        exact .decimal hdecimal hnearest
  · intro h
    cases h with
    | decimal hdecimal hnearest =>
        rw [if_neg, if_neg]
        · exact readDigits?_eq_some_iff_isDecimal.2 ⟨_, hdecimal, hnearest⟩
        · exact fun h => not_isDecimal_of_name (.inr rfl) h hdecimal
        · exact fun h => h.elim (fun h => not_isDecimal_of_name (.inl rfl) h hdecimal)
            fun h => not_isDecimal_of_name (.inl rfl) h hdecimal
    | infinity hinf hsign hinfinite' =>
        rw [if_pos hinf, eq_of_fields (hinfinitySign.trans hsign.symm) (hinfinite.1.trans hinfinite'.1.symm)
          (hinfinite.2.trans hinfinite'.2.symm)]
    | nan hnan hsign hexponent' hfraction' =>
        rw [if_neg, if_pos hnan, eq_of_fields (hnanSign.trans hsign.symm) (hexponent.trans hexponent'.symm)
          (hfraction.trans hfraction'.symm)]
        rw [hnan]
        decide

/-- Neither a decimal nor a name starts with a sign. -/
theorem readUnsigned?_of_sign {c : Char} (hc : c = '+' ∨ c = '-') (rest : List Char) :
    readUnsigned? negative (c :: rest) = none := by
  have hdigit : ¬ (c.isDigit = true ∨ c = '.') := by rcases hc with rfl | rfl <;> decide
  have hlower : c.toLower ≠ 'i' ∧ c.toLower ≠ 'n' := by rcases hc with rfl | rfl <;> decide
  rw [Option.eq_none_iff_forall_ne_some]
  intro x h
  rw [readUnsigned?_eq_some_iff] at h
  cases h with
  | decimal hdecimal =>
      obtain ⟨c', rest', heq, hc'⟩ := hdecimal.exists_cons
      obtain ⟨rfl, rfl⟩ := List.cons.inj heq
      exact hdigit hc'
  | infinity hinf => exact hinf.elim (fun h => hlower.1 (List.cons.inj h).1) fun h => hlower.1 (List.cons.inj h).1
  | nan hnan => exact hlower.2 (List.cons.inj hnan).1

/-- What is read as a number is told by the grammar. -/
theorem parse?_eq_some_iff {text : String} : parse? text = some x ↔ Writes text.toList x := by
  have hsign : ∀ rest, readUnsigned? false ('+' :: rest) = none ∧ readUnsigned? false ('-' :: rest) = none :=
    fun rest => ⟨readUnsigned?_of_sign (.inl rfl) rest, readUnsigned?_of_sign (.inr rfl) rest⟩
  have hbehind : parse? text = behindSign readUnsigned? text.toList := by
    unfold parse? behindSign
    rfl
  rw [hbehind, behindSign_eq_some_iff hsign]
  simp only [readUnsigned?_eq_some_iff, Writes]

end SeriesQuery.Binary64
