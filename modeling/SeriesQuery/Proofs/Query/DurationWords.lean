import SeriesQuery.Proofs.Outcome
import SeriesQuery.Proofs.Query.DurationValue

/-!
# Durations in machine words

The reader of durations once more, with every step of its arithmetic in words of 64 and 128 bits. A step
whose result does not fit its word would trap. None does, in a text of any length that a machine can hold
(`readInWords_eq`), so the bounds on durations are the ones that the reader checks. The section at the end
says all that is read, and all that is refused (`parsesExactly`).
-/

namespace SeriesQuery.Duration

open Text Outcome

/-- Why a computation in words has no result. -/
inductive Halt where
  /-- A check turns a value down. -/
  | refused
  /-- A step has a result beyond its word, or none at all. -/
  | trapped
  deriving DecidableEq, Repr

namespace Halt

variable {α : Type}

/-- A value that may be refused, as a computation that never traps. -/
def ofOption : Option α → Except Halt α
  | some a => .ok a
  | none => .error refused

/-- The value, unless the check turns it down. -/
def check (p : Prop) [Decidable p] (a : α) : Except Halt α := if p then .ok a else .error refused

/-- A step with an unsigned result. -/
def word (bits n : ℕ) : Except Halt ℕ := if fitsUnsigned bits n then .ok n else .error trapped

/-- A step with a signed result. -/
def signedWord (bits : ℕ) (n : ℤ) : Except Halt ℤ :=
  if fitsSigned bits n then .ok n else .error trapped

/-- The quotient of two words. -/
def quotient (n d : ℕ) : Except Halt ℕ := if d = 0 then .error trapped else .ok (n / d)

theorem ofOption_some (a : α) : ofOption (some a) = .ok a := rfl

/-- A check never traps. -/
theorem check_eq_ofOption {p : Prop} [Decidable p] (a : α) :
    check p a = ofOption (if p then some a else none) := by
  unfold check
  split
  · rfl
  · rfl

/-- A step does not trap when its result fits the word. -/
theorem word_eq_ok {bits n : ℕ} (h : n < twoTo bits) : word bits n = .ok n :=
  if_pos (decide_eq_true h)

/-- A step with a sign does not trap when its result fits 128 bits. -/
theorem signedWord_eq_ok {n : ℤ} (hlow : -(twoTo 127 : ℤ) ≤ n) (hhigh : n < twoTo 127) :
    signedWord 128 n = .ok n := by
  have hfits : fitsSigned 128 n = true := by
    rw [fitsSigned, Bool.and_eq_true, decide_eq_true_iff, decide_eq_true_iff]
    exact ⟨hlow, hhigh⟩
  exact if_pos hfits

/-- A division does not trap unless it is by zero. -/
theorem quotient_eq_ok {n d : ℕ} (h : 0 < d) : quotient n d = .ok (n / d) := if_neg h.ne'

end Halt

open Halt

/-- The nanoseconds of the fraction. -/
def Group.fractionInWords (g : Group) : Except Halt ℕ := do
  let digits := g.fraction.take countedDigits
  let numerator ← word 128 (natOfDigits digits)
  let scale ← word 128 (tenTo digits.length)
  let product ← word 128 (numerator * g.unit.nanos)
  quotient product scale

/-- The nanoseconds of the group. -/
def Group.nanosInWords (g : Group) : Except Halt ℕ := do
  let whole ← check (fitsUnsigned 64 (natOfDigits g.whole)) (natOfDigits g.whole)
  let product ← word 128 (whole * g.unit.nanos)
  let fraction ← g.fractionInWords
  let nanos ← word 128 (product + fraction)
  check (nanos ≤ greatest) nanos

/-- The nanoseconds of the groups, added to those of the groups before them. -/
def totalInWords (total : ℕ) : List Group → Except Halt ℕ
  | [] => .ok total
  | g :: gs => do
    let nanos ← g.nanosInWords
    let total ← word 128 (total + nanos)
    totalInWords total gs

/-- The nanoseconds of an unsigned literal. -/
def magnitudeInWords (cs : List Char) : Except Halt ℕ := do
  if cs = ['0'] then return 0
  let groups ← ofOption (readGroups? cs)
  if groups.isEmpty then throw refused
  else totalInWords 0 groups

/-- The duration written by the characters. -/
def readInWords (cs : List Char) : Except Halt Duration := do
  let (negative, rest) := readSign cs
  let magnitude ← magnitudeInWords rest
  let magnitude ← signedWord 128 magnitude
  let nanos ← signedWord 128 (if negative then -magnitude else magnitude)
  check (fitsSigned 64 nanos) ⟨nanos⟩

/-! ## Groups -/

/-- No unit is longer than an hour. -/
theorem TimeUnit.nanos_le (unit : TimeUnit) : unit.nanos ≤ 3600000000000 := by
  cases unit <;> decide

/-- A higher power of ten is not smaller. -/
theorem tenTo_le_tenTo {m n : ℕ} (h : m ≤ n) : tenTo m ≤ tenTo n :=
  Nat.pow_le_pow_right (by decide) h

/-- The fraction of a written group is made of digits. -/
theorem Group.Writes.isDigits_fraction {g : Group} {cs : List Char} (h : g.Writes cs) :
    IsDigits g.fraction := by
  rcases h with h | h
  · obtain ⟨-, -, -⟩ := h
    exact fun _ hc => absurd hc List.not_mem_nil
  · obtain ⟨-, hfraction, -, -⟩ := h
    exact hfraction

/-- Eighteen digits and the longest unit leave room in the word. -/
theorem Group.numerator_le {g : Group} (hd : IsDigits g.fraction) :
    natOfDigits (g.fraction.take countedDigits) * g.unit.nanos ≤ tenTo 18 * 3600000000000 := by
  have hlt := natOfDigits_lt_tenTo fun c hc => hd c (List.mem_of_mem_take (i := countedDigits) hc)
  have hscale := tenTo_le_tenTo (List.length_take_le countedDigits g.fraction)
  exact Nat.mul_le_mul (hlt.le.trans hscale) g.unit.nanos_le

/-- The fraction of a group has room in its words. -/
theorem Group.fractionInWords_eq {g : Group} (hd : IsDigits g.fraction) :
    g.fractionInWords = .ok (natOfDigits (g.fraction.take countedDigits) * g.unit.nanos /
      tenTo (g.fraction.take countedDigits).length) := by
  have hproduct := numerator_le hd
  have hnumerator :=
    Nat.le_mul_of_pos_right (natOfDigits (g.fraction.take countedDigits)) g.unit.nanos_pos
  have hscale := tenTo_le_tenTo (List.length_take_le countedDigits g.fraction)
  have hword : tenTo 18 * 3600000000000 < twoTo 128 := by decide
  have hword' : tenTo countedDigits < twoTo 128 := by decide
  rw [fractionInWords, word_eq_ok (by omega), ok_bind, word_eq_ok (by omega), ok_bind,
    word_eq_ok (by omega), ok_bind]
  exact quotient_eq_ok (Nat.pow_pos (by decide))

/-- No step on the way to the nanoseconds of a group traps. -/
theorem Group.nanosInWords_eq {g : Group} (hd : IsDigits g.fraction) :
    g.nanosInWords = ofOption g.nanos? := by
  rw [nanosInWords, nanos?]
  by_cases hwhole : fitsUnsigned 64 (natOfDigits g.whole) = true
  · have hproduct : natOfDigits g.whole * g.unit.nanos ≤ twoTo 64 * 3600000000000 :=
      Nat.mul_le_mul (of_decide_eq_true hwhole).le g.unit.nanos_le
    have hfraction := (Nat.div_le_self _ (tenTo (g.fraction.take countedDigits).length)).trans
      (numerator_le hd)
    have hword : twoTo 64 * 3600000000000 + tenTo 18 * 3600000000000 < twoTo 128 := by decide
    have hsum := (Nat.add_le_add hproduct hfraction).trans_lt hword
    rw [check, if_pos hwhole, ok_bind, word_eq_ok ((Nat.le_add_right _ _).trans_lt hsum), ok_bind,
      fractionInWords_eq hd, ok_bind, word_eq_ok hsum, ok_bind, check_eq_ofOption]
    simp only [hwhole, true_and]
  · rw [check, if_neg hwhole, if_neg fun h => hwhole h.1]
    rfl

/-! ## Literals -/

/-- The sum of groups has room in its words, as long as they are few enough for 128 bits. -/
theorem totalInWords_eq {gs : List Group} {total : ℕ} (hd : ∀ g ∈ gs, IsDigits g.fraction)
    (htotal : total + gs.length * Group.greatest < twoTo 128) :
    totalInWords total gs = ofOption ((gs.mapM Group.nanos?).map fun ns => total + ns.sum) := by
  induction gs generalizing total with
  | nil => rfl
  | cons g gs ih =>
      rw [List.length_cons, Nat.succ_mul] at htotal
      obtain ⟨hg, hgs⟩ := List.forall_mem_cons.1 hd
      rw [totalInWords, Group.nanosInWords_eq hg, List.mapM_cons]
      cases hnanos : g.nanos? with
      | none => rfl
      | some n =>
          have hn : n ≤ Group.greatest := by
            obtain ⟨hle, rfl⟩ := Group.nanos?_eq_some_iff.1 hnanos
            exact hle
          rw [ofOption_some, ok_bind, word_eq_ok (by omega), ok_bind, ih hgs (by omega)]
          cases gs.mapM Group.nanos? with
          | none => rfl
          | some ns =>
              show Except.ok (total + n + ns.sum) = Except.ok (total + (n :: ns).sum)
              rw [List.sum_cons, Nat.add_assoc]

/-- Every group takes a character of the text at least. -/
theorem Sequence.length_le {gs : List Group} {cs : List Char} (h : Sequence Group.Writes gs cs) :
    gs.length ≤ cs.length := by
  induction h with
  | nil => exact Nat.le_refl 0
  | cons hg _ ih =>
      obtain ⟨c, cs, rfl, -⟩ := hg.exists_cons
      rw [List.length_cons, List.length_append, List.length_cons]
      omega

/-- Each fraction in a sequence is made of digits. -/
theorem Sequence.isDigits_fraction {gs : List Group} {cs : List Char}
    (h : Sequence Group.Writes gs cs) : ∀ g ∈ gs, IsDigits g.fraction := by
  induction h with
  | nil => exact fun _ hg => absurd hg List.not_mem_nil
  | cons hg _ ih => exact List.forall_mem_cons.2 ⟨hg.isDigits_fraction, ih⟩

/-- A magnitude has room in its words, in a text shorter than `2 ^ 63` characters. -/
theorem magnitudeInWords_eq {cs : List Char} (h : cs.length < twoTo 63) :
    magnitudeInWords cs = ofOption (readMagnitude? cs) := by
  have hword : twoTo 63 * Group.greatest < twoTo 128 := by decide
  rw [magnitudeInWords, readMagnitude?]
  split
  · rfl
  · cases hread : readGroups? cs with
    | none => rfl
    | some gs =>
        have hgs := readGroups?_eq_some_iff.1 hread
        have hlength : gs.length * Group.greatest ≤ twoTo 63 * Group.greatest :=
          Nat.mul_le_mul_right _ (hgs.length_le.trans h.le)
        show (if gs.isEmpty then Except.error refused else totalInWords 0 gs) = _
        rw [totalInWords_eq hgs.isDigits_fraction (by omega)]
        show _ = ofOption (if gs.isEmpty then none else gs.mapM Group.nanos? >>= fun ns => _)
        split
        · rfl
        · cases gs.mapM Group.nanos? with
          | none => rfl
          | some ns =>
              show Except.ok (0 + ns.sum) = Except.ok (ns.foldl (· + ·) 0)
              rw [Nat.zero_add, List.sum_eq_foldl_nat]

/-- The length of the text bounds what it is worth. -/
theorem readMagnitude?_le {cs : List Char} {n : ℕ} (h : readMagnitude? cs = some n) :
    n ≤ cs.length * Group.greatest := by
  rcases readMagnitude?_eq_some_iff.1 h with ⟨-, rfl⟩ | ⟨gs, -, hgs, hle, rfl⟩
  · exact Nat.zero_le _
  · calc (gs.map Group.worth).sum
      _ ≤ (gs.map Group.worth).length • Group.greatest :=
          List.sum_le_card_nsmul _ _ (List.forall_mem_map.2 hle)
      _ = gs.length * Group.greatest := by rw [List.length_map, nsmul_eq_mul, Nat.cast_id]
      _ ≤ cs.length * Group.greatest := Nat.mul_le_mul_right _ hgs.length_le

/-- To read a sign makes a text no longer. -/
theorem length_readSign_le (cs : List Char) : (readSign cs).2.length ≤ cs.length := by
  unfold readSign
  split
  · exact Nat.le_succ _
  · exact Nat.le_succ _
  · exact Nat.le_refl _

/-- In words and without bounds, the same is read. -/
theorem readInWords_eq {cs : List Char} (h : cs.length < twoTo 63) :
    readInWords cs = ofOption (read? cs) := by
  have hlength := (length_readSign_le cs).trans_lt h
  rw [readInWords, read?]
  cases hsign : readSign cs with
  | mk negative rest =>
      rw [hsign] at hlength
      dsimp only at hlength ⊢
      rw [magnitudeInWords_eq hlength]
      cases hread : readMagnitude? rest with
      | none => rfl
      | some n =>
          have hn : n ≤ twoTo 63 * Group.greatest :=
            (readMagnitude?_le hread).trans (Nat.mul_le_mul_right _ hlength.le)
          have hword : twoTo 63 * Group.greatest < twoTo 127 := by decide
          rw [ofOption_some, ok_bind, signedWord_eq_ok (by omega) (by omega), ok_bind,
            signedWord_eq_ok (by split <;> omega) (by split <;> omega), ok_bind, check_eq_ofOption]
          rfl

/-! ## Texts -/

/-- A character takes a byte at least. -/
theorem length_toList_le (text : String) : text.toList.length ≤ text.utf8ByteSize := by
  induction text using String.push_induction with
  | empty => exact Nat.le_refl 0
  | push text c ih =>
      have hc : 0 < c.utf8Size := c.utf8Size_pos
      rw [String.toList_push, List.length_append, List.length_singleton, String.utf8ByteSize_push]
      omega

/-- A text that is not read as a duration is refused with itself as the reason. -/
theorem parse_eq_error_iff {text : String} {e : QueryError} :
    parse text = .error e ↔ e = .malformedTime text ∧ read? text.toList = none := by
  unfold parse
  split
  · next h => rw [h]; exact ⟨nofun, fun h' => nomatch h'.2⟩
  · next h => rw [Except.error.injEq, and_iff_left h]; exact eq_comm

/-- Which texts are durations, of what length, and that the arithmetic of the reader has room. -/
structure ParsesExactly (text : String) : Prop where
  /-- A literal is worth one number. -/
  unique : ∀ m n, Denotes text.toList m → Denotes text.toList n → m = n
  /-- The literals in range are read, as what they are worth. -/
  ok_iff : ∀ d, parse text = .ok d ↔ Denotes text.toList d.nanos ∧ InRange d.nanos
  /-- Everything else is refused, with the text itself as the reason. -/
  error_iff : ∀ e, parse text = .error e ↔
    e = .malformedTime text ∧ ∀ n, Denotes text.toList n → ¬ InRange n
  /-- Arithmetic in words comes to the same. -/
  words : readInWords text.toList = ofOption (read? text.toList)
  /-- No step of it traps. -/
  not_trapped : readInWords text.toList ≠ .error .trapped

/-- The literals in range are read, all else is refused, and no step of the arithmetic traps. -/
theorem parsesExactly {text : String} (h : text.utf8ByteSize < twoTo 63) : ParsesExactly text := by
  have hwords := readInWords_eq ((length_toList_le text).trans_lt h)
  exact {
    unique := fun _ _ => Denotes.unique
    ok_iff := fun d => by rw [parse_eq_ok_iff, read?_eq_some_iff]
    error_iff := fun e => by rw [parse_eq_error_iff, read?_eq_none_iff]
    words := hwords
    not_trapped := by
      rw [hwords]
      cases read? text.toList with
      | none => exact nofun
      | some d => exact nofun }

/-- The least duration is read, and it has no opposite: without the sign it is out of range by one. -/
theorem parsesExactly_least :
    ("-2562047h47m16.854775808s".utf8ByteSize < twoTo 63 ∧ ParsesExactly "-2562047h47m16.854775808s") ∧
      parse "-2562047h47m16.854775808s" = .ok ⟨-9223372036854775808⟩ ∧
      parse "2562047h47m16.854775808s" = .error (.malformedTime "2562047h47m16.854775808s") := by
  have hsize : "-2562047h47m16.854775808s".utf8ByteSize < twoTo 63 := by decide
  exact ⟨⟨hsize, parsesExactly hsize⟩, by decide +kernel, by decide +kernel⟩

end SeriesQuery.Duration
