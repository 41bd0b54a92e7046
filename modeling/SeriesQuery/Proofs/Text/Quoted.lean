import Mathlib.Data.List.Basic
import SeriesQuery.Text.Quoted

/-!
# What stands between quotes

A text between quotes tells itself and where it ends. Without escapes, that is because its first quote ends it
(`append_cons_inj`). With escapes, no character is written like the start of another one (`Form.append_inj`), so
there too the quote behind the text ends it (`quoted_append_inj`).
-/

namespace SeriesQuery

namespace Text

/-- The first occurrence of a character splits a text in one way. -/
theorem append_cons_inj {c : Char} {as bs xs ys : List Char} (ha : c ∉ as) (hb : c ∉ bs) :
    as ++ c :: xs = bs ++ c :: ys ↔ as = bs ∧ xs = ys := by
  induction as generalizing bs with
  | nil =>
      cases bs with
      | nil => simp
      | cons b bs =>
          have hne : c ≠ b := fun h => hb (h ▸ List.mem_cons_self)
          simp [hne]
  | cons a as ih =>
      cases bs with
      | nil =>
          have hne : a ≠ c := fun h => ha (h ▸ List.mem_cons_self)
          simp [hne]
      | cons b bs =>
          rw [List.cons_append, List.cons_append, List.cons.injEq, List.cons.injEq,
            ih (fun h => ha (List.mem_cons_of_mem _ h)) (fun h => hb (List.mem_cons_of_mem _ h)),
            and_assoc]

/-! ## Numbers in base sixteen -/

/-- The number with the digits. -/
def hexValue (digits : List Char) : Nat :=
  digits.foldl (fun n c => 16 * n + "0123456789abcdef".toList.idxOf c) 0

/-- A number of one digit has it, and the last digit of any other stands behind the others. -/
theorem hexDigits_eq (n : Nat) :
    hexDigits n = if n < 16 then [n.digitChar] else hexDigits (n / 16) ++ [(n % 16).digitChar] :=
  Nat.toDigits_eq_if (by decide)

/-- The digits of a number are read back. -/
theorem hexValue_hexDigits (n : Nat) : hexValue (hexDigits n) = n := by
  have hdigit : ∀ a < 16, "0123456789abcdef".toList.idxOf a.digitChar = a := by decide
  induction n using Nat.strongRecOn with
  | ind n ih =>
      rw [hexDigits_eq]
      by_cases hn : n < 16
      · rw [if_pos hn, hexValue, List.foldl_cons, List.foldl_nil, hdigit n hn, Nat.mul_zero, Nat.zero_add]
      · have hfront := ih (n / 16) (by omega)
        rw [hexValue] at hfront
        rw [if_neg hn, hexValue, List.foldl_append, hfront, List.foldl_cons, List.foldl_nil,
          hdigit _ (Nat.mod_lt n (by decide))]
        omega

/-- A number has no brace among its digits. -/
theorem brace_not_mem_hexDigits (n : Nat) : '\x7d' ∉ hexDigits n := by
  have hall : ∀ a < 16, '\x7d' ≠ a.digitChar := by decide
  induction n using Nat.strongRecOn with
  | ind n ih =>
      rw [hexDigits_eq]
      by_cases hn : n < 16
      · rw [if_pos hn, List.mem_singleton]
        exact hall n hn
      · rw [if_neg hn, List.mem_append, List.mem_singleton, not_or]
        exact ⟨ih (n / 16) (by omega), hall _ (Nat.mod_lt n (by decide))⟩

/-! ## Characters -/

/-- The characters that are written with a backslash and a letter. -/
def letters : List (Char × Char) :=
  [('\x00', '0'), ('\t', 't'), ('\r', 'r'), ('\n', 'n'), ('\\', '\\'), ('\"', '\"')]

/-- The ways to write a character between quotes. -/
inductive Form : Char → List Char → Prop where
  | letter {c e : Char} (paired : (c, e) ∈ letters) : Form c ['\\', e]
  | code (c : Char) : Form c ('\\' :: 'u' :: '\x7b' :: (hexDigits c.toNat ++ ['\x7d']))
  | plain {c : Char} (backslash : c ≠ '\\') (quote : c ≠ '\"') : Form c [c]

/-- Every character is written in one of these ways. -/
theorem form_quotedChar (c : Char) : Form c (quotedChar c) := by
  unfold quotedChar
  split
  case h_7 hbackslash hquote =>
      split
      · exact .code c
      · exact .plain hbackslash hquote
  all_goals exact .letter (by decide)

/-- No character is written like a quote. -/
theorem Form.append_ne {c : Char} {as : List Char} (h : Form c as) (rest behind : List Char) :
    as ++ rest ≠ '\"' :: behind := by
  intro heq
  cases h with
  | letter => exact absurd (List.cons.inj heq).1 (by decide)
  | code => exact absurd (List.cons.inj heq).1 (by decide)
  | plain _ hquote => exact hquote (List.cons.inj heq).1

/-- No character is written like the start of another one. -/
theorem Form.append_inj {a b : Char} {as bs xs ys : List Char} (ha : Form a as) (hb : Form b bs)
    (h : as ++ xs = bs ++ ys) : a = b ∧ xs = ys := by
  have hletters : ∀ p ∈ letters, ∀ q ∈ letters, p.2 = q.2 → p.1 = q.1 := by decide
  have hunit : ∀ p ∈ letters, p.2 ≠ 'u' := by decide
  cases ha with
  | letter hpair =>
      cases hb with
      | letter hpair' =>
          simp only [List.cons_append, List.nil_append, List.cons.injEq, true_and] at h
          exact ⟨hletters _ hpair _ hpair' h.1, h.2⟩
      | code => exact absurd (List.cons.inj (List.cons.inj h).2).1 (hunit _ hpair)
      | plain hbackslash => exact absurd (List.cons.inj h).1.symm hbackslash
  | code =>
      cases hb with
      | letter hpair' => exact absurd (List.cons.inj (List.cons.inj h).2).1.symm (hunit _ hpair')
      | code =>
          -- the brace behind the digits ends them
          simp only [List.cons_append, List.append_assoc, List.nil_append, List.cons.injEq, true_and] at h
          rw [append_cons_inj (brace_not_mem_hexDigits _) (brace_not_mem_hexDigits _)] at h
          obtain ⟨hdigits, hrest⟩ := h
          have hcode := congrArg hexValue hdigits
          rw [hexValue_hexDigits, hexValue_hexDigits] at hcode
          exact ⟨Char.toNat_inj.1 hcode, hrest⟩
      | plain hbackslash => exact absurd (List.cons.inj h).1.symm hbackslash
  | plain hbackslash =>
      cases hb with
      | letter => exact absurd (List.cons.inj h).1 hbackslash
      | code => exact absurd (List.cons.inj h).1 hbackslash
      | plain => exact List.cons.inj h

/-! ## Texts -/

/-- The quote behind a text ends it. -/
theorem flatMap_quotedChar_append_inj {as bs xs ys : List Char} :
    as.flatMap quotedChar ++ '\"' :: xs = bs.flatMap quotedChar ++ '\"' :: ys ↔ as = bs ∧ xs = ys := by
  induction as generalizing bs with
  | nil =>
      cases bs with
      | nil => simp
      | cons b bs =>
          have hne := (form_quotedChar b).append_ne (bs.flatMap quotedChar ++ '\"' :: ys) xs
          simp [hne.symm]
  | cons a as ih =>
      cases bs with
      | nil =>
          have hne := (form_quotedChar a).append_ne (as.flatMap quotedChar ++ '\"' :: xs) ys
          simp [hne]
      | cons b bs =>
          rw [List.flatMap_cons, List.flatMap_cons, List.append_assoc, List.append_assoc]
          constructor
          · intro h
            obtain ⟨rfl, hrest⟩ := (form_quotedChar a).append_inj (form_quotedChar b) h
            obtain ⟨rfl, rfl⟩ := ih.1 hrest
            exact ⟨rfl, rfl⟩
          · rintro ⟨h, rfl⟩
            obtain ⟨rfl, rfl⟩ := List.cons.inj h
            rfl

/-- A text in quotes tells the text, and what stands behind it. -/
theorem quoted_append_inj {s t u v : String} : quoted s ++ u = quoted t ++ v ↔ s = t ∧ u = v := by
  rw [← String.toList_inj, quoted, quoted]
  simp only [String.toList_append, String.toList_ofList, List.cons_append, List.append_assoc, List.nil_append,
    List.cons.injEq, true_and, flatMap_quotedChar_append_inj, String.toList_inj]

end Text

end SeriesQuery
