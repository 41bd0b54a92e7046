import Mathlib.Data.List.TakeWhile
import SeriesQuery.Proofs.Text.Digits
import SeriesQuery.Text.Scan

/-!
# What a scan reads

One statement for each scan, in the form: it reads `cs` and leaves `rest` exactly when `cs` is what it
reads, followed by `rest`.
-/

namespace SeriesQuery.Text.Scan

variable {α β : Type} {cs rest : List Char}

/-- A scan that goes on with another reads both in turn. -/
theorem bind_eq_some_iff {m : Scan α} {k : α → Scan β} {b : β} :
    (m >>= k) cs = some (b, rest) ↔ ∃ a mid, m cs = some (a, mid) ∧ k a mid = some (b, rest) := by
  show (m cs >>= fun p => k p.1 p.2) = some (b, rest) ↔ _
  rw [Option.bind_eq_bind, Option.bind_eq_some_iff]
  exact ⟨fun ⟨⟨a, mid⟩, h⟩ => ⟨a, mid, h⟩, fun ⟨a, mid, h⟩ => ⟨⟨a, mid⟩, h⟩⟩

/-- A scan for nothing reads nothing. -/
theorem pure_eq_some_iff {a b : α} :
    (pure a : Scan α) cs = some (b, rest) ↔ a = b ∧ cs = rest := by
  show some (a, cs) = some (b, rest) ↔ _
  rw [Option.some.injEq, Prod.mk.injEq]

/-- A character is read from the front. -/
theorem char_eq_some_iff {c : Char} {u : Unit} :
    Scan.char c cs = some (u, rest) ↔ cs = c :: rest := by
  cases cs with
  | nil => simp [Scan.char]
  | cons d ds => simp [Scan.char]

/-- One of several characters is read from the front. -/
theorem oneOf_eq_some_iff {choices : List Char} {c : Char} :
    Scan.oneOf choices cs = some (c, rest) ↔ c ∈ choices ∧ cs = c :: rest := by
  cases cs with
  | nil => simp [Scan.oneOf]
  | cons d ds =>
      simp only [Scan.oneOf, Option.ite_none_right_eq_some, Option.some.injEq, Prod.mk.injEq, List.cons.injEq]
      constructor
      · rintro ⟨hmem, rfl, rfl⟩
        exact ⟨hmem, rfl, rfl⟩
      · rintro ⟨hmem, rfl, rfl⟩
        exact ⟨hmem, rfl, rfl⟩

/-- All digits in front are read. -/
theorem digits_eq_some_iff {ds : List Char} : Scan.digits cs = some (ds, rest) ↔
    (IsDigits ds ∧ ds ≠ []) ∧ cs = ds ++ rest ∧ ∀ c ∈ rest.head?, c.isDigit = false := by
  have hdrop : cs.drop (cs.takeWhile Char.isDigit).length = cs.dropWhile Char.isDigit := by
    have hsplit := List.takeWhile_append_dropWhile (p := Char.isDigit) (l := cs)
    nth_rewrite 2 [← hsplit]
    exact List.drop_left
  simp only [Scan.digits, Option.ite_none_left_eq_some, Option.some.injEq, Prod.mk.injEq, List.isEmpty_iff]
  constructor
  · rintro ⟨hne, rfl, rfl⟩
    refine ⟨⟨isDigits_takeWhile cs, hne⟩, ?_, ?_⟩
    · rw [hdrop, List.takeWhile_append_dropWhile]
    · intro c hc
      have hhead := List.head?_dropWhile_not Char.isDigit cs
      rw [← hdrop, Option.mem_def.1 hc] at hhead
      exact hhead
  · rintro ⟨⟨hrun, hne⟩, rfl, hrest⟩
    rw [(takeWhile_isDigit_append hrun hrest).1, List.drop_left]
    exact ⟨hne, rfl, rfl⟩

/-- Just as many digits are read as are asked for. -/
theorem digitsUpTo_eq_some_iff {width : Nat} {ds : List Char} :
    Scan.digitsUpTo width width cs = some (ds, rest) ↔
      IsDigits ds ∧ ds.length = width ∧ cs = ds ++ rest := by
  simp only [Scan.digitsUpTo, Option.ite_none_left_eq_some, Option.some.injEq, Prod.mk.injEq]
  constructor
  · rintro ⟨hlen, rfl, rfl⟩
    have hpre := List.takeWhile_prefix (l := cs.take width) Char.isDigit
    have htake : (cs.take width).length ≤ width := List.length_take_le _ _
    have hle := hpre.length_le
    have heq : ((cs.take width).takeWhile Char.isDigit).length = width := by omega
    have hall := hpre.eq_of_length_le (by omega)
    refine ⟨isDigits_takeWhile _, heq, ?_⟩
    rw [heq, hall, List.take_append_drop]
  · rintro ⟨hd, rfl, rfl⟩
    rw [List.take_left, List.takeWhile_eq_self_iff.2 hd]
    exact ⟨Nat.lt_irrefl _, rfl, List.drop_left⟩

/-- A number of fixed width is read as the value of its digits. -/
theorem number_eq_some_iff {width n : Nat} :
    Scan.number width cs = some (n, rest) ↔
      ∃ ds, IsDigits ds ∧ ds.length = width ∧ natOfDigits ds = n ∧ cs = ds ++ rest := by
  rw [Scan.number, map_eq_pure_bind, bind_eq_some_iff]
  simp only [digitsUpTo_eq_some_iff, pure_eq_some_iff]
  constructor
  · rintro ⟨ds, _, ⟨hd, hlen, hcs⟩, hn, rfl⟩
    exact ⟨ds, hd, hlen, hn, hcs⟩
  · rintro ⟨ds, hd, hlen, hn, hcs⟩
    exact ⟨ds, rest, ⟨hd, hlen, hcs⟩, hn, rfl⟩

/-- A number is read from the digits that write it. -/
theorem number_padded {width n : Nat} (hw : 0 < width) (hn : n < tenTo width) (rest : List Char) :
    Scan.number width (padded width n ++ rest) = some (n, rest) :=
  number_eq_some_iff.2
    ⟨padded width n, isDigits_padded width n, length_padded hw hn, natOfDigits_padded width n, rfl⟩

/-- Only the digits that write it are read as a number. -/
theorem number_eq_some_iff_padded {width n : Nat} (hw : 0 < width) :
    Scan.number width cs = some (n, rest) ↔ n < tenTo width ∧ cs = padded width n ++ rest := by
  constructor
  · intro h
    obtain ⟨ds, hd, rfl, rfl, rfl⟩ := number_eq_some_iff.1 h
    rw [padded_natOfDigits hd (List.ne_nil_of_length_pos hw)]
    exact ⟨natOfDigits_lt_tenTo hd, rfl⟩
  · rintro ⟨hn, rfl⟩
    exact number_padded hw hn rest

/-- What a scan has read is handed on. -/
theorem bind_of_eq_some {m : Scan α} {k : α → Scan β} {a : α} (h : m cs = some (a, rest)) :
    (m >>= k) cs = k a rest := by
  show (m cs >>= fun p => k p.1 p.2) = _
  rw [h]
  rfl

theorem char_cons (c : Char) (cs : List Char) : Scan.char c (c :: cs) = some ((), cs) := if_pos rfl

/-- A text is read as a whole where nothing is left of it. -/
theorem all?_eq_some_iff {scan : Scan α} {a : α} : scan.all? cs = some a ↔ scan cs = some (a, []) := by
  unfold Scan.all?
  split
  · next b h => rw [h, Option.some.injEq, Option.some.injEq, Prod.mk.injEq, and_iff_left rfl]
  · next h => exact ⟨nofun, fun h' => absurd h' (h a)⟩

end SeriesQuery.Text.Scan
