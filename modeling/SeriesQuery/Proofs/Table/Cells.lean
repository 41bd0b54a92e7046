import Mathlib.Data.List.Induction
import Mathlib.Data.List.Nodup
import SeriesQuery.Proofs.Calendar.Zoned
import SeriesQuery.Proofs.Number.Decimals
import SeriesQuery.Table.Cell

/-!
# Cells by type and by name

Which cell a text is at a datatype (`Cell.Reads`), told by the grammars of numbers and of times and apart from how
it is read (`Cell.read?_eq_some_iff`), and what a row holds under a name: of the cells that were set under it, the
last (`Row.get?_ofCells`).
-/

namespace SeriesQuery

namespace Cell

variable {datatype text : String}

/-- The datatypes of times. -/
def IsTimeType (datatype : String) : Prop :=
  datatype = "dateTime:RFC3339" ∨ datatype = "dateTime:RFC3339Nano"

/-- The datatypes whose texts have a grammar. -/
def grammatical : List String :=
  ["double", "long", "unsignedLong", "boolean", "dateTime:RFC3339", "dateTime:RFC3339Nano"]

/-- The cell that a text is at a datatype. There is none where the text is not of the grammar of the datatype, or
where it is a whole number beyond 64 bits. At other datatypes each text is a cell as it stands. -/
inductive Reads : (datatype text : String) → Cell → Prop where
  | double {text : String} {x : Binary64} (number : Binary64.Writes text.toList x) :
      Reads "double" text (float64 x)
  | long {text : String} {n : ℤ} (number : Text.WritesInt text.toList n) (fits : -2 ^ 63 ≤ n ∧ n < 2 ^ 63) :
      Reads "long" text (int64 n)
  | unsignedLong {text : String} {n : ℕ} (number : Text.WritesNat text.toList n) (fits : n < 2 ^ 64) :
      Reads "unsignedLong" text (uint64 n)
  | true : Reads "boolean" "true" (boolean Bool.true)
  | false : Reads "boolean" "false" (boolean Bool.false)
  | time {datatype text : String} {t : Instant} (timed : IsTimeType datatype)
      (zoned : Timestamp.IsZoned text.toList t) : Reads datatype text (time t)
  | string {datatype : String} (other : datatype ∉ grammatical) (text : String) : Reads datatype text (string text)

/-- At a datatype of times a text is read as an instant. -/
theorem read?_of_isTimeType (h : IsTimeType datatype) (text : String) :
    read? datatype text = (Timestamp.parseRfc3339? text).map .time := by
  rcases h with rfl | rfl
  · rfl
  · rfl

/-- At a datatype without grammar a text is left as it is. -/
theorem read?_of_other (h : datatype ∉ grammatical) (text : String) : read? datatype text = some (string text) := by
  simp only [grammatical, List.mem_cons, List.not_mem_nil, or_false, not_or] at h
  obtain ⟨hdouble, hlong, hunsigned, hboolean, htime, hnano⟩ := h
  unfold read?
  split
  · exact absurd rfl hdouble
  · exact absurd rfl hlong
  · exact absurd rfl hunsigned
  · exact absurd rfl hboolean
  · exact absurd rfl htime
  · exact absurd rfl hnano
  · rfl

/-- What is read as a cell is told by the grammar of its datatype. -/
theorem read?_eq_some_iff {cell : Cell} : read? datatype text = some cell ↔ Reads datatype text cell := by
  constructor
  · intro h
    by_cases hgrammar : datatype ∈ grammatical
    · simp only [grammatical, List.mem_cons, List.not_mem_nil, or_false] at hgrammar
      rcases hgrammar with rfl | rfl | rfl | rfl | htime
      · obtain ⟨x, hx, rfl⟩ := Option.map_eq_some_iff.1 h
        exact .double (Binary64.parse?_eq_some_iff.1 hx)
      · obtain ⟨n, hn, rfl⟩ := Option.map_eq_some_iff.1 h
        obtain ⟨hnumber, hfits⟩ := Text.readSigned?_eq_some_iff.1 hn
        exact .long hnumber hfits
      · obtain ⟨n, hn, rfl⟩ := Option.map_eq_some_iff.1 h
        obtain ⟨hnumber, hfits⟩ := Text.readUnsigned?_eq_some_iff.1 hn
        exact .unsignedLong hnumber hfits
      · replace h : (if text = "true" then some (boolean Bool.true)
            else if text = "false" then some (boolean Bool.false) else none) = some cell := h
        split at h
        · next htext =>
          obtain rfl := Option.some.inj h
          exact htext ▸ .true
        · obtain ⟨htext, hcell⟩ := Option.ite_none_right_eq_some.1 h
          obtain rfl := Option.some.inj hcell
          exact htext ▸ .false
      · rw [read?_of_isTimeType htime] at h
        obtain ⟨t, ht, rfl⟩ := Option.map_eq_some_iff.1 h
        exact .time htime (Timestamp.parseRfc3339?_eq_some_iff.1 ht)
    · rw [read?_of_other hgrammar] at h
      obtain rfl := Option.some.inj h
      exact .string hgrammar text
  · intro h
    cases h with
    | double hx => exact Option.map_eq_some_iff.2 ⟨_, Binary64.parse?_eq_some_iff.2 hx, rfl⟩
    | long hn hfits => exact Option.map_eq_some_iff.2 ⟨_, Text.readSigned?_eq_some_iff.2 ⟨hn, hfits⟩, rfl⟩
    | unsignedLong hn hfits =>
        exact Option.map_eq_some_iff.2 ⟨_, Text.readUnsigned?_eq_some_iff.2 ⟨hn, hfits⟩, rfl⟩
    | true => rfl
    | false => rfl
    | time htime ht =>
        rw [read?_of_isTimeType htime, Timestamp.parseRfc3339?_eq_some_iff.2 ht]
        rfl
    | string hother => exact read?_of_other hother text

/-- What is not read has no cell. -/
theorem read?_eq_none_iff : read? datatype text = none ↔ ∀ cell, ¬ Reads datatype text cell := by
  simp only [← read?_eq_some_iff, ← ne_eq, Option.eq_none_iff_forall_ne_some]

/-- A time is what a text with an offset shows. -/
theorem isZoned_of_reads {t : Instant} (h : Reads datatype text (.time t)) : Timestamp.IsZoned text.toList t := by
  cases h with
  | time _ hzoned => exact hzoned

/-- Only the datatypes of times give times. -/
theorem isTimeType_of_reads {t : Instant} (h : Reads datatype text (.time t)) : IsTimeType datatype := by
  cases h with
  | time htime => exact htime

/-- The datatypes of times give nothing but times. -/
theorem exists_time_of_reads {cell : Cell} (h : Reads datatype text cell) (htime : IsTimeType datatype) :
    ∃ t, cell = .time t := by
  rw [← read?_eq_some_iff, read?_of_isTimeType htime] at h
  obtain ⟨t, -, rfl⟩ := Option.map_eq_some_iff.1 h
  exact ⟨t, rfl⟩

end Cell

namespace Row

variable {r : Row} {column name : String} {cell : Cell}

/-- A cell that is set is found. -/
theorem get?_set_self (r : Row) (column : String) (cell : Cell) :
    (r.set column cell).get? column = some cell := by
  have hothers : (r.cells.filter (·.1 ≠ column)).lookup column = none := by
    rw [List.lookup_eq_none_iff]
    intro p hp
    rw [bne_iff_ne]
    exact (of_decide_eq_true (List.mem_filter.1 hp).2).symm
  rw [get?, set, List.lookup_append, hothers, Option.none_or, List.lookup_cons_self]

/-- Other names are not touched by taking the cells of one name out. -/
theorem lookup_filter_of_ne (h : name ≠ column) (cells : List (String × Cell)) :
    (cells.filter (·.1 ≠ column)).lookup name = cells.lookup name := by
  induction cells with
  | nil => rfl
  | cons p cells ih =>
      by_cases hp : p.1 = column
      · have hname : (name == p.1) = false := by
          rw [hp, beq_eq_false_iff_ne]
          exact h
        rw [List.filter_cons_of_neg (by simp [hp]), List.lookup_cons, hname, ih]
      · rw [List.filter_cons_of_pos (by simp [hp]), List.lookup_cons, List.lookup_cons, ih]

/-- The cells of other names stay. -/
theorem get?_set_of_ne (h : name ≠ column) : (r.set column cell).get? name = r.get? name := by
  have hlast : [(column, cell)].lookup name = none := by
    rw [List.lookup_cons, beq_eq_false_iff_ne.2 h]
    rfl
  rw [get?, set, List.lookup_append, hlast, Option.or_none, lookup_filter_of_ne h, get?]

/-- The last cell of a list is set last. -/
theorem ofCells_concat (time : Instant) (cells : List (String × Cell)) (p : String × Cell) :
    ofCells time (cells ++ [p]) = (ofCells time cells).set p.1 p.2 := by
  rw [ofCells, List.foldl_append]
  rfl

/-- The value of a cell with the given name. -/
def named? (name : String) (p : String × Cell) : Option Cell := if p.1 = name then some p.2 else none

/-- What was set last under a name is there. -/
theorem get?_ofCells (time : Instant) (cells : List (String × Cell)) (name : String) :
    (ofCells time cells).get? name = (cells.filterMap (named? name)).getLast? := by
  induction cells using List.reverseRecOn with
  | nil => rfl
  | append_singleton cells p ih =>
      rw [ofCells_concat, List.filterMap_append]
      by_cases hname : p.1 = name
      · have hlast : [p].filterMap (named? name) = [p.2] := by
          rw [List.filterMap_cons, named?, if_pos hname]
          rfl
        rw [← hname, get?_set_self, hname, hlast, List.getLast?_concat]
      · have hlast : [p].filterMap (named? name) = [] := by
          rw [List.filterMap_cons, named?, if_neg hname]
          rfl
        rw [get?_set_of_ne (Ne.symm hname), ih, hlast, List.append_nil]

theorem time_ofCells (time : Instant) (cells : List (String × Cell)) :
    (ofCells time cells).time = time := by
  induction cells using List.reverseRecOn with
  | nil => rfl
  | append_singleton cells p ih => rw [ofCells_concat, set, ih]

/-- No name stands twice in a row. -/
theorem nodup_ofCells (time : Instant) (cells : List (String × Cell)) :
    ((ofCells time cells).cells.map Prod.fst).Nodup := by
  induction cells using List.reverseRecOn with
  | nil => exact List.nodup_nil
  | append_singleton cells p ih =>
      rw [ofCells_concat, set, List.map_append, List.nodup_append]
      refine ⟨ih.sublist (List.filter_sublist.map _), List.nodup_singleton _, ?_⟩
      intro a ha b hb
      obtain ⟨q, hq, rfl⟩ := List.mem_map.1 ha
      obtain rfl := List.mem_singleton.1 hb
      exact of_decide_eq_true (List.mem_filter.1 hq).2

end Row

end SeriesQuery
