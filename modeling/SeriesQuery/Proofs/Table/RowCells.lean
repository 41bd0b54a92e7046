import Mathlib.Data.List.Find
import Mathlib.Data.List.NodupEquivFin
import SeriesQuery.Proofs.Table.Cells
import SeriesQuery.Proofs.Text.Quoted
import SeriesQuery.Table.Layout

/-!
# The cells of a row

The header, the datatypes, the defaults and the record can all have different lengths. What joins them is
the place of a column (`IsPresent`). A record is refused for the leftmost cell that cannot be read, else for
the lack of a time, and otherwise it is a row; where a name comes back in the header, the last cell that is
present counts (`readsRow`).
-/

namespace SeriesQuery

/-- `P` holds of the value at some place, and of none at a place before. -/
def AtFirst {α : Type} (P : ℕ → α → Prop) (a : α) : Prop := ∃ i, P i a ∧ ∀ j b, j < i → ¬ P j b

/-- `P` holds of the value at some place, and of none at a place behind. -/
def AtLast {α : Type} (P : ℕ → α → Prop) (a : α) : Prop := ∃ i, P i a ∧ ∀ j b, i < j → ¬ P j b

/-- The error of a cell tells its text and its datatype. -/
theorem StoreError.badCell_inj {text text' datatype datatype' : String} :
    badCell text datatype = badCell text' datatype' ↔ text = text' ∧ datatype = datatype' := by
  rw [badCell, badCell, malformedResult.injEq]
  simp only [String.append_assoc, String.append_right_inj, Text.quoted_append_inj]

namespace Layout

/-- The record has a text at the place: its own, or the default where it has none or an empty one. -/
inductive TextAt (l : Layout) (record : Record) (i : ℕ) : String → Prop where
  | own {text : String} (cell : record[i]? = some text) (nonempty : text ≠ "") :
      TextAt l record i text
  | default {text : String} (empty : ∀ cell, record[i]? = some cell → cell = "")
      (cell : l.defaults[i]? = some text) (nonempty : text ≠ "") : TextAt l record i text

/-- The datatype at the place. Where the datatypes do not reach, the name of the column tells it. -/
inductive DatatypeAt (l : Layout) (i : ℕ) (column : String) : String → Prop where
  | given {datatype : String} (cell : l.datatypes[i]? = some datatype) : DatatypeAt l i column datatype
  | time (beyond : l.datatypes.length ≤ i)
      (name : column = "_start" ∨ column = "_stop" ∨ column = "_time") :
      DatatypeAt l i column "dateTime:RFC3339"
  | string (beyond : l.datatypes.length ≤ i)
      (name : ¬ (column = "_start" ∨ column = "_stop" ∨ column = "_time")) :
      DatatypeAt l i column "string"

/-- The column at the place is called `column`, and has a cell with the text, to be read at the datatype.
The first place is not for data. -/
structure IsPresent (l : Layout) (header record : Record) (i : ℕ) (column text datatype : String) :
    Prop where
  data : 1 ≤ i
  named : header[i]? = some column
  text : l.TextAt record i text
  datatype : l.DatatypeAt i column datatype

/-- The cell at the place cannot be read: its text is no cell at its datatype, for which the error is this one. -/
def Unreadable (l : Layout) (header record : Record) (i : ℕ) (e : StoreError) : Prop :=
  ∃ column text datatype, l.IsPresent header record i column text datatype ∧
    (∀ cell, ¬ Cell.Reads datatype text cell) ∧
    e = .malformedResult ("cannot read " ++ Text.quoted text ++ " as " ++ datatype)

/-- The column at the place is called `column` and has the value. -/
def Holds (l : Layout) (header record : Record) (column : String) (i : ℕ) (cell : Cell) : Prop :=
  ∃ text datatype, l.IsPresent header record i column text datatype ∧
    Cell.Reads datatype text cell

/-- The column at the place is called `_time` and has the value, by a datatype of times. -/
def HoldsTime (l : Layout) (header record : Record) (i : ℕ) (t : Instant) : Prop :=
  ∃ text datatype, l.IsPresent header record i "_time" text datatype ∧ Cell.IsTimeType datatype ∧
    Cell.Reads datatype text (.time t)

/-- The row that the record is to be read as. -/
structure IsRowOf (l : Layout) (header record : Record) (r : Row) : Prop where
  /-- Of the cells of one name, the last that is present counts. -/
  cell_iff : ∀ column cell, r.get? column = some cell ↔ AtLast (l.Holds header record column) cell
  /-- A name without present cells is not in the row. -/
  absent_iff : ∀ column, r.get? column = none ↔ ∀ i cell, ¬ l.Holds header record column i cell
  /-- No name is in the row twice. -/
  nodup : (r.cells.map Prod.fst).Nodup
  /-- The time of the row is the last one in a time column. -/
  time : AtLast (l.HoldsTime header record) r.time
  /-- With a single time column, that is the cell under its name. -/
  time_cell : header.count "_time" = 1 → r.get? "_time" = some (.time r.time)

/-! ## Texts and datatypes -/

variable {l : Layout} {header record : Record} {i : ℕ} {column text datatype : String} {cell : Cell}

/-- The text of a place is its own, or else the default. -/
theorem textAt_iff : l.TextAt record i text ↔ l.cellText record i = text ∧ text ≠ "" := by
  rw [cellText]
  constructor
  · rintro (⟨hcell, hne⟩ | ⟨hempty, hcell, hne⟩)
    · rw [hcell, Option.getD_some]
      exact ⟨if_neg hne, hne⟩
    · have hown : record[i]?.getD "" = "" := by
        cases hrecord : record[i]? with
        | none => rfl
        | some cell => exact hempty cell hrecord
      rw [hown, hcell]
      exact ⟨rfl, hne⟩
  · rintro ⟨htext, hne⟩
    by_cases hown : record[i]?.getD "" = ""
    · rw [if_pos hown] at htext
      refine .default ?_ ?_ hne
      · intro cell hcell
        rw [hcell] at hown
        exact hown
      · cases hdefault : l.defaults[i]? with
        | none =>
            rw [hdefault] at htext
            exact absurd htext.symm hne
        | some cell =>
            rw [hdefault] at htext
            exact congrArg some htext
    · rw [if_neg hown] at htext
      cases hrecord : record[i]? with
      | none =>
          rw [hrecord] at hown
          exact absurd rfl hown
      | some cell =>
          rw [hrecord] at htext
          exact .own (hrecord.trans (congrArg some htext)) hne

/-- The columns that hold times without being told so. -/
theorem mem_timeColumns_iff :
    column ∈ timeColumns ↔ column = "_start" ∨ column = "_stop" ∨ column = "_time" := by
  simp only [timeColumns, timeColumn, List.mem_cons, List.not_mem_nil, or_false]

/-- The datatype of a place is given, or else goes by the name of the column. -/
theorem datatypeAt_iff : l.DatatypeAt i column datatype ↔ l.datatype i column = datatype := by
  rw [Layout.datatype]
  constructor
  · rintro (hcell | ⟨hbeyond, hname⟩ | ⟨hbeyond, hname⟩)
    · rw [hcell]
    · rw [List.getElem?_eq_none hbeyond]
      exact if_pos (mem_timeColumns_iff.2 hname)
    · rw [List.getElem?_eq_none hbeyond]
      exact if_neg fun hmem => hname (mem_timeColumns_iff.1 hmem)
  · rintro rfl
    cases hgiven : l.datatypes[i]? with
    | some datatype => exact .given hgiven
    | none =>
        have hbeyond := List.getElem?_eq_none_iff.1 hgiven
        by_cases hname : column ∈ timeColumns
        · rw [if_pos hname]
          exact .time hbeyond (mem_timeColumns_iff.1 hname)
        · rw [if_neg hname]
          exact .string hbeyond fun h => hname (mem_timeColumns_iff.2 h)

/-! ## Places -/

/-- The columns for data with their places, from left to right. -/
def places (header : Record) : List (String × ℕ) := (header.drop 1).zipIdx 1

/-- The places for data are those of the header behind the first. -/
theorem mem_places_iff : (column, i) ∈ places header ↔ 1 ≤ i ∧ header[i]? = some column := by
  rw [places, List.mem_zipIdx_iff_le_and_getElem?_sub, List.getElem?_drop]
  apply and_congr_right
  intro hi
  rw [Nat.add_sub_cancel' hi]

/-- The places for data stand in order. -/
theorem pairwise_places (header : Record) : (places header).Pairwise (·.2 < ·.2) := by
  rw [← List.pairwise_map, places, List.zipIdx_map_snd]
  exact List.pairwise_lt_range'

section Split

variable {as bs : List (String × ℕ)} {p q : String × ℕ}

/-- What stands before a place in the list has a smaller index. -/
theorem mem_before_iff (h : places header = as ++ p :: bs) :
    q ∈ as ↔ q ∈ places header ∧ q.2 < p.2 := by
  have hsorted := pairwise_places header
  rw [h, List.pairwise_append, List.pairwise_cons] at hsorted
  obtain ⟨-, ⟨hbehind, -⟩, hbefore⟩ := hsorted
  rw [h, List.mem_append, List.mem_cons]
  constructor
  · exact fun hq => ⟨.inl hq, hbefore q hq p List.mem_cons_self⟩
  · rintro ⟨hq | rfl | hq, hlt⟩
    · exact hq
    · exact absurd hlt (Nat.lt_irrefl _)
    · exact absurd hlt (Nat.lt_asymm (hbehind q hq))

/-- What stands behind it has a greater one. -/
theorem mem_behind_iff (h : places header = as ++ p :: bs) :
    q ∈ bs ↔ q ∈ places header ∧ p.2 < q.2 := by
  have hsorted := pairwise_places header
  rw [h, List.pairwise_append, List.pairwise_cons] at hsorted
  obtain ⟨-, ⟨hbehind, -⟩, hbefore⟩ := hsorted
  rw [h, List.mem_append, List.mem_cons]
  constructor
  · exact fun hq => ⟨.inr (.inr hq), hbehind q hq⟩
  · rintro ⟨hq | rfl | hq, hlt⟩
    · exact absurd hlt (Nat.lt_asymm (hbefore q hq p List.mem_cons_self))
    · exact absurd hlt (Nat.lt_irrefl _)
    · exact hq

end Split

section Last

variable {α : Type} {g : String × ℕ → Option α} {P : ℕ → α → Prop}

/-- The last value among the places is the one at the last place that has any. -/
theorem getLast?_places_eq_some_iff
    (hP : ∀ i a, P i a ↔ ∃ column, (column, i) ∈ places header ∧ g (column, i) = some a) {a : α} :
    ((places header).filterMap g).getLast? = some a ↔ AtLast P a := by
  rw [List.getLast?_filterMap, List.findSome?_eq_some_iff]
  constructor
  · rintro ⟨behind, ⟨column, i⟩, before, hreverse, ha, hnone⟩
    have hsplit : places header = before.reverse ++ (column, i) :: behind.reverse := by
      rw [← List.reverse_reverse (places header), hreverse, List.reverse_append, List.reverse_cons,
        List.append_assoc, List.singleton_append]
    refine ⟨i, (hP i a).2 ⟨column, hsplit ▸ List.mem_append_right _ List.mem_cons_self, ha⟩, ?_⟩
    intro j b hlt hb
    obtain ⟨column', hmem, hsome⟩ := (hP j b).1 hb
    have hbehind := (mem_behind_iff hsplit).2 ⟨hmem, hlt⟩
    rw [hnone _ (List.mem_reverse.1 hbehind)] at hsome
    exact nomatch hsome
  · rintro ⟨i, ha, hlast⟩
    obtain ⟨column, hmem, hsome⟩ := (hP i a).1 ha
    obtain ⟨before, behind, hsplit⟩ := List.append_of_mem hmem
    refine ⟨behind.reverse, (column, i), before.reverse, ?_, hsome, ?_⟩
    · rw [hsplit, List.reverse_append, List.reverse_cons, List.append_assoc, List.singleton_append]
    · rintro ⟨column', j⟩ hbehind
      obtain ⟨hmem', hlt⟩ := (mem_behind_iff hsplit).1 (List.mem_reverse.1 hbehind)
      rw [Option.eq_none_iff_forall_ne_some]
      intro b hb
      exact hlast j b hlt ((hP j b).2 ⟨column', hmem', hb⟩)

/-- There is none where no place has any. -/
theorem getLast?_places_eq_none_iff
    (hP : ∀ i a, P i a ↔ ∃ column, (column, i) ∈ places header ∧ g (column, i) = some a) :
    ((places header).filterMap g).getLast? = none ↔ ∀ i a, ¬ P i a := by
  rw [List.getLast?_eq_none_iff, List.filterMap_eq_nil_iff]
  constructor
  · intro hnone i a ha
    obtain ⟨column, hmem, hsome⟩ := (hP i a).1 ha
    exact nomatch (hnone _ hmem).symm.trans hsome
  · rintro hnone ⟨column, i⟩ hmem
    rw [Option.eq_none_iff_forall_ne_some]
    intro a ha
    exact hnone i a ((hP i a).2 ⟨column, hmem, ha⟩)

end Last

/-! ## Cells at places -/

/-- The value of the cell at a place, where one is present. -/
def valueAt? (l : Layout) (record : Record) (place : String × ℕ) : Option Cell :=
  if l.cellText record place.2 = "" then none
  else Cell.read? (l.datatype place.2 place.1) (l.cellText record place.2)

/-- The cell at a place is present and cannot be read. -/
def isBadAt (l : Layout) (record : Record) (place : String × ℕ) : Bool :=
  l.cellText record place.2 ≠ "" && (l.valueAt? record place).isNone

/-- The cell at a place, with the name of its column. -/
def cellAt? (l : Layout) (record : Record) (place : String × ℕ) : Option (String × Cell) :=
  (l.valueAt? record place).map fun cell => (place.1, cell)

/-- Cells are read from left to right, up to the first that is bad. -/
theorem cells_eq (l : Layout) (record : Record) (index : ℕ) (columns : List String) :
    l.cells record index columns =
      match (columns.zipIdx index).find? (l.isBadAt record) with
      | some (column, i) => .error (.badCell (l.cellText record i) (l.datatype i column))
      | none => .ok ((columns.zipIdx index).filterMap (l.cellAt? record)) := by
  induction columns generalizing index with
  | nil => rfl
  | cons column columns ih =>
      rw [cells, List.zipIdx_cons, List.find?_cons, List.filterMap_cons]
      dsimp only
      by_cases htext : l.cellText record index = ""
      · have hvalue : l.valueAt? record (column, index) = none := if_pos htext
        have hbad : l.isBadAt record (column, index) = false := by
          rw [isBadAt, htext]
          rfl
        rw [if_pos htext, ih, hbad, cellAt?, hvalue]
        rfl
      · have hvalue : l.valueAt? record (column, index) =
            Cell.read? (l.datatype index column) (l.cellText record index) := if_neg htext
        have hbad : l.isBadAt record (column, index) =
            (Cell.read? (l.datatype index column) (l.cellText record index)).isNone := by
          rw [isBadAt, hvalue, decide_eq_true htext, Bool.true_and]
        rw [if_neg htext, hbad, cellAt?, hvalue]
        cases Cell.read? (l.datatype index column) (l.cellText record index) with
        | none => rfl
        | some cell =>
            rw [ih]
            cases (columns.zipIdx (index + 1)).find? (l.isBadAt record) with
            | none => rfl
            | some place => rfl

/-- A cell is present where its text is not empty. -/
theorem isPresent_iff : l.IsPresent header record i column text datatype ↔
    (column, i) ∈ places header ∧ l.cellText record i = text ∧ text ≠ "" ∧
      l.datatype i column = datatype := by
  rw [mem_places_iff, ← datatypeAt_iff, ← and_assoc (b := text ≠ ""), ← textAt_iff]
  constructor
  · rintro ⟨hdata, hnamed, htext, hdatatype⟩
    exact ⟨⟨hdata, hnamed⟩, htext, hdatatype⟩
  · rintro ⟨⟨hdata, hnamed⟩, htext, hdatatype⟩
    exact ⟨hdata, hnamed, htext, hdatatype⟩

/-- The value of a place is what its text is read as. -/
theorem holds_iff : l.Holds header record column i cell ↔
    (column, i) ∈ places header ∧ l.valueAt? record (column, i) = some cell := by
  simp only [Holds, isPresent_iff, valueAt?, Option.ite_none_left_eq_some, ← Cell.read?_eq_some_iff]
  constructor
  · rintro ⟨_, _, ⟨hmem, rfl, hne, rfl⟩, hread⟩
    exact ⟨hmem, hne, hread⟩
  · rintro ⟨hmem, hne, hread⟩
    exact ⟨_, _, ⟨hmem, rfl, hne, rfl⟩, hread⟩

/-- A place is unreadable where its text is not read. -/
theorem unreadable_iff {e : StoreError} : l.Unreadable header record i e ↔
    ∃ column, (column, i) ∈ places header ∧ l.isBadAt record (column, i) = true ∧
      e = .badCell (l.cellText record i) (l.datatype i column) := by
  simp only [Unreadable, isPresent_iff, isBadAt, Bool.and_eq_true, decide_eq_true_eq,
    Option.isNone_iff_eq_none, ← Cell.read?_eq_none_iff]
  constructor
  · rintro ⟨column, _, _, ⟨hmem, rfl, hne, rfl⟩, hread, he⟩
    exact ⟨column, hmem, ⟨hne, (if_neg hne).trans hread⟩, he⟩
  · rintro ⟨column, hmem, ⟨hne, hvalue⟩, he⟩
    exact ⟨column, _, _, ⟨hmem, rfl, hne, rfl⟩, (if_neg hne).symm.trans hvalue, he⟩

/-! ## Times -/

/-- The time of a place is the value of a column of that name. -/
theorem holdsTime_iff {t : Instant} :
    l.HoldsTime header record i t ↔ l.Holds header record "_time" i (.time t) := by
  constructor
  · rintro ⟨text, datatype, hpresent, -, hread⟩
    exact ⟨text, datatype, hpresent, hread⟩
  · rintro ⟨text, datatype, hpresent, hread⟩
    exact ⟨text, datatype, hpresent, Cell.isTimeType_of_reads hread, hread⟩

/-- A cell gives the time of its row under the name of the time column alone. -/
theorem timeOf?_eq_some_iff {t : Instant} :
    timeOf? (column, cell) = some t ↔ column = "_time" ∧ cell = .time t := by
  unfold timeOf?
  split
  · next column' t' heq =>
    obtain ⟨rfl, rfl⟩ := Prod.mk.inj heq
    show (if column = "_time" then some t' else none) = some t ↔ _
    rw [Option.ite_none_right_eq_some, Option.some.injEq, Cell.time.injEq]
  · next hnot =>
    constructor
    · exact nofun
    · rintro ⟨rfl, rfl⟩
      exact absurd rfl (hnot _ _)

/-! ## Records -/

/-- The cells of the record that are present. -/
def cellsOf (l : Layout) (header record : Record) : List (String × Cell) :=
  (places header).filterMap (l.cellAt? record)

/-- A record under a header without error column. -/
theorem row_eq (hheader : l.header = some header) (herror : "error" ∉ header) :
    l.row record =
      match (places header).find? (l.isBadAt record) with
      | some (column, i) => .error (.badCell (l.cellText record i) (l.datatype i column))
      | none =>
        match ((l.cellsOf header record).filterMap timeOf?).getLast? with
        | none => .error .rowWithoutTime
        | some time => .ok (Row.ofCells time (l.cellsOf header record)) := by
  have hindex : header.idxOf? errorColumn = none := List.idxOf?_eq_none_iff.2 herror
  rw [row, hheader]
  dsimp only
  rw [hindex]
  dsimp only
  rw [cells_eq, ← places]
  cases (places header).find? (l.isBadAt record) with
  | some place => rfl
  | none => rfl

/-- The value of a name at a place is the cell that is read there under that name. -/
theorem holds_iff_named {name : String} (i : ℕ) (cell : Cell) :
    l.Holds header record name i cell ↔ ∃ column, (column, i) ∈ places header ∧
      (l.cellAt? record (column, i)).bind (Row.named? name) = some cell := by
  simp only [holds_iff, cellAt?, Option.bind_map, Option.bind_eq_some_iff, Function.comp_apply,
    Row.named?, Option.ite_none_right_eq_some, Option.some.injEq]
  constructor
  · rintro ⟨hmem, hvalue⟩
    exact ⟨name, hmem, cell, hvalue, rfl, rfl⟩
  · rintro ⟨_, hmem, _, hvalue, rfl, rfl⟩
    exact ⟨hmem, hvalue⟩

/-- The time of a place is the one that the cell gives that is read there. -/
theorem holdsTime_iff_timeOf? (i : ℕ) (t : Instant) :
    l.HoldsTime header record i t ↔ ∃ column, (column, i) ∈ places header ∧
      (l.cellAt? record (column, i)).bind timeOf? = some t := by
  simp only [holdsTime_iff, holds_iff, cellAt?, Option.bind_map, Option.bind_eq_some_iff,
    Function.comp_apply, timeOf?_eq_some_iff]
  constructor
  · rintro ⟨hmem, hvalue⟩
    exact ⟨"_time", hmem, _, hvalue, rfl, rfl⟩
  · rintro ⟨_, hmem, _, hvalue, rfl, rfl⟩
    exact ⟨hmem, hvalue⟩

/-- A name that is in the header once has one place. -/
theorem eq_of_count_eq_one {i j : ℕ} (hcount : header.count column = 1) (hi : header[i]? = some column)
    (hj : header[j]? = some column) : i = j := by
  have htwice : ∀ {m n : ℕ}, header[m]? = some column → header[n]? = some column → ¬ m < n := by
    intro m n hm hn hlt
    obtain ⟨hm', hm⟩ := List.getElem?_eq_some_iff.1 hm
    obtain ⟨hn', hn⟩ := List.getElem?_eq_some_iff.1 hn
    have hduplicate : List.Duplicate column header :=
      List.duplicate_iff_exists_distinct_get.2 ⟨⟨m, hm'⟩, ⟨n, hn'⟩, hlt, hm.symm, hn.symm⟩
    have htwo := List.duplicate_iff_two_le_count.1 hduplicate
    omega
  exact Nat.le_antisymm (Nat.not_lt.1 (htwice hj hi)) (Nat.not_lt.1 (htwice hi hj))

/-- The last time in a time column. -/
theorem getLast?_times_eq_some_iff {t : Instant} :
    ((l.cellsOf header record).filterMap timeOf?).getLast? = some t ↔
      AtLast (l.HoldsTime header record) t := by
  rw [cellsOf, List.filterMap_filterMap]
  exact getLast?_places_eq_some_iff holdsTime_iff_timeOf?

/-- No cell gives a time where no place holds one. -/
theorem getLast?_times_eq_none_iff :
    ((l.cellsOf header record).filterMap timeOf?).getLast? = none ↔
      ∀ i t, ¬ l.HoldsTime header record i t := by
  rw [cellsOf, List.filterMap_filterMap]
  exact getLast?_places_eq_none_iff holdsTime_iff_timeOf?

/-- The cells of a record, set one after the other, make up its row. -/
theorem isRowOf_ofCells {time : Instant} (hlast : AtLast (l.HoldsTime header record) time) :
    l.IsRowOf header record (Row.ofCells time (l.cellsOf header record)) := by
  have hcell : ∀ column cell, (Row.ofCells time (l.cellsOf header record)).get? column = some cell ↔
      AtLast (l.Holds header record column) cell := by
    intro column cell
    rw [Row.get?_ofCells, cellsOf, List.filterMap_filterMap]
    exact getLast?_places_eq_some_iff holds_iff_named
  refine ⟨hcell, ?_, Row.nodup_ofCells _ _, ?_, ?_⟩
  · intro column
    rw [Row.get?_ofCells, cellsOf, List.filterMap_filterMap]
    exact getLast?_places_eq_none_iff holds_iff_named
  · rw [Row.time_ofCells]
    exact hlast
  · intro hcount
    rw [hcell, Row.time_ofCells]
    obtain ⟨i, hi, -⟩ := hlast
    have hholds := holdsTime_iff.1 hi
    refine ⟨i, hholds, ?_⟩
    rintro j cell hlt ⟨_, _, hj, -⟩
    obtain ⟨_, _, hi, -⟩ := hholds
    exact absurd (eq_of_count_eq_one hcount hi.named hj.named) (Nat.ne_of_lt hlt)

/-- Only the cells under the columns for data are read. -/
theorem row_congr {other : Record} (hheader : l.header = some header) (herror : "error" ∉ header)
    (h : ∀ i, 1 ≤ i → i < header.length → other[i]? = record[i]?) : l.row other = l.row record := by
  have htext : ∀ p ∈ places header, l.cellText other p.2 = l.cellText record p.2 := by
    rintro ⟨column, i⟩ hmem
    obtain ⟨hdata, hnamed⟩ := mem_places_iff.1 hmem
    rw [cellText, cellText, h i hdata (List.getElem?_eq_some_iff.1 hnamed).1]
  have hvalue : ∀ p ∈ places header, l.valueAt? other p = l.valueAt? record p := by
    intro p hp
    rw [valueAt?, valueAt?, htext p hp]
  have hbad : (places header).find? (l.isBadAt other) = (places header).find? (l.isBadAt record) := by
    apply List.find?_congr
    intro p hp
    rw [isBadAt, isBadAt, htext p hp, hvalue p hp]
  have hcells : l.cellsOf header other = l.cellsOf header record := by
    apply List.filterMap_congr
    intro p hp
    rw [cellAt?, cellAt?, hvalue p hp]
  rw [row_eq hheader herror, row_eq hheader herror, hbad, hcells]
  cases hfind : (places header).find? (l.isBadAt record) with
  | none => rfl
  | some place =>
      dsimp only
      rw [htext place (List.mem_of_find?_eq_some hfind)]

/-- What a record gives, under a header without error column. -/
structure ReadsRow (l : Layout) (header record : Record) : Prop where
  /-- The leftmost cell that cannot be read is the error, whether there is a time or not. -/
  bad_cell : (∃ i e, l.Unreadable header record i e) →
    ∃ e, AtFirst (l.Unreadable header record) e ∧ l.row record = .error e
  /-- Such an error tells the text of the cell and its datatype. -/
  named : ∀ text datatype text' datatype', StoreError.badCell text datatype = .badCell text' datatype' →
    text = text' ∧ datatype = datatype'
  /-- Without a cell in a time column that is a time by its datatype, the time is missing. -/
  no_time : (∀ i e, ¬ l.Unreadable header record i e) →
    (∀ i text datatype, l.IsPresent header record i "_time" text datatype →
      ¬ Cell.IsTimeType datatype) →
    l.row record = .error (.malformedResult "row has no _time timestamp")
  /-- With one, and all cells readable, there is a row. -/
  row : (∀ i e, ¬ l.Unreadable header record i e) →
    (∃ i text datatype, l.IsPresent header record i "_time" text datatype ∧
      Cell.IsTimeType datatype) →
    ∃ r, l.row record = .ok r ∧ l.IsRowOf header record r
  /-- The first cell and those beyond the header have no influence. -/
  no_influence : ∀ other : Record,
    (∀ i, 1 ≤ i → i < header.length → other[i]? = record[i]?) → l.row other = l.row record

/-- A cell of a time column that can be read is a time, if its datatype is. -/
theorem exists_holdsTime {text datatype : String} (hreadable : ∀ e, ¬ l.Unreadable header record i e)
    (hpresent : l.IsPresent header record i "_time" text datatype) (htype : Cell.IsTimeType datatype) :
    ∃ t, l.HoldsTime header record i t := by
  by_contra hnone
  refine hreadable _ ⟨_, text, datatype, hpresent, ?_, rfl⟩
  intro cell hread
  obtain ⟨t, rfl⟩ := Cell.exists_time_of_reads hread htype
  exact hnone ⟨t, text, datatype, hpresent, htype, hread⟩

/-- The cell that the search finds is the leftmost that cannot be read. -/
theorem atFirst_of_find? (h : (places header).find? (l.isBadAt record) = some (column, i)) :
    AtFirst (l.Unreadable header record) (.badCell (l.cellText record i) (l.datatype i column)) := by
  obtain ⟨hbad, before, behind, hsplit, hnone⟩ := List.find?_eq_some_iff_append.1 h
  refine ⟨i, unreadable_iff.2 ⟨column, List.mem_of_find?_eq_some h, hbad, rfl⟩, ?_⟩
  intro j e hlt hj
  obtain ⟨column', hmem, hbad', -⟩ := unreadable_iff.1 hj
  have hreadable := hnone _ ((mem_before_iff hsplit).2 ⟨hmem, hlt⟩)
  rw [hbad'] at hreadable
  exact Bool.false_ne_true hreadable

/-- Where every place is readable, no bad cell is found. -/
theorem find?_eq_none_of_readable (h : ∀ i e, ¬ l.Unreadable header record i e) :
    (places header).find? (l.isBadAt record) = none := by
  rw [List.find?_eq_none]
  rintro ⟨column, i⟩ hmem hbad
  exact h i _ (unreadable_iff.2 ⟨column, hmem, hbad, rfl⟩)

/-- The time of a row is one that a cell of the record holds. -/
theorem exists_holdsTime_of_row_eq_ok {r : Row} (h : l.row record = .ok r) :
    ∃ header i, l.HoldsTime header record i r.time := by
  cases hheader : l.header with
  | none =>
      rw [row, hheader] at h
      cases h
  | some header =>
      by_cases herror : "error" ∈ header
      · obtain ⟨index, hindex⟩ := Option.ne_none_iff_exists'.1 (mt List.idxOf?_eq_none_iff.1 (not_not.2 herror))
        rw [row, hheader] at h
        dsimp only at h
        rw [errorColumn, hindex] at h
        cases h
      · rw [row_eq hheader herror] at h
        split at h
        · cases h
        · split at h
          · cases h
          · next time htime =>
            cases h
            obtain ⟨i, hi, -⟩ := getLast?_times_eq_some_iff.1 htime
            rw [Row.time_ofCells]
            exact ⟨header, i, hi⟩

/-- A record is refused for its first unreadable cell, else for want of a time, or is its row. -/
theorem readsRow (hheader : l.header = some header) (herror : "error" ∉ header) :
    ReadsRow l header record where
  bad_cell := by
    rintro ⟨i, e, hbad⟩
    rw [row_eq hheader herror]
    cases hfind : (places header).find? (l.isBadAt record) with
    | none =>
        obtain ⟨column, hmem, hplace, -⟩ := unreadable_iff.1 hbad
        exact absurd hplace (List.find?_eq_none.1 hfind _ hmem)
    | some place => exact ⟨_, atFirst_of_find? hfind, rfl⟩
  named _ _ _ _ := StoreError.badCell_inj.1
  no_time := by
    intro hreadable hnone
    have htimes : ((l.cellsOf header record).filterMap timeOf?).getLast? = none := by
      rw [getLast?_times_eq_none_iff]
      rintro i t ⟨text, datatype, hpresent, htype, -⟩
      exact hnone i text datatype hpresent htype
    rw [row_eq hheader herror, find?_eq_none_of_readable hreadable]
    dsimp only
    rw [htimes]
    rfl
  row := by
    rintro hreadable ⟨i, text, datatype, hpresent, htype⟩
    rw [row_eq hheader herror, find?_eq_none_of_readable hreadable]
    dsimp only
    cases htimes : ((l.cellsOf header record).filterMap timeOf?).getLast? with
    | none =>
        obtain ⟨t, ht⟩ := exists_holdsTime (hreadable i) hpresent htype
        exact absurd ht (getLast?_times_eq_none_iff.1 htimes i t)
    | some time => exact ⟨_, rfl, isRowOf_ofCells (getLast?_times_eq_some_iff.1 htimes)⟩
  no_influence := fun _ => row_congr hheader herror

/-- A table whose annotations do not reach its last columns, and whose name `value` comes back. -/
def raggedTable : Layout where
  datatypes := ["#datatype", "string", "dateTime:RFC3339", "long", "double", "boolean"]
  defaults := ["#default", "_result", "", "5"]
  header := some ["", "result", "_time", "value", "value", "open", "_stop", "room"]

/-- Of the first record the first value is a default, the second a number behind it, and the end is missing. The
second record has a bad number and no time, and it is the number that it is refused for. -/
theorem readsRow_raggedTable :
    (raggedTable.header = some ["", "result", "_time", "value", "value", "open", "_stop", "room"] ∧
        "error" ∉ ["", "result", "_time", "value", "value", "open", "_stop", "room"]) ∧
      ReadsRow raggedTable ["", "result", "_time", "value", "value", "open", "_stop", "room"]
        ["note", "", "2024-01-15T14:05:00.25+01:00", "", "-2.5e-1", "true"] ∧
      raggedTable.row ["note", "", "", "", "2\"5", "yes"] =
        .error (.malformedResult "cannot read \"2\\\"5\" as double") ∧
      raggedTable.row ["note", "", "2024-01-15T14:05:00.25+01:00", "", "-2.5e-1", "true"] =
        .ok ⟨⟨1705323900, 250000000⟩, [("result", .string "_result"), ("_time", .time ⟨1705323900, 250000000⟩),
          ("value", .float64 (.ofRatio true 1 4)), ("open", .boolean true)]⟩ := by
  have herror : "error" ∉ ["", "result", "_time", "value", "value", "open", "_stop", "room"] := by decide
  exact ⟨⟨rfl, herror⟩, readsRow rfl herror, by decide +kernel, by decide +kernel⟩

end Layout

end SeriesQuery
