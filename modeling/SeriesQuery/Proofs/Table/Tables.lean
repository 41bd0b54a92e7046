import SeriesQuery.Proofs.Table.Rows

/-!
# Results made of tables

In a well-formed table annotations and a header come first, and every further record is a row of data,
whatever its cells. A reader knows a header by its first two cells alone, wherever it stands. So it gives
one item for each row of data exactly as long as no second cell is the name of a header
(`oneItemPerRow_iff`); a row with such a cell is lost, and the rows behind it are read by its cells.
-/

namespace SeriesQuery

/-- A table with annotations. Nothing but the first cell of its rows is fixed. -/
structure AnnotatedTable where
  remarks : List Record
  header : Record
  rows : List Record
  remarks_ne_nil : remarks ≠ []
  isRemark_of_mem : ∀ r ∈ remarks, Layout.isRemark r = true
  header_cells : header[0]? = some "" ∧ header[1]? = some "result"
  rows_cell : ∀ r ∈ rows, r[0]? = some ""

/-- Records, each with whether it is a row of data. -/
abbrev MarkedRecords := List (Record × Bool)

namespace AnnotatedTable

/-- The records of the table. -/
def marked (t : AnnotatedTable) : MarkedRecords :=
  t.remarks.map (·, false) ++ (t.header, false) :: t.rows.map (·, true)

end AnnotatedTable

namespace Cursor

open Layout

/-- The items of a result with the given records. -/
def items (records : MarkedRecords) : List (Except StoreError Row) :=
  rowsFrom {} ((records.map Prod.fst).map .ok)

/-- The items are those of the rows, in order: one for each row up to the first error, which is the last
item, and none for another record. -/
structure OneItemPerRow (records : MarkedRecords) : Prop where
  item : ∀ {before row after}, records = before ++ (row, true) :: after → NoError (items before) →
    ∃ item rest, items records = items before ++ item :: rest ∧
      items (before ++ [(row, true)]) = items before ++ [item]
  index : ∀ {before row after}, records = before ++ (row, true) :: after → NoError (items before) →
    (items before).length = before.countP Prod.snd
  length : NoError (items records) → (items records).length = records.countP Prod.snd
  stop : ∀ {e}, .error e ∈ items records → ∃ before row after,
    records = before ++ (row, true) :: after ∧ NoError (items before) ∧
      items records = items before ++ [.error e]

/-! ## Marks and kinds of records -/

/-- What the marks of the records of tables say about them. -/
structure WellMarked (records : MarkedRecords) : Prop where
  isRow_eq_false : ∀ {record}, (record, false) ∈ records → isRow record = false
  first_cell : ∀ {record}, (record, true) ∈ records → record[0]? = some ""

/-- The marks of tables are right about their records. -/
theorem wellMarked_tables (tables : List AnnotatedTable) :
    WellMarked (tables.flatMap AnnotatedTable.marked) := by
  constructor
  case isRow_eq_false =>
      intro record hr
      obtain ⟨t, -, hr⟩ := List.mem_flatMap.1 hr
      simp only [AnnotatedTable.marked, List.mem_append, List.mem_map, List.mem_cons, Prod.mk.injEq,
        and_true, exists_eq_right, and_false, exists_false, or_false, Bool.true_eq_false] at hr
      rcases hr with hr | rfl
      · rw [isRow, t.isRemark_of_mem record hr]
        rfl
      · simp [isRow, isHeader, t.header_cells]
  case first_cell =>
      intro record hr
      obtain ⟨t, -, hr⟩ := List.mem_flatMap.1 hr
      simp only [AnnotatedTable.marked, List.mem_append, List.mem_map, List.mem_cons, Prod.mk.injEq,
        and_true, exists_eq_right, Bool.false_eq_true, and_false, exists_false, false_or,
        Bool.true_eq_false] at hr
      exact t.rows_cell record hr

/-- A record with an empty first cell is a row unless its second cell is that of a header. -/
theorem isRow_iff_of_cell {record : Record} (h : record[0]? = some "") :
    isRow record = true ↔ record[1]? ≠ some "result" ∧ record[1]? ≠ some "error" := by
  have hhead : record.head? = some "" := by rw [List.head?_eq_getElem?, h]
  have hremark : isRemark record = false := by
    rw [isRemark, hhead]
    decide
  simp [isRow, hremark, isHeader, h, errorColumn]

/-! ## When no row is lost -/

section

variable {records before : MarkedRecords}

/-- A row that is reached without an error does not look like a header. -/
def RowsKnown (records : MarkedRecords) : Prop :=
  ∀ before row after, records = before ++ (row, true) :: after → NoError (items before) →
    isRow row = true

/-- Behind records without an error the items go on. -/
theorem items_append (hok : NoError (items before)) (more : MarkedRecords) :
    items (before ++ more) = items before ++
      rowsFrom (Layout.after {} (before.map Prod.fst)) ((more.map Prod.fst).map .ok) := by
  rw [items, List.map_append, List.map_append, (reads_of_noError hok).append]
  rfl

/-- If all rows that are reached are known as rows, the records before an error are what their marks
say. -/
theorem isRow_eq_mark (hmarked : WellMarked records) (hknown : RowsKnown records)
    {after : MarkedRecords} (hsplit : records = before ++ after) (hok : NoError (items before)) :
    ∀ r ∈ before, isRow r.1 = r.2 := by
  rintro ⟨record, mark⟩ hr
  cases mark with
  | false => exact hmarked.isRow_eq_false (hsplit ▸ List.mem_append_left _ hr)
  | true =>
      obtain ⟨earlier, later, rfl⟩ := List.append_of_mem hr
      have hreads := reads_of_noError hok
      rw [List.map_append] at hreads
      refine hknown earlier record (later ++ after) ?_ hreads.prefix.noError
      rw [hsplit, List.append_assoc, List.cons_append]

/-- Up to an error there is one item for each row. -/
theorem length_items (hmarked : WellMarked records) (hknown : RowsKnown records)
    {after : MarkedRecords} (hsplit : records = before ++ after) (hok : NoError (items before)) :
    (items before).length = before.countP Prod.snd := by
  rw [items, (reads_of_noError hok).length, List.countP_map]
  refine List.countP_congr fun r hr => ?_
  rw [Function.comp_apply, isRow_eq_mark hmarked hknown hsplit hok r hr]

/-- The first error is the item of a row. -/
theorem exists_stop (hmarked : WellMarked records) {e : StoreError} (he : .error e ∈ items records) :
    ∃ before row after, records = before ++ (row, true) :: after ∧ NoError (items before) ∧
      items records = items before ++ [.error e] := by
  rcases reads_or_fails {} (records.map Prod.fst) with
    hreads | ⟨before, record, rest, e', hsplit, hrow, hreads, he'⟩
  · exact absurd he (hreads.noError e)
  · -- the failing record is a row, so its mark says so
    obtain ⟨earlier, tail, rfl, rfl, htail⟩ := List.map_eq_append_iff.1 hsplit
    obtain ⟨⟨row, mark⟩, later, rfl, rfl, rfl⟩ := List.map_eq_cons_iff.1 htail
    have hitems : items (earlier ++ (row, mark) :: later) = items earlier ++ [.error e'] := by
      rw [items, List.map_append, List.map_cons, List.map_append, List.map_cons,
        hreads.rowsFrom_of_error hrow he']
      rfl
    have hmark : mark = true := by
      cases mark with
      | true => rfl
      | false =>
          rw [hmarked.isRow_eq_false (List.mem_append_right _ List.mem_cons_self)] at hrow
          exact nomatch hrow
    rw [hitems] at he ⊢
    have heq : (Except.error e : Except StoreError Row) = .error e' :=
      List.mem_singleton.1 ((List.mem_append.1 he).resolve_left (hreads.noError e))
    rw [Except.error.inj heq]
    exact ⟨earlier, row, later, by rw [hmark], hreads.noError, rfl⟩

/-- A reader gives one item for each row of the tables exactly if no row that it reaches has `result` or
`error` as its second cell. -/
theorem oneItemPerRow_iff (tables : List AnnotatedTable) :
    OneItemPerRow (tables.flatMap AnnotatedTable.marked) ↔
      ∀ before row after, tables.flatMap AnnotatedTable.marked = before ++ (row, true) :: after →
        NoError (items before) → row[1]? ≠ some "result" ∧ row[1]? ≠ some "error" := by
  have hmarked := wellMarked_tables tables
  generalize tables.flatMap AnnotatedTable.marked = records at hmarked
  have hcell : ∀ {before row after}, records = before ++ (row, true) :: after → row[0]? = some "" := by
    rintro before row after rfl
    exact hmarked.first_cell (List.mem_append_right _ List.mem_cons_self)
  constructor
  · intro h before row after hsplit hok
    rw [← isRow_iff_of_cell (hcell hsplit)]
    obtain ⟨item, -, -, hitem⟩ := h.item hsplit hok
    rw [items_append hok, List.map_singleton, List.map_singleton] at hitem
    cases hrow : isRow row with
    | true => rfl
    | false =>
        -- no item comes where one is due
        rw [rowsFrom_of_not_isRow hrow, rowsFrom_nil] at hitem
        exact absurd (List.append_cancel_left hitem).symm (List.cons_ne_nil _ _)
  · intro h
    have hknown : RowsKnown records := fun before row after hsplit hok =>
      (isRow_iff_of_cell (hcell hsplit)).2 (h before row after hsplit hok)
    constructor
    case item =>
        intro before row after hsplit hok
        have hrow := hknown before row after hsplit hok
        obtain ⟨rest, hrest⟩ := exists_rowsFrom_of_isRow (Layout.after {} (before.map Prod.fst))
          ((after.map Prod.fst).map .ok) hrow
        refine ⟨(Layout.after {} (before.map Prod.fst)).row row, rest, ?_, ?_⟩
        · rw [hsplit, items_append hok, List.map_cons, List.map_cons, hrest]
        · rw [items_append hok, List.map_singleton, List.map_singleton, rowsFrom_singleton _ hrow]
    case index => exact fun hsplit hok => length_items hmarked hknown hsplit hok
    case length =>
        exact fun hok => length_items hmarked hknown (List.append_nil _).symm hok
    case stop => exact fun he => exists_stop hmarked he

end

/-- A table of one row, of a result called `result`. -/
def calledResult : AnnotatedTable where
  remarks := [["#datatype", "string", "long", "dateTime:RFC3339", "double"]]
  header := ["", "result", "table", "_time", "_value"]
  rows := [["", "result", "0", "2024-01-15T13:05:00Z", "1.5"]]
  remarks_ne_nil := by decide
  isRemark_of_mem := by decide
  header_cells := by decide
  rows_cell := by decide

/-- The row of this table is taken for a header. There is neither an item for it nor an error. -/
theorem not_oneItemPerRow_calledResult :
    items calledResult.marked = [] ∧ ¬ OneItemPerRow ([calledResult].flatMap AnnotatedTable.marked) := by
  have hnone : items calledResult.marked = [] := by
    change rowsFrom {} [.ok _, .ok _, .ok _] = []
    rw [rowsFrom_of_not_isRow (by decide), rowsFrom_of_not_isRow (by decide),
      rowsFrom_of_not_isRow (by decide), rowsFrom_nil]
  refine ⟨hnone, fun h => ?_⟩
  have hlength := h.length
  rw [List.flatMap_singleton, hnone] at hlength
  exact absurd (hlength fun e => List.not_mem_nil) (by decide)

end Cursor

end SeriesQuery
