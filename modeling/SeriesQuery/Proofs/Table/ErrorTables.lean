import SeriesQuery.Proofs.Outcome
import SeriesQuery.Proofs.Table.Standing

/-!
# Error tables

The second cell of a header tells an error table from a table of results, but a row fails when any column
of its header is called `error` (`row_eq_failed_iff`). So failures of the store come from error tables
alone exactly as long as no header of a table of results has such a column (`failsInErrorTables_iff`).
-/

namespace SeriesQuery

open Outcome

namespace Layout

/-- What a row under the header says about a failure of the store, if a column is there to say it. -/
def failure? (header record : Record) : Option String :=
  (header.idxOf? errorColumn).map fun index => record[index]?.getD ""

/-- Records fail only under a header with the column of errors. -/
theorem failure?_eq_none_iff {header record : Record} :
    failure? header record = none ↔ errorColumn ∉ header := by
  rw [failure?, Option.map_eq_none_iff, List.idxOf?_eq_none_iff]

/-- A cell that cannot be read makes the result malformed; it is no failure of the store. -/
theorem cells_ne_failed (l : Layout) (record : Record) (index : Nat) (columns : List String)
    (reason : String) : l.cells record index columns ≠ .error (.failed reason) := by
  induction columns generalizing index with
  | nil => exact nofun
  | cons column columns ih =>
      rw [cells]
      dsimp only
      split
      · exact ih (index + 1)
      · split
        · exact nofun
        · intro h
          rcases bind_eq_error_iff.1 h with hrest | ⟨cells, -, hcell⟩
          · exact ih (index + 1) hrest
          · exact nomatch hcell

/-- A row fails when its header has an error column, in whichever place, and says why in that column. -/
theorem row_eq_failed_iff {l : Layout} {record : Record} {reason : String} :
    l.row record = .error (.failed reason) ↔
      ∃ header, l.header = some header ∧ failure? header record = some reason := by
  rw [row]
  cases hheader : l.header with
  | none =>
      constructor
      · intro h
        cases h
      · rintro ⟨header, hsome, -⟩
        cases hsome
  | some header =>
      simp only [Option.some.injEq, exists_eq_left', failure?]
      cases header.idxOf? errorColumn with
      | some index => simp only [Except.error.injEq, StoreError.failed.injEq, Option.map_some,
          Option.some.injEq]
      | none =>
          constructor
          · intro h
            rcases bind_eq_error_iff.1 h with hcells | ⟨cells, -, htime⟩
            · exact absurd hcells (cells_ne_failed l record 1 _ reason)
            · split at htime <;> cases htime
          · intro h
            cases h

end Layout

namespace Cursor

open Layout

variable {records : List (Except FramingFault Record)} {before : List Record} {record : Record}

/-- The record is a row that is read behind the given ones: no item before its own is an error. -/
structure Reached (records : List (Except FramingFault Record)) (before : List Record)
    (record : Record) : Prop where
  split : ∃ rest, records = before.map .ok ++ .ok record :: rest
  isRow : isRow record = true
  noError : NoError (rowsFrom {} (before.map .ok))

/-- The item behind those of the given records. -/
def itemBehind (records : List (Except FramingFault Record)) (before : List Record) :
    Option (Except StoreError Row) :=
  (rowsFrom {} records)[before.countP isRow]?

/-- The item of a row that is reached is the row under the layout that the records before it leave. -/
theorem Reached.itemBehind_eq (h : Reached records before record) :
    itemBehind records before = some ((Layout.after {} before).row record) := by
  obtain ⟨rest, rfl⟩ := h.split
  have hreads : Reads {} before := reads_of_noError h.noError
  obtain ⟨items, hitems⟩ := exists_rowsFrom_of_isRow (Layout.after {} before) rest h.isRow
  rw [itemBehind, hreads.append, hitems, ← hreads.length, List.getElem?_append_right (Nat.le_refl _),
    Nat.sub_self, List.getElem?_cons_zero]

/-- The item is a failure exactly when the header that stands has an error column. -/
theorem Reached.itemBehind_eq_failed_iff (h : Reached records before record) {reason : String} :
    itemBehind records before = some (.error (.failed reason)) ↔
      ∃ earlier header, Stands before earlier header ∧ failure? header record = some reason := by
  rw [h.itemBehind_eq, Option.some.injEq, row_eq_failed_iff]
  constructor
  · rintro ⟨header, hheader, hfailure⟩
    rcases headless_or_stands before with hheadless | ⟨earlier, header', hstands⟩
    · rw [header_eq_none_of_headless hheadless] at hheader
      exact nomatch hheader
    · rw [after_of_stands hstands] at hheader
      have heq : header' = header := Option.some.inj hheader
      exact ⟨earlier, header, heq ▸ hstands, hfailure⟩
  · rintro ⟨earlier, header, hstands, hfailure⟩
    exact ⟨header, by rw [after_of_stands hstands]; rfl, hfailure⟩

/-- One header stands at most. -/
theorem stands_unique {earlier earlier' : List Record} {header header' : Record}
    (h : Stands before earlier header) (h' : Stands before earlier' header') : header = header' := by
  have hlayouts : ofHeader earlier header = ofHeader earlier' header' := by
    rw [← after_of_stands h, ← after_of_stands h']
  exact Option.some.inj (congrArg Layout.header hlayouts)

/-- A header is that of an error table or that of a table of results. -/
theorem second_cell_of_stands {earlier : List Record} {header : Record}
    (h : Stands before earlier header) : header[1]? = some "result" ∨ header[1]? = some "error" := by
  obtain ⟨later, -, hheader, -⟩ := h
  simp only [isHeader, Bool.and_eq_true, Bool.or_eq_true, beq_iff_eq, errorColumn] at hheader
  exact hheader.2

/-- Failures of the store come from error tables, and from no table of results. -/
structure FailsInErrorTables (records : List (Except FramingFault Record)) : Prop where
  second_cell : ∀ {before record reason}, Reached records before record →
    itemBehind records before = some (.error (.failed reason)) →
    ∃ earlier header, Stands before earlier header ∧ header[1]? = some "error"
  not_failed : ∀ {before record earlier header reason}, Reached records before record →
    Stands before earlier header → header[1]? = some "result" →
    itemBehind records before ≠ some (.error (.failed reason))

/-- Failures come from error tables alone exactly as long as rows of results stand under headers without
a column called `error`. -/
theorem failsInErrorTables_iff (records : List (Except FramingFault Record)) :
    FailsInErrorTables records ↔
      ∀ before record earlier header, Reached records before record →
        Stands before earlier header → header[1]? = some "result" → "error" ∉ header := by
  constructor
  · intro h before record earlier header hreached hstands hresult hmem
    cases hfailure : failure? header record with
    | none => exact failure?_eq_none_iff.1 hfailure hmem
    | some reason =>
        have hitem : itemBehind records before = some (.error (.failed reason)) :=
          hreached.itemBehind_eq_failed_iff.2 ⟨earlier, header, hstands, hfailure⟩
        exact h.not_failed hreached hstands hresult hitem
  · intro h
    have hnone : ∀ {before record earlier header}, Reached records before record →
        Stands before earlier header → header[1]? = some "result" → failure? header record = none :=
      fun hreached hstands hresult =>
        failure?_eq_none_iff.2 (h _ _ _ _ hreached hstands hresult)
    constructor
    case second_cell =>
        intro before record reason hreached hitem
        obtain ⟨earlier, header, hstands, hreason⟩ := hreached.itemBehind_eq_failed_iff.1 hitem
        refine ⟨earlier, header, hstands, (second_cell_of_stands hstands).resolve_left ?_⟩
        intro hresult
        rw [hnone hreached hstands hresult] at hreason
        exact nomatch hreason
    case not_failed =>
        intro before record earlier header reason hreached hstands hresult hitem
        obtain ⟨earlier', header', hstands', hreason⟩ := hreached.itemBehind_eq_failed_iff.1 hitem
        rw [← stands_unique hstands hstands', hnone hreached hstands hresult] at hreason
        exact nomatch hreason

/-- The annotation and the header of a table of results that has a tag `error`. -/
def errorTag : List Record :=
  [["#datatype", "string", "long", "dateTime:RFC3339", "double", "string"],
    ["", "result", "table", "_time", "_value", "error"]]

/-- A row of this table, with a tag and all other cells in order. -/
def errorTagRow : Record := ["", "", "0", "2024-01-15T13:05:00Z", "1.5", "E7"]

/-- The row is taken for a failure of the store, though its table is no error table. -/
theorem not_failsInErrorTables_errorTag :
    rowsFrom {} ((errorTag ++ [errorTagRow]).map .ok) = [.error (.failed "E7")] ∧
      ¬ FailsInErrorTables ((errorTag ++ [errorTagRow]).map .ok) := by
  have hnone : rowsFrom {} (errorTag.map .ok) = [] := by
    rw [errorTag, List.map_cons, List.map_cons, rowsFrom_of_not_isRow (by decide),
      rowsFrom_of_not_isRow (by decide), List.map_nil, rowsFrom_nil]
  have hreached : Reached ((errorTag ++ [errorTagRow]).map .ok) errorTag errorTagRow := by
    refine ⟨⟨[], List.map_append⟩, by decide, ?_⟩
    rw [hnone]
    exact fun e => List.not_mem_nil
  have hstands : Stands errorTag errorTag.dropLast ["", "result", "table", "_time", "_value", "error"] :=
    ⟨[], rfl, by decide, List.forall_mem_nil _⟩
  have hrow : (Layout.after {} errorTag).row errorTagRow = .error (.failed "E7") :=
    row_eq_failed_iff.2 ⟨_, by rw [after_of_stands hstands]; rfl, by decide⟩
  constructor
  · have hreads : Reads {} errorTag := reads_of_noError hreached.noError
    rw [List.map_append, hreads.append, hnone, List.map_singleton, rowsFrom_singleton _ hreached.isRow,
      hrow, List.nil_append]
  · intro h
    have hitem : itemBehind ((errorTag ++ [errorTagRow]).map .ok) errorTag =
        some (.error (.failed "E7")) := by rw [hreached.itemBehind_eq, hrow]
    exact h.not_failed hreached hstands rfl hitem

end Cursor

end SeriesQuery
