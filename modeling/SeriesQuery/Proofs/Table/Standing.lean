import Mathlib.Data.List.DropRight
import SeriesQuery.Proofs.Table.Rows

/-!
# The layout behind records

Which header and which annotations a row is read by, in terms of the records before it. `pending` are the
annotations since the last header; the next header takes them over (`after_header`) and keeps them as long
as only rows follow. An annotation behind a header ends the table of that header (`header_after`).
-/

namespace SeriesQuery

namespace Layout

/-- The records behind the last header. -/
def sinceHeader (records : List Record) : List Record := records.rtakeWhile fun r => !isHeader r

/-- The last record with the given first cell, or none. -/
def lastNamed (name : String) (records : List Record) : Record :=
  (records.reverse.find? fun r => r.head? == some name).getD []

/-- The annotations that the next header takes over. -/
def pending (records : List Record) : Layout where
  datatypes := lastNamed "#datatype" (sinceHeader records)
  defaults := lastNamed "#default" (sinceHeader records)

/-- The layout of a header behind the given records. -/
def ofHeader (earlier : List Record) (header : Record) : Layout where
  datatypes := lastNamed "#datatype" (sinceHeader earlier)
  defaults := lastNamed "#default" (sinceHeader earlier)
  header := some header

/-- No header stands: there is none, or an annotation follows the last one. -/
def Headless (records : List Record) : Prop :=
  (∀ r ∈ records, isHeader r = false) ∨
    ∃ earlier header later, records = earlier ++ header :: later ∧ isHeader header = true ∧
      (∀ r ∈ later, isHeader r = false) ∧ ∃ r ∈ later, isRemark r = true

/-- The header is the last one of the records, and no annotation follows it. -/
def Stands (records earlier : List Record) (header : Record) : Prop :=
  ∃ later, records = earlier ++ header :: later ∧ isHeader header = true ∧
    ∀ r ∈ later, isRow r = true

/-! ## Annotations -/

/-- The last record counts if it has the name. -/
theorem lastNamed_concat (name : String) (records : List Record) (record : Record) :
    lastNamed name (records ++ [record]) =
      if record.head? = some name then record else lastNamed name records := by
  unfold lastNamed
  rw [List.reverse_concat]
  split
  · next h => rw [List.find?_cons_of_pos (by simp [h]), Option.getD_some]
  · next h => rw [List.find?_cons_of_neg (by simp [h])]

/-- A header uses up the annotations before it. -/
theorem pending_concat_of_isHeader {records : List Record} {record : Record}
    (h : isHeader record = true) : pending (records ++ [record]) = {} := by
  have hsince : sinceHeader (records ++ [record]) = [] :=
    List.rtakeWhile_concat_neg _ _ _ (by simp [h])
  rw [pending, hsince]
  rfl

/-- Any other record counts if it is an annotation. -/
theorem pending_concat {records : List Record} {record : Record} (h : isHeader record = false) :
    pending (records ++ [record]) =
      { datatypes :=
          if record.head? = some "#datatype" then record else (pending records).datatypes
        defaults :=
          if record.head? = some "#default" then record else (pending records).defaults } := by
  have hsince : sinceHeader (records ++ [record]) = sinceHeader records ++ [record] :=
    List.rtakeWhile_concat_pos _ _ _ (by simp [h])
  rw [pending, hsince, lastNamed_concat, lastNamed_concat]
  rfl

/-- A record whose first cell starts with `#` is an annotation. -/
theorem isRemark_of_head? {name : String} {record : Record} (h : record.head? = some name)
    (hname : name.toList.head? = some '#') : isRemark record = true := by
  rw [isRemark, h, Option.getD_some, hname]
  rfl

theorem header_fresh (l : Layout) : l.fresh.header = none := by
  unfold fresh
  split
  · rfl
  · next h => simpa using h

theorem header_remark (l : Layout) (record : Record) : (l.remark record).header = none := by
  unfold remark
  split <;> exact header_fresh l

/-- Before a header, the layout is fresh as it is. -/
theorem fresh_of_header_eq_none {l : Layout} (h : l.header = none) : l.fresh = l := by
  rw [fresh, h]
  rfl

/-- An annotation of a kind replaces the one of this kind. -/
theorem remark_eq (l : Layout) (record : Record) :
    l.remark record =
      { datatypes := if record.head? = some "#datatype" then record else l.fresh.datatypes
        defaults := if record.head? = some "#default" then record else l.fresh.defaults } := by
  have hfresh : l.fresh = { datatypes := l.fresh.datatypes, defaults := l.fresh.defaults } := by
    rw [← header_fresh l]
  cases record with
  | nil => exact hfresh
  | cons cell cells =>
      simp only [remark, List.head?_cons, Option.getD_some, Option.some.injEq]
      split
      · rw [hfresh]; rfl
      · rw [hfresh]; rfl
      · next hdatatype hdefault =>
        rw [if_neg hdatatype, if_neg hdefault]
        exact hfresh

/-- The annotations that a reader keeps for the next header. -/
theorem fresh_after (records : List Record) :
    (Layout.after {} records).fresh = pending records := by
  -- from the end, since each record replaces what those before it left
  induction records using List.reverseRecOn with
  | nil => rfl
  | append_singleton records record ih =>
      rw [after_concat]
      cases hremark : isRemark record with
      | true =>
          rw [step_of_isRemark hremark, fresh_of_header_eq_none (header_remark _ _), remark_eq, ih,
            pending_concat (isHeader_eq_false_of_isRemark hremark)]
      | false =>
          cases hheader : isHeader record with
          | true => rw [step_of_isHeader hheader, pending_concat_of_isHeader hheader]; rfl
          | false =>
              -- both named annotations start with `#`, so a row is none of them
              have hname : ∀ name : String, name.toList.head? = some '#' →
                  record.head? ≠ some name := by
                intro name hname h
                rw [isRemark_of_head? h hname] at hremark
                exact nomatch hremark
              rw [step_of_isRow (isRow_iff.2 ⟨hremark, hheader⟩), ih, pending_concat hheader,
                if_neg (hname _ (by decide)), if_neg (hname _ (by decide))]
              rfl

/-! ## Headers -/

/-- A header stands with the annotations before it. -/
theorem after_header (records : List Record) {header : Record} (h : isHeader header = true) :
    Layout.after {} (records ++ [header]) = ofHeader records header := by
  rw [after_concat, step_of_isHeader h, withHeader, fresh_after]
  rfl

/-- Rows leave the layout as it is. -/
theorem after_of_isRow {l : Layout} {records : List Record} (h : ∀ r ∈ records, isRow r = true) :
    l.after records = l := by
  induction records with
  | nil => rfl
  | cons record records ih =>
      obtain ⟨hrow, hrows⟩ := List.forall_mem_cons.1 h
      rw [after_cons, step_of_isRow hrow, ih hrows]

/-- Records without a header keep that of the layout, unless one of them is an annotation. -/
theorem header_after {l : Layout} {records : List Record}
    (h : ∀ r ∈ records, isHeader r = false) :
    (l.after records).header = if records.any isRemark then none else l.header := by
  induction records generalizing l with
  | nil => rfl
  | cons record records ih =>
      obtain ⟨hheader, hheaders⟩ := List.forall_mem_cons.1 h
      rw [after_cons, ih hheaders, List.any_cons]
      cases hremark : isRemark record with
      | true => simp [step_of_isRemark hremark, header_remark]
      | false => rw [step_of_isRow (isRow_iff.2 ⟨hremark, hheader⟩), Bool.false_or]

/-- Headless records leave a layout without header. -/
theorem header_eq_none_of_headless {records : List Record} (h : Headless records) :
    (Layout.after {} records).header = none := by
  rcases h with h | ⟨earlier, header, later, rfl, -, hlater, hremark⟩
  · rw [header_after h]
    split <;> rfl
  · rw [List.append_cons, after_append, header_after hlater, if_pos (List.any_eq_true.2 hremark)]

/-- Where a header stands, the layout is the one that it brought. -/
theorem after_of_stands {records earlier : List Record} {header : Record}
    (h : Stands records earlier header) : Layout.after {} records = ofHeader earlier header := by
  obtain ⟨later, rfl, hheader, hlater⟩ := h
  rw [List.append_cons, after_append, after_header earlier hheader, after_of_isRow hlater]

/-- There is no third case. -/
theorem headless_or_stands (records : List Record) :
    Headless records ∨ ∃ earlier header, Stands records earlier header := by
  induction records using List.reverseRecOn with
  | nil => exact .inl (.inl (List.forall_mem_nil _))
  | append_singleton records record ih =>
      cases hheader : isHeader record with
      | true => exact .inr ⟨records, record, [], rfl, hheader, List.forall_mem_nil _⟩
      | false =>
          have hconcat : ∀ {rs : List Record}, (∀ r ∈ rs, isHeader r = false) →
              ∀ r ∈ rs ++ [record], isHeader r = false := fun h =>
            List.forall_mem_append.2 ⟨h, List.forall_mem_singleton.2 hheader⟩
          rcases ih with (h | ⟨earlier, header, later, rfl, hstands, hlater, r, hr, hremark⟩) |
            ⟨earlier, header, later, rfl, hstands, hlater⟩
          · exact .inl (.inl (hconcat h))
          · exact .inl (.inr ⟨earlier, header, later ++ [record], by simp, hstands, hconcat hlater,
              r, List.mem_append_left _ hr, hremark⟩)
          · -- a header stands so far, and the last record decides whether it still does
            cases hremark : isRemark record with
            | true =>
                have hheaders := fun r hr => (isRow_iff.1 (hlater r hr)).2
                exact .inl (.inr ⟨earlier, header, later ++ [record], by simp, hstands,
                  hconcat hheaders, record, by simp, hremark⟩)
            | false =>
                have hrow := isRow_iff.2 ⟨hremark, hheader⟩
                exact .inr ⟨earlier, header, later ++ [record], by simp, hstands,
                  List.forall_mem_append.2 ⟨hlater, List.forall_mem_singleton.2 hrow⟩⟩

end Layout

namespace Cursor

open Layout

/-- A row that is reached without an error has one item, behind one for each row before it. If no header
stands, the item says so. If a header does, the item is the row under that header and the annotations
since the header before. -/
theorem rowsFrom_row {before : List Record} {record : Record}
    {rest : List (Except FramingFault Record)} (hrow : isRow record = true)
    (hok : NoError (rowsFrom {} (before.map .ok))) :
    ∃ item items,
      rowsFrom {} (before.map .ok ++ .ok record :: rest) =
        rowsFrom {} (before.map .ok) ++ item :: items ∧
      (rowsFrom {} (before.map .ok)).length = before.countP isRow ∧
      (Headless before → item = .error .rowBeforeHeader) ∧
      (∀ earlier header, Stands before earlier header →
        item = (ofHeader earlier header).row record) ∧
      (Headless before ∨ ∃ earlier header, Stands before earlier header) := by
  have hreads := reads_of_noError hok
  obtain ⟨items, hitems⟩ := exists_rowsFrom_of_isRow (Layout.after {} before) rest hrow
  refine ⟨(Layout.after {} before).row record, items, ?_, hreads.length, ?_, ?_,
    headless_or_stands before⟩
  · rw [hreads.append, hitems]
  · intro hheadless
    rw [Layout.row, header_eq_none_of_headless hheadless]
  · intro earlier header hstands
    rw [after_of_stands hstands]

/-- Two headers, the first with datatypes. -/
def twoHeaders : List Record :=
  [["#datatype", "string", "long"], ["", "result", "level"], ["", "result", "level", "_time"]]

/-- The second header does not take over the datatypes of the first. -/
theorem rowsFrom_twoHeaders :
    isRow ["", "", "21", "1970-01-01T00:01:00Z"] = true ∧ rowsFrom {} (twoHeaders.map .ok) = [] ∧
      ∃ items, rowsFrom {} (twoHeaders.map .ok ++ [.ok ["", "", "21", "1970-01-01T00:01:00Z"]]) =
        .ok ⟨⟨60, 0⟩, [("level", .string "21"), ("_time", .time ⟨60, 0⟩)]⟩ :: items := by
  have hrow : isRow ["", "", "21", "1970-01-01T00:01:00Z"] = true := by decide
  have hnone : rowsFrom {} (twoHeaders.map .ok) = [] := by
    rw [twoHeaders, List.map_cons, List.map_cons, List.map_cons, rowsFrom_of_not_isRow (by decide),
      rowsFrom_of_not_isRow (by decide), rowsFrom_of_not_isRow (by decide), List.map_nil,
      rowsFrom_nil]
  have hok : NoError (rowsFrom {} (twoHeaders.map .ok)) := by
    intro e he
    rw [hnone] at he
    exact List.not_mem_nil he
  have hheader : Stands twoHeaders [["#datatype", "string", "long"], ["", "result", "level"]]
      ["", "result", "level", "_time"] := ⟨[], rfl, by decide, List.forall_mem_nil _⟩
  obtain ⟨item, items, hitems, -, -, hstands, -⟩ := rowsFrom_row hrow hok
  have hitem : item = .ok ⟨⟨60, 0⟩, [("level", .string "21"), ("_time", .time ⟨60, 0⟩)]⟩ := by
    rw [hstands _ _ hheader]
    decide +kernel
  exact ⟨hrow, hnone, items, by rw [hitems, hnone, hitem]; rfl⟩

end Cursor

end SeriesQuery
