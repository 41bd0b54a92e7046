import SeriesQuery.Table.Cursor

/-!
# Rows of records

What a cursor gives for each record, and for records one after the other. Only a row of data gives an
item, and only an annotation or a header changes the layout. A run over records ends with the layout
`Layout.after` (`rowsFrom_append`), unless an error ended it before (`rowsFrom_append_of_error`).
-/

namespace SeriesQuery

namespace Layout

/-- The record is neither an annotation nor a header. -/
def isRow (record : Record) : Bool := !isRemark record && !isHeader record

/-- The layout after a record. -/
def step (l : Layout) (record : Record) : Layout :=
  if isRemark record then l.remark record
  else if isHeader record then l.withHeader record
  else l

/-- The layout after records. -/
def after (l : Layout) (records : List Record) : Layout := records.foldl step l

theorem after_cons (l : Layout) (record : Record) (records : List Record) :
    l.after (record :: records) = (l.step record).after records := rfl

theorem after_append (l : Layout) (as bs : List Record) :
    l.after (as ++ bs) = (l.after as).after bs := List.foldl_append

theorem after_concat (l : Layout) (records : List Record) (record : Record) :
    l.after (records ++ [record]) = (l.after records).step record := by
  rw [after_append]
  rfl

/-- A row is neither an annotation nor a header. -/
theorem isRow_iff {record : Record} :
    isRow record = true ↔ isRemark record = false ∧ isHeader record = false := by
  rw [isRow, Bool.and_eq_true, Bool.not_eq_true', Bool.not_eq_true']

/-- An annotation is not a header: the first cell of a header is empty. -/
theorem isRemark_eq_false_of_isHeader {record : Record} (h : isHeader record = true) :
    isRemark record = false := by
  cases record with
  | nil => rfl
  | cons cell cells =>
      rw [isHeader, Bool.and_eq_true] at h
      have hcell : cell = "" := by simpa using h.1
      rw [isRemark, List.head?_cons, Option.getD_some, hcell]
      decide

/-- No annotation is a header. -/
theorem isHeader_eq_false_of_isRemark {record : Record} (h : isRemark record = true) :
    isHeader record = false := by
  cases hheader : isHeader record with
  | false => rfl
  | true =>
      rw [isRemark_eq_false_of_isHeader hheader] at h
      exact nomatch h

/-- A row leaves the layout as it is. -/
theorem step_of_isRow {l : Layout} {record : Record} (h : isRow record = true) :
    l.step record = l := by
  obtain ⟨hremark, hheader⟩ := isRow_iff.1 h
  rw [step, hremark, hheader]
  rfl

/-- An annotation is noted. -/
theorem step_of_isRemark {l : Layout} {record : Record} (h : isRemark record = true) :
    l.step record = l.remark record := if_pos h

/-- A header takes its place. -/
theorem step_of_isHeader {l : Layout} {record : Record} (h : isHeader record = true) :
    l.step record = l.withHeader record := by
  rw [step, isRemark_eq_false_of_isHeader h, h]
  rfl

end Layout

namespace Cursor

open Layout

/-- All rows of the records under a layout, with the error that ends them, if one does. -/
def rowsFrom (layout : Layout) (records : List (Except FramingFault Record)) :
    List (Except StoreError Row) :=
  toList { records := records, layout := layout }

/-- No error is among the items. -/
def NoError (items : List (Except StoreError Row)) : Prop := ∀ e, .error e ∉ items

/-! ## One record -/

/-- The items of a cursor, one pull after the other. -/
theorem toList_eq (c : Cursor) :
    c.toList = match c.next with
      | (none, _) => []
      | (some item, d) => item :: d.toList := by
  rw [toList]
  split <;> next h => rw [h]

/-- A cursor that has ended has no items. -/
theorem toList_of_ended {c : Cursor} (h : c.ended = true) : c.toList = [] := by
  rw [toList_eq, next, if_pos h]

/-- A row that is found under a layout is that of a record. -/
theorem exists_row_of_nextFrom {l : Layout} {records : List (Except FramingFault Record)} {r : Row} {d : Cursor}
    (h : nextFrom l records = (some (.ok r), d)) : ∃ (l : Layout) (record : Record), l.row record = .ok r := by
  fun_induction nextFrom l records with
  | case1 => cases h
  | case2 => cases h
  | case3 layout record rest hremark ih => exact ih h
  | case4 layout record rest hremark hheader ih => exact ih h
  | case5 layout record rest hremark hheader row hrow =>
      cases h
      exact ⟨layout, record, hrow⟩
  | case6 => cases h

/-- Every row is that of a record. -/
theorem exists_row_of_mem_toList {c : Cursor} {r : Row} (h : .ok r ∈ c.toList) :
    ∃ (l : Layout) (record : Record), l.row record = .ok r := by
  induction c using toList.induct with
  | case1 c d hnext =>
      rw [toList_eq, hnext] at h
      cases h
  | case2 c item d hnext ih =>
      rw [toList_eq, hnext] at h
      rcases List.mem_cons.1 h with rfl | hbehind
      · rw [next] at hnext
        split at hnext
        · cases hnext
        · exact exists_row_of_nextFrom hnext
      · exact ih hbehind

/-- The items of records, one pull after the other. -/
theorem rowsFrom_eq (l : Layout) (records : List (Except FramingFault Record)) :
    rowsFrom l records = match nextFrom l records with
      | (none, _) => []
      | (some item, d) => item :: d.toList := toList_eq _

theorem rowsFrom_nil (l : Layout) : rowsFrom l [] = [] := by
  rw [rowsFrom_eq, nextFrom]

/-- A record that could not be read gives an error. -/
theorem rowsFrom_error (l : Layout) (fault : FramingFault)
    (rest : List (Except FramingFault Record)) :
    rowsFrom l (.error fault :: rest) = [.error (.framing fault)] := by
  rw [rowsFrom_eq, nextFrom]
  simp only [toList_of_ended]

/-- A row that can be read comes next. -/
theorem nextFrom_of_row_eq_ok {l : Layout} {record : Record}
    {rest : List (Except FramingFault Record)} {row : Row} (h : isRow record = true)
    (hrow : l.row record = .ok row) :
    nextFrom l (.ok record :: rest) = (some (.ok row), { records := rest, layout := l }) := by
  obtain ⟨hremark, hheader⟩ := isRow_iff.1 h
  rw [nextFrom, hremark, hheader]
  simp only [Bool.false_eq_true, if_false, hrow]

/-- One that cannot be read comes as its error, and the last. -/
theorem nextFrom_of_row_eq_error {l : Layout} {record : Record}
    {rest : List (Except FramingFault Record)} {e : StoreError} (h : isRow record = true)
    (hrow : l.row record = .error e) :
    nextFrom l (.ok record :: rest) =
      (some (.error e), { records := rest, layout := l, ended := true }) := by
  obtain ⟨hremark, hheader⟩ := isRow_iff.1 h
  rw [nextFrom, hremark, hheader]
  simp only [Bool.false_eq_true, if_false, hrow]

/-- Behind a row that can be read the records go on under the same layout. -/
theorem rowsFrom_of_row_eq_ok {l : Layout} {record : Record}
    {rest : List (Except FramingFault Record)} {row : Row} (h : isRow record = true)
    (hrow : l.row record = .ok row) :
    rowsFrom l (.ok record :: rest) = .ok row :: rowsFrom l rest := by
  rw [rowsFrom_eq, nextFrom_of_row_eq_ok h hrow]
  rfl

/-- No more items come after an error. -/
theorem rowsFrom_of_row_eq_error {l : Layout} {record : Record}
    {rest : List (Except FramingFault Record)} {e : StoreError} (h : isRow record = true)
    (hrow : l.row record = .error e) : rowsFrom l (.ok record :: rest) = [.error e] := by
  rw [rowsFrom_eq, nextFrom_of_row_eq_error h hrow]
  simp only [toList_of_ended]

/-- A row gives its item. -/
theorem exists_rowsFrom_of_isRow (l : Layout) {record : Record}
    (rest : List (Except FramingFault Record)) (h : isRow record = true) :
    ∃ items, rowsFrom l (.ok record :: rest) = l.row record :: items := by
  cases hrow : l.row record with
  | ok row => exact ⟨_, rowsFrom_of_row_eq_ok h hrow⟩
  | error e => exact ⟨_, rowsFrom_of_row_eq_error h hrow⟩

theorem rowsFrom_singleton (l : Layout) {record : Record} (h : isRow record = true) :
    rowsFrom l [.ok record] = [l.row record] := by
  cases hrow : l.row record with
  | ok row => rw [rowsFrom_of_row_eq_ok h hrow, rowsFrom_nil]
  | error e => rw [rowsFrom_of_row_eq_error h hrow]

/-- Annotations and headers are stepped over. -/
theorem nextFrom_of_not_isRow {l : Layout} {record : Record}
    {rest : List (Except FramingFault Record)} (h : isRow record = false) :
    nextFrom l (.ok record :: rest) = nextFrom (l.step record) rest := by
  rw [nextFrom, step]
  split
  · rfl
  · split
    · rfl
    · next hremark hheader => simp [isRow, hremark, hheader] at h

/-- Another record changes the layout and gives no item. -/
theorem rowsFrom_of_not_isRow {l : Layout} {record : Record}
    {rest : List (Except FramingFault Record)} (h : isRow record = false) :
    rowsFrom l (.ok record :: rest) = rowsFrom (l.step record) rest := by
  rw [rowsFrom_eq, rowsFrom_eq, nextFrom_of_not_isRow h]

/-! ## Records one after the other -/

/-- All records are read: no item is an error, each row has one, and more records are read behind them
under the layout that they leave. -/
structure Reads (l : Layout) (records : List Record) : Prop where
  noError : NoError (rowsFrom l (records.map .ok))
  length : (rowsFrom l (records.map .ok)).length = records.countP isRow
  append : ∀ more, rowsFrom l (records.map .ok ++ more) =
    rowsFrom l (records.map .ok) ++ rowsFrom (l.after records) more

/-- No records are read without error. -/
theorem reads_nil (l : Layout) : Reads l [] where
  noError e he := by simp [rowsFrom_nil] at he
  length := by rw [List.map_nil, rowsFrom_nil]; rfl
  append more := by rw [List.map_nil, rowsFrom_nil]; rfl

/-- An annotation or a header in front leaves records readable that are so behind it. -/
theorem reads_cons_of_not_isRow {l : Layout} {record : Record} {records : List Record}
    (hrow : isRow record = false) (h : Reads (l.step record) records) :
    Reads l (record :: records) := by
  have hrecords : ∀ more, rowsFrom l (.ok record :: more) = rowsFrom (l.step record) more :=
    fun _ => rowsFrom_of_not_isRow hrow
  constructor
  case noError => rw [List.map_cons, hrecords]; exact h.noError
  case length => rw [List.map_cons, hrecords, h.length, List.countP_cons_of_neg (by simp [hrow])]
  case append =>
      intro more
      rw [List.map_cons, List.cons_append, hrecords, hrecords, after_cons]
      exact h.append more

/-- A row that can be read in front leaves records readable that are so behind it. -/
theorem reads_cons_of_row_eq_ok {l : Layout} {record : Record} {records : List Record} {row : Row}
    (hrow : isRow record = true) (hitem : l.row record = .ok row) (h : Reads l records) :
    Reads l (record :: records) := by
  have hrecords : ∀ more, rowsFrom l (.ok record :: more) = .ok row :: rowsFrom l more :=
    fun _ => rowsFrom_of_row_eq_ok hrow hitem
  constructor
  case noError =>
      intro e he
      rw [List.map_cons, hrecords] at he
      exact h.noError e ((List.mem_cons.1 he).resolve_left nofun)
  case length =>
      rw [List.map_cons, hrecords, List.length_cons, h.length, List.countP_cons_of_pos hrow]
  case append =>
      intro more
      rw [List.map_cons, List.cons_append, hrecords, hrecords, after_cons, step_of_isRow hrow,
        h.append, List.cons_append]

/-- Either all records are read, or one of them is the first whose item is an error. -/
theorem reads_or_fails (l : Layout) (records : List Record) :
    Reads l records ∨ ∃ before record rest e, records = before ++ record :: rest ∧
      isRow record = true ∧ Reads l before ∧ (l.after before).row record = .error e := by
  -- only a row with an error ends the induction, so the layout has to vary
  induction records generalizing l with
  | nil => exact .inl (reads_nil l)
  | cons record records ih =>
      cases hrow : isRow record with
      | false =>
          rcases ih (l.step record) with h | ⟨before, failing, rest, e, rfl, hfailing, h, he⟩
          · exact .inl (reads_cons_of_not_isRow hrow h)
          · exact .inr ⟨record :: before, failing, rest, e, rfl, hfailing,
              reads_cons_of_not_isRow hrow h, he⟩
      | true =>
          cases hitem : l.row record with
          | error e => exact .inr ⟨[], record, records, e, rfl, hrow, reads_nil l, hitem⟩
          | ok row =>
              rcases ih l with h | ⟨before, failing, rest, e, rfl, hfailing, h, he⟩
              · exact .inl (reads_cons_of_row_eq_ok hrow hitem h)
              · refine .inr ⟨record :: before, failing, rest, e, rfl, hfailing,
                  reads_cons_of_row_eq_ok hrow hitem h, ?_⟩
                rw [after_cons, step_of_isRow hrow]
                exact he

/-- The item of the first row that fails is the last. -/
theorem Reads.rowsFrom_of_error {l : Layout} {before : List Record} {record : Record}
    {rest : List (Except FramingFault Record)} {e : StoreError} (h : Reads l before)
    (hrow : isRow record = true) (he : (l.after before).row record = .error e) :
    rowsFrom l (before.map .ok ++ .ok record :: rest) =
      rowsFrom l (before.map .ok) ++ [.error e] := by
  rw [h.append, rowsFrom_of_row_eq_error hrow he]

/-- Records without an error among their items are read. -/
theorem reads_of_noError {l : Layout} {records : List Record}
    (h : NoError (rowsFrom l (records.map .ok))) : Reads l records := by
  rcases reads_or_fails l records with hreads | ⟨before, record, rest, e, rfl, hrow, hreads, he⟩
  · exact hreads
  · rw [List.map_append, List.map_cons, hreads.rowsFrom_of_error hrow he] at h
    exact absurd List.mem_concat_self (h e)

/-- Records are read up to any point. -/
theorem Reads.prefix {l : Layout} {as bs : List Record} (h : Reads l (as ++ bs)) : Reads l as := by
  rcases reads_or_fails l as with hreads | ⟨before, record, rest, e, rfl, hrow, hreads, he⟩
  · exact hreads
  · have hall : rowsFrom l ((before ++ record :: rest ++ bs).map .ok) =
        rowsFrom l (before.map .ok) ++ [.error e] := by
      rw [List.append_assoc, List.cons_append, List.map_append, List.map_cons,
        hreads.rowsFrom_of_error hrow he]
    have hok := h.noError e
    rw [hall] at hok
    exact absurd List.mem_concat_self hok

end Cursor

end SeriesQuery
