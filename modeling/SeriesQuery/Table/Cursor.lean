import SeriesQuery.Table.Layout

/-!
# Reading rows one by one

A cursor stands between two rows of a result. `next` skips annotations and headers, keeps the layout of
the table at hand, and gives the next row; after an error there are no more rows. `Rows` are what a client
hands over: a cursor, or rows that are there already.
-/

namespace SeriesQuery

/-- A place in a result: the records still to come, the layout of the table, and whether an error ended
the rows. -/
structure Cursor where
  records : List (Except FramingFault Record)
  layout : Layout := {}
  ended : Bool := false

namespace Cursor

/-- At the start of the bytes of a result. `failure` is why their source fails after them, if it does. -/
def ofBytes (bytes : List UInt8) (failure : Option String := none) : Cursor :=
  { records := Framing.records bytes failure }

/-- The next row under a layout, and the cursor behind it. -/
def nextFrom (layout : Layout) :
    List (Except FramingFault Record) → Option (Except StoreError Row) × Cursor
  | [] => (none, { records := [], layout := layout })
  | .error fault :: rest =>
    (some (.error (.framing fault)), { records := rest, layout := layout, ended := true })
  | .ok record :: rest =>
    if Layout.isRemark record then nextFrom (layout.remark record) rest
    else if Layout.isHeader record then nextFrom (layout.withHeader record) rest
    else
      match layout.row record with
      | .ok row => (some (.ok row), { records := rest, layout := layout })
      | .error e => (some (.error e), { records := rest, layout := layout, ended := true })

/-- The next row, and the cursor behind it. -/
def next (c : Cursor) : Option (Except StoreError Row) × Cursor :=
  if c.ended then (none, c) else nextFrom c.layout c.records

/-- What gives an item has taken a record. -/
theorem length_nextFrom_lt {layout : Layout} {records : List (Except FramingFault Record)}
    {item : Except StoreError Row} {c : Cursor} (h : nextFrom layout records = (some item, c)) :
    c.records.length < records.length := by
  fun_induction nextFrom layout records with
  | case1 => cases h
  | case2 =>
    cases h
    exact Nat.lt_succ_self _
  | case3 layout record rest hremark ih => exact Nat.lt_succ_of_lt (ih h)
  | case4 layout record rest hremark hheader ih => exact Nat.lt_succ_of_lt (ih h)
  | case5 =>
    cases h
    exact Nat.lt_succ_self _
  | case6 =>
    cases h
    exact Nat.lt_succ_self _

/-- Fewer records are left behind an item. -/
theorem length_next_lt {c d : Cursor} {item : Except StoreError Row}
    (h : c.next = (some item, d)) : d.records.length < c.records.length := by
  unfold next at h
  split at h
  · simp at h
  · exact length_nextFrom_lt h

/-- All rows that are still to come, with the error that ends them, if one does. -/
def toList (c : Cursor) : List (Except StoreError Row) :=
  match _h : c.next with
  | (none, _) => []
  | (some item, d) => item :: d.toList
  termination_by c.records.length
  decreasing_by exact length_next_lt _h

end Cursor

/-- Rows that are handed over, to be pulled one after the other. -/
inductive Rows where
  /-- Rows at hand. -/
  | listed (items : List (Except StoreError Row))
  /-- Rows that are read from a result when they are pulled. -/
  | read (cursor : Cursor)

namespace Rows

/-- The next row, and the rows behind it. -/
def next : Rows → Option (Except StoreError Row) × Rows
  | listed [] => (none, listed [])
  | listed (item :: items) => (some item, listed items)
  | read cursor => cursor.next.map id read

/-- The rows that can be pulled at most. -/
def size : Rows → Nat
  | listed items => items.length
  | read cursor => cursor.records.length

/-- Each row that is pulled leaves fewer. -/
theorem size_next_lt {rows rest : Rows} {item : Except StoreError Row}
    (h : rows.next = (some item, rest)) : rest.size < rows.size := by
  match rows with
  | listed [] => cases h
  | listed (_ :: items) =>
    cases h
    exact Nat.lt_succ_self _
  | read cursor =>
    cases hnext : cursor.next with
    | mk first d =>
      rw [next, hnext] at h
      cases h
      exact Cursor.length_next_lt hnext

/-- All rows that are still to come. -/
def toList : Rows → List (Except StoreError Row)
  | listed items => items
  | read cursor => cursor.toList

end Rows

end SeriesQuery
