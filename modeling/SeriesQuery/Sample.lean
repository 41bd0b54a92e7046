import SeriesQuery.Query.Error
import SeriesQuery.Table.Cursor

/-!
# Samples

Rows become samples: the time of the row, a number from the value column, and a text from the tag column.
Decoding is all or nothing: rows are pulled until there are none, or until the first row that is no sample or
the first error of their source, which is the answer then. Rows and errors may be of any kind; a `View` says
what decoding sees of them.
-/

namespace SeriesQuery

/-- A decoded row. -/
structure Sample where
  time : Instant
  value : Option Binary64
  tag : String
  deriving DecidableEq, Repr

/-- The columns that samples are read from. -/
structure DecodeOptions where
  valueColumn : String := "_value"
  tagColumn : String := "sensor_type"
  deriving DecidableEq, Repr

namespace Sample

/-- The tag in a cell: a text, or the empty text when there is no cell. -/
def readTag (column : String) : Option Cell → Except QueryError String
  | none => .ok ""
  | some (.string text) => .ok text
  | some cell => .error (.unsupportedValueType column cell.typeName)

/-- The value in a cell: a floating-point number, if there is a cell. -/
def readValue (column : String) : Option Cell → Except QueryError (Option Binary64)
  | none => .ok none
  | some (.float32 x) => .ok (some (Binary64.ofBinary32 x))
  | some (.float64 x) => .ok (some x)
  | some cell => .error (.unsupportedValueType column cell.typeName)

/-- The sample of a time and two cells. A bad tag is reported before a bad value. -/
def ofCells (o : DecodeOptions) (time : Instant) (tagCell valueCell : Option Cell) :
    Except QueryError Sample := do
  let tag ← readTag o.tagColumn tagCell
  let value ← readValue o.valueColumn valueCell
  return ⟨time, value, tag⟩

/-- What decoding sees of a stream: the sentence of an error, and the time and the cells of a row. -/
structure View (ε ρ : Type) where
  message : ε → String
  time : ρ → Instant
  get? : ρ → String → Option Cell

/-- The view of the rows of a store. -/
def View.ofStore : View StoreError Row := ⟨StoreError.message, Row.time, Row.get?⟩

variable {σ ε ρ : Type}

/-- The sample of a row. -/
def ofRow (v : View ε ρ) (o : DecodeOptions) (row : ρ) : Except QueryError Sample :=
  ofCells o (v.time row) (v.get? row o.tagColumn) (v.get? row o.valueColumn)

/-- The sample of an item of a stream. -/
def ofItem (v : View ε ρ) (o : DecodeOptions) : Except ε ρ → Except QueryError Sample
  | .error e => .error (.brokenStream (v.message e))
  | .ok row => ofRow v o row

/-- A good item leads from the second state of a source to the first. -/
def Behind (v : View ε ρ) (o : DecodeOptions) (next : σ → Option (Except ε ρ) × σ) (t s : σ) : Prop :=
  ∃ item sample, next s = (some item, t) ∧ ofItem v o item = .ok sample

/-- The source does not give good items for ever. -/
def Stops (v : View ε ρ) (o : DecodeOptions) (next : σ → Option (Except ε ρ) × σ) (s : σ) : Prop :=
  Acc (Behind v o next) s

/-- The samples of the rows that a source still has, in order, and the source that is left. `next` pulls an
item, if there is one. -/
def decodeFrom (v : View ε ρ) (o : DecodeOptions) (next : σ → Option (Except ε ρ) × σ) (s : σ)
    (stops : Stops v o next s) : Except QueryError (List Sample) × σ :=
  match hpull : next s with
  | (none, t) => (.ok [], t)
  | (some item, t) =>
    match hitem : ofItem v o item with
    | .error e => (.error e, t)
    | .ok sample =>
      let (result, left) := decodeFrom v o next t (stops.inv ⟨item, sample, hpull, hitem⟩)
      (result.map (sample :: ·), left)
  termination_by (⟨s, stops⟩ : { s // Acc (Behind v o next) s })
  decreasing_by exact ⟨item, sample, hpull, hitem⟩

/-- A source that gets smaller with each item stops. -/
theorem stops_of_size (v : View ε ρ) (o : DecodeOptions) {next : σ → Option (Except ε ρ) × σ}
    (size : σ → Nat) (h : ∀ {s t item}, next s = (some item, t) → size t < size s) (s : σ) :
    Stops v o next s := by
  have hsub : Subrelation (Behind v o next) (measure size).rel := fun ⟨_, _, hpull, _⟩ => h hpull
  exact hsub.accessible ((measure size).wf.apply s)

/-- The samples of all rows, in order. -/
def decode (o : DecodeOptions) (rows : Rows) : Except QueryError (List Sample) :=
  (decodeFrom .ofStore o Rows.next rows (stops_of_size .ofStore o Rows.size Rows.size_next_lt rows)).1

end Sample

end SeriesQuery
