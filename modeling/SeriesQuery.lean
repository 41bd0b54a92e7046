import SeriesQuery.Calendar.Date
import SeriesQuery.Calendar.Instant
import SeriesQuery.Calendar.Timestamp
import SeriesQuery.Calendar.Zone
import SeriesQuery.Command.Arguments
import SeriesQuery.Command.Files
import SeriesQuery.Command.Report
import SeriesQuery.Command.Run
import SeriesQuery.Command.Session
import SeriesQuery.Json.Decode
import SeriesQuery.Json.Number
import SeriesQuery.Json.Reader
import SeriesQuery.Json.Text
import SeriesQuery.Json.Tree
import SeriesQuery.Json.Writer
import SeriesQuery.Main
import SeriesQuery.Number.Binary64
import SeriesQuery.Number.Numeral
import SeriesQuery.Number.Shortest
import SeriesQuery.Proofs.Calendar.Canonical
import SeriesQuery.Proofs.Calendar.Chronology
import SeriesQuery.Proofs.Calendar.Date
import SeriesQuery.Proofs.Calendar.Instant
import SeriesQuery.Proofs.Calendar.Rendered
import SeriesQuery.Proofs.Calendar.Zone
import SeriesQuery.Proofs.Calendar.Zoned
import SeriesQuery.Proofs.Command.Listing
import SeriesQuery.Proofs.Command.Reading
import SeriesQuery.Proofs.Command.Replay
import SeriesQuery.Proofs.Json.Records
import SeriesQuery.Proofs.Json.Text
import SeriesQuery.Proofs.Json.Trees
import SeriesQuery.Proofs.Number.Decimals
import SeriesQuery.Proofs.Number.Rounding
import SeriesQuery.Proofs.Number.Shortest
import SeriesQuery.Proofs.Number.Widening
import SeriesQuery.Proofs.Outcome
import SeriesQuery.Proofs.Query.DurationGrammar
import SeriesQuery.Proofs.Query.DurationRounding
import SeriesQuery.Proofs.Query.DurationValue
import SeriesQuery.Proofs.Query.DurationWords
import SeriesQuery.Proofs.Query.Literals
import SeriesQuery.Proofs.Query.OverTime
import SeriesQuery.Proofs.Query.Request
import SeriesQuery.Proofs.Query.Resolving
import SeriesQuery.Proofs.Query.Validity
import SeriesQuery.Proofs.Query.WallClockOrder
import SeriesQuery.Proofs.Query.Windows
import SeriesQuery.Proofs.Script.Injective
import SeriesQuery.Proofs.Script.Pieces
import SeriesQuery.Proofs.Script.Pipes
import SeriesQuery.Proofs.Service.Calls
import SeriesQuery.Proofs.Settings.Layers
import SeriesQuery.Proofs.Settings.Sections
import SeriesQuery.Proofs.Table.Cells
import SeriesQuery.Proofs.Table.ErrorTables
import SeriesQuery.Proofs.Table.Polling
import SeriesQuery.Proofs.Table.RowCells
import SeriesQuery.Proofs.Table.Rows
import SeriesQuery.Proofs.Table.Samples
import SeriesQuery.Proofs.Table.Standing
import SeriesQuery.Proofs.Table.Tables
import SeriesQuery.Proofs.Text.Digits
import SeriesQuery.Proofs.Text.Quoted
import SeriesQuery.Proofs.Text.Scan
import SeriesQuery.Proofs.Wire.Lossless
import SeriesQuery.Query.Basic
import SeriesQuery.Query.Duration
import SeriesQuery.Query.Error
import SeriesQuery.Query.Script
import SeriesQuery.Query.SensorRequest
import SeriesQuery.Query.TimeExpr
import SeriesQuery.Sample
import SeriesQuery.Service
import SeriesQuery.Settings.Basic
import SeriesQuery.Settings.Store
import SeriesQuery.Table.Cell
import SeriesQuery.Table.Cursor
import SeriesQuery.Table.Framing
import SeriesQuery.Table.Layout
import SeriesQuery.Table.StoreError
import SeriesQuery.Text.Numeral
import SeriesQuery.Text.Quoted
import SeriesQuery.Text.Scan
import SeriesQuery.Text.Utf8
import SeriesQuery.Toml.Document
import SeriesQuery.Toml.Scalar
import SeriesQuery.Toml.Value
import SeriesQuery.Wire.Documents
