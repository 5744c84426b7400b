import TableSearch.Main
import TableSearch.Table.Controller
import TableSearch.Proofs.Span.Region
import TableSearch.Proofs.Span.Union
import TableSearch.Proofs.Search.Order
import TableSearch.Proofs.Search.Satisfaction
import TableSearch.Proofs.Search.Agreement
import TableSearch.Proofs.Search.Plain
import TableSearch.Proofs.Table.Transparency
import TableSearch.Proofs.Table.Refinement
import TableSearch.Proofs.Text.Case
import TableSearch.Proofs.Control.Token
import TableSearch.Proofs.Control.Reading
import TableSearch.Proofs.Control.Written
import TableSearch.Proofs.Search.Outcome
import TableSearch.Proofs.Table.Order
import TableSearch.Proofs.Control.Reparse
import TableSearch.Proofs.Control.RoundTrip
import TableSearch.Proofs.Span.Group
import TableSearch.Proofs.Span.History
import TableSearch.Proofs.Control.Acceptance
import TableSearch.Proofs.Search.Completion
import TableSearch.Proofs.Sorting.Merge
import TableSearch.Proofs.Sorting.Stability
import TableSearch.Proofs.Table.Criteria
import TableSearch.Proofs.Table.EmptyCells
import TableSearch.Proofs.Table.Selection
import TableSearch.Proofs.Table.Frame
import TableSearch.Proofs.Number.NaturalOrder
import TableSearch.Proofs.Number.Order
import TableSearch.Proofs.Table.CellOrder
import TableSearch.Proofs.Search.Verdict
import TableSearch.Proofs.Control.SearchTerms
import TableSearch.Proofs.Search.Combination
import TableSearch.Proofs.Search.Toggle
import TableSearch.Proofs.Control.SortKey
import TableSearch.Proofs.Table.HeaderClick
import TableSearch.Proofs.Search.SingleCell
import TableSearch.Proofs.Search.Exclusion
import TableSearch.Proofs.Control.Unquoted
import TableSearch.Proofs.Pattern.Extent
import TableSearch.Proofs.Instant.Opening
import TableSearch.Proofs.Search.Runs
import TableSearch.Proofs.Search.Extent
import TableSearch.Proofs.Output.Highlight
import TableSearch.Proofs.Search.Rereading
import TableSearch.Proofs.Search.TypedText
import TableSearch.Proofs.Delimited.Records
import TableSearch.Proofs.Encoding.Utf8
import TableSearch.Proofs.Source.Reload
import TableSearch.Proofs.Number.Rounding
import TableSearch.Proofs.Number.PlainDecimal
import TableSearch.Proofs.Table.Direction
import TableSearch.Proofs.Table.NumberCells
import TableSearch.Proofs.Text.Join
import TableSearch.Proofs.Toml.Text
import TableSearch.Proofs.Toml.Value
import TableSearch.Proofs.Toml.Document
import TableSearch.Proofs.Source.FileTree
import TableSearch.Proofs.Settings.RoundTrip
import TableSearch.Proofs.Span.Packing
import TableSearch.Proofs.Search.Literal
import TableSearch.Proofs.Control.SortDirection
import TableSearch.Proofs.Control.OwnToken
import TableSearch.Proofs.Pattern.LowerCase
import TableSearch.Proofs.Search.TypedPattern
import TableSearch.Proofs.Search.Wildcard
import TableSearch.Proofs.Search.DigitRange
import TableSearch.Proofs.Control.NumberRange
import TableSearch.Proofs.Table.DateCells
import TableSearch.Proofs.Number.Items
import TableSearch.Proofs.Number.Monotone
import TableSearch.Proofs.Number.Grammar
import TableSearch.Proofs.Search.OwnNumber
import TableSearch.Proofs.Control.Naming
import TableSearch.Proofs.Table.ColumnOrder
import TableSearch.Proofs.Source.ColumnNames
import TableSearch.Proofs.Source.Cells
import TableSearch.Proofs.Settings.Report
import TableSearch.Proofs.Text.Words
import TableSearch.Proofs.Instant.Longest
import TableSearch.Proofs.Instant.TrailingMarks
import TableSearch.Proofs.Search.DateRange
import TableSearch.Proofs.Source.Report
import TableSearch.Proofs.Duration.LongestRun
