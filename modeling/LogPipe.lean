import LogPipe.Calendar.Civil
import LogPipe.Calendar.Reading
import LogPipe.Cell.Arithmetic
import LogPipe.Cell.Basic
import LogPipe.Cell.Cast
import LogPipe.Cell.Key
import LogPipe.Cell.Multivalue
import LogPipe.Cell.Order
import LogPipe.Cell.Written
import LogPipe.Codec.Delimited
import LogPipe.Codec.Format
import LogPipe.Codec.Records
import LogPipe.Codec.Tagged
import LogPipe.Column.Basic
import LogPipe.Decimal.Binary
import LogPipe.Decimal.Layout
import LogPipe.Decimal.Reading
import LogPipe.Decimal.Shortest
import LogPipe.Directive.Access
import LogPipe.Directive.Aggregation
import LogPipe.Directive.Basic
import LogPipe.Directive.Error
import LogPipe.Directive.ErrorKind
import LogPipe.Directive.Extraction
import LogPipe.Directive.Lookups
import LogPipe.Directive.Multivalue
import LogPipe.Directive.Shape
import LogPipe.Directive.Subsearch
import LogPipe.Filter.Mask
import LogPipe.Engine.Run
import LogPipe.Engine.Macro
import LogPipe.Engine.PolicyReading
import LogPipe.Filter.Reading
import LogPipe.Formula.Apply
import LogPipe.Formula.Assignment
import LogPipe.Formula.Basic
import LogPipe.Formula.Builtin
import LogPipe.Formula.Evaluate
import LogPipe.Formula.Reading
import LogPipe.Formula.Token
import LogPipe.Json.Basic
import LogPipe.Json.Cells
import LogPipe.Json.Path
import LogPipe.Json.Reading
import LogPipe.Json.Skipping
import LogPipe.Lookup.Folder
import LogPipe.Lookup.Memory
import LogPipe.Pattern.Basic
import LogPipe.Pattern.CharSet
import LogPipe.Pattern.Extraction
import LogPipe.Pattern.Matching
import LogPipe.Pattern.Reading
import LogPipe.Proofs.Calendar.Civil
import LogPipe.Proofs.Calendar.Reading
import LogPipe.Proofs.Cell.Arithmetic
import LogPipe.Proofs.Cell.Casting
import LogPipe.Proofs.Cell.Comparison
import LogPipe.Proofs.Cell.Exactness
import LogPipe.Proofs.Cell.Nearest
import LogPipe.Proofs.Cell.Rounding
import LogPipe.Proofs.Cell.Sorting
import LogPipe.Proofs.Cell.Transitivity
import LogPipe.Proofs.Chain
import LogPipe.Proofs.Codec.Delimited
import LogPipe.Proofs.Codec.Numbers
import LogPipe.Proofs.Codec.Records
import LogPipe.Proofs.Codec.Stacking
import LogPipe.Proofs.Column.Arithmetic
import LogPipe.Proofs.Column.Canonical
import LogPipe.Proofs.Column.Constant
import LogPipe.Proofs.Column.Inference
import LogPipe.Proofs.Column.Lossy
import LogPipe.Proofs.Column.Reordering
import LogPipe.Proofs.Column.Restacking
import LogPipe.Proofs.Column.Uniformity
import LogPipe.Proofs.Decimal.Binary
import LogPipe.Proofs.Decimal.Layout
import LogPipe.Proofs.Decimal.Nearest
import LogPipe.Proofs.Decimal.Numerals
import LogPipe.Proofs.Decimal.Shortest
import LogPipe.Proofs.Decimal.Unsigned
import LogPipe.Proofs.Directive.Distinct
import LogPipe.Proofs.Directive.Extraction
import LogPipe.Proofs.Directive.Filling
import LogPipe.Proofs.Directive.Multivalue
import LogPipe.Proofs.Directive.Preservation
import LogPipe.Proofs.Directive.Resolution
import LogPipe.Proofs.Engine.Alongside
import LogPipe.Proofs.Engine.Composition
import LogPipe.Proofs.Engine.Effects
import LogPipe.Proofs.Engine.Inlining
import LogPipe.Proofs.Engine.Instrumentation
import LogPipe.Proofs.Engine.Invariant
import LogPipe.Proofs.Engine.Journal
import LogPipe.Proofs.Engine.Ledger
import LogPipe.Proofs.Engine.Limits
import LogPipe.Proofs.Engine.Macros
import LogPipe.Proofs.Engine.Naming
import LogPipe.Proofs.Engine.Nesting
import LogPipe.Proofs.Engine.Preservation
import LogPipe.Proofs.Engine.Pushdown
import LogPipe.Proofs.Engine.Stacking
import LogPipe.Proofs.Engine.Subsearches
import LogPipe.Proofs.Engine.Tracing
import LogPipe.Proofs.Except
import LogPipe.Proofs.Filter.Derivation
import LogPipe.Proofs.Filter.Equivalence
import LogPipe.Proofs.Filter.Fusion
import LogPipe.Proofs.Filter.Grammar
import LogPipe.Proofs.Filter.Meaning
import LogPipe.Proofs.Filter.Preservation
import LogPipe.Proofs.Filter.Recognition
import LogPipe.Proofs.Filter.Selection
import LogPipe.Proofs.Formula.Acceptance
import LogPipe.Proofs.Formula.Agreement
import LogPipe.Proofs.Formula.Assignments
import LogPipe.Proofs.Formula.Derivation
import LogPipe.Proofs.Formula.Drawing
import LogPipe.Proofs.Formula.Grammar
import LogPipe.Proofs.Formula.Permission
import LogPipe.Proofs.Formula.Preservation
import LogPipe.Proofs.Formula.Recognition
import LogPipe.Proofs.Formula.Refusal
import LogPipe.Proofs.Formula.Reordering
import LogPipe.Proofs.Formula.Replacement
import LogPipe.Proofs.Formula.Signs
import LogPipe.Proofs.Join.Identity
import LogPipe.Proofs.Join.Outcome
import LogPipe.Proofs.Join.Pairing
import LogPipe.Proofs.Json.Reading
import LogPipe.Proofs.Json.Text
import LogPipe.Proofs.Lookup.Agreement
import LogPipe.Proofs.Lookup.Folder
import LogPipe.Proofs.Lookup.Memory
import LogPipe.Proofs.Lookup.Preservation
import LogPipe.Proofs.Query.Agreement
import LogPipe.Proofs.Query.Blocks
import LogPipe.Proofs.Query.Closed
import LogPipe.Proofs.Query.Pieces
import LogPipe.Proofs.Query.Reading
import LogPipe.Proofs.Query.Tiling
import LogPipe.Proofs.Stats.Accumulator
import LogPipe.Proofs.Stats.Averages
import LogPipe.Proofs.Stats.Broadcast
import LogPipe.Proofs.Stats.FieldSummary
import LogPipe.Proofs.Stats.Groups
import LogPipe.Proofs.Stats.Integers
import LogPipe.Proofs.Stats.Mode
import LogPipe.Proofs.Stats.Order
import LogPipe.Proofs.Stats.Orderless
import LogPipe.Proofs.Stats.Output
import LogPipe.Proofs.Stats.Partition
import LogPipe.Proofs.Stats.Preservation
import LogPipe.Proofs.Stats.Reordering
import LogPipe.Proofs.Stats.Running
import LogPipe.Proofs.Stats.Span
import LogPipe.Proofs.Stats.Spread
import LogPipe.Proofs.Stats.Summary
import LogPipe.Proofs.Stats.Tallies
import LogPipe.Proofs.Stats.Timechart
import LogPipe.Proofs.Stats.Totals
import LogPipe.Proofs.Table.Columns
import LogPipe.Proofs.Table.Gathering
import LogPipe.Proofs.Table.Preservation
import LogPipe.Proofs.Table.Sorting
import LogPipe.Proofs.Table.Stacking
import LogPipe.Proofs.Table.WellFormed
import LogPipe.Proofs.Table.Writing
import LogPipe.Proofs.Text.Trimming
import LogPipe.Query.Block
import LogPipe.Query.Lexer
import LogPipe.Query.Split
import LogPipe.Query.Token
import LogPipe.Stats.Clause
import LogPipe.Stats.FieldSummary
import LogPipe.Stats.Grouping
import LogPipe.Stats.Reducer
import LogPipe.Stats.Running
import LogPipe.Stats.Span
import LogPipe.Stats.Summary
import LogPipe.Table.Basic
import LogPipe.Table.Filling
import LogPipe.Table.Join
import LogPipe.Table.Sorted
import LogPipe.Text.Alphabetic
import LogPipe.Text.Base64
import LogPipe.Text.Blank
import LogPipe.Text.Case
import LogPipe.Text.CaseTables
import LogPipe.Text.Category
import LogPipe.Text.Property
import LogPipe.Text.Visible
import LogPipe.Text.Ranges
import LogPipe.Text.Script
import LogPipe.Text.WordChar
