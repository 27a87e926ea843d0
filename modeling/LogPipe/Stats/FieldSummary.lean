import LogPipe.Stats.Reducer
import LogPipe.Table.Basic

/-!
# Summaries of columns

A field summary has one row for every column of a table. It tells how many cells are
present and distinct, their range, the average and the deviation of numbers, and the most
frequent values with their counts.
-/

namespace LogPipe.Stats

/-- The sample standard deviation; missing for fewer than two numbers. -/
def deviation (xs : List Float) : Cell :=
  if xs.length < 2 then .null
  else
    let count := Float.ofNat xs.length
    let mean := Reducer.floatSum xs / count
    let squares := xs.map fun x => (x - mean) * (x - mean)
    .float (Reducer.floatSum squares / (count - 1.0)).sqrt

/-- The values of cells from the most to the least frequent; values that occur equally often
keep the order in which they are first seen. -/
def ranked (cells : List Cell) : List Tally :=
  (Tally.ofCells cells).mergeSort fun left right => right.count ≤ left.count

/-- A value and how often it occurs. -/
def tallyText (tally : Tally) : Cell :=
  .text (tally.cell.written ++ ":" ++ toString tally.count)

/-- The most frequent values, at most `limit` of them; missing when there is none. -/
def topValues (limit : Nat) (cells : List Cell) : Cell :=
  match (ranked cells).take limit with
  | [] => .null
  | tallies => .list (tallies.map tallyText)

/-- Whether `limit` values are all values. -/
def isExact (limit : Nat) (cells : List Cell) : Bool :=
  (ranked cells).length ≤ limit

/-- The summary of one column: its cells in the order of `summaryNames`. -/
def summarizeColumn (limit : Nat) (name : String) (column : Column) :
    Except CellError (List Cell) := do
  let present := Reducer.present column.cells
  let isNumeric := column.kind == .int || column.kind == .float
  let mean ← if isNumeric then Reducer.mean present else pure .null
  pure [
    .text name,
    Reducer.count column.cells,
    Reducer.distinctCount column.cells,
    .int (if isExact limit present then 1 else 0),
    Reducer.max column.cells,
    Reducer.min column.cells,
    mean,
    if isNumeric then deviation (present.filterMap Cell.numericValue) else .null,
    Reducer.countCell (if isNumeric then present.length else 0),
    topValues limit present]

/-- The names of the columns of a field summary. -/
def summaryNames : List String :=
  ["field", "count", "distinct_count", "is_exact", "max", "min", "mean", "stdev",
    "numeric_count", "values"]

/-- The summaries of columns. -/
def summarizeColumns (limit : Nat) :
    List (String × Column) → Except CellError (List (List Cell))
  | [] => .ok []
  | (name, column) :: columns => do
      let row ← summarizeColumn limit name column
      let rows ← summarizeColumns limit columns
      pure (row :: rows)

/-- The field summary of a table. -/
def fieldSummary (table : Table) (limit : Nat) : Except CellError Table := do
  let rows ← summarizeColumns limit table.columns
  pure ⟨rows.length, summaryNames.zipIdx.map fun (name, index) =>
    (name, Column.lossy (rows.map fun row => (row[index]?).getD .null))⟩

end LogPipe.Stats
