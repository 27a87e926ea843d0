import LogPipe.Json.Cells
import LogPipe.Table.Basic

/-!
# Tables in tagged JSON

The tagged form of a table keeps the row count, the order of the names, and for every
name the kind and the tagged cells of its column, sorted by name.
-/

namespace LogPipe.Codec

/-- The tagged form of a column. -/
def taggedColumn (column : Column) : Json :=
  .object [("dtype", .string column.kind.name), ("values", .array (Cell.toTaggedList column.cells))]

/-- The tagged form of a table. -/
def taggedTable (table : Table) : Json :=
  let sorted := table.columns.mergeSort fun left right => !(right.1 < left.1)
  .object [
    ("row_count", .int table.rows),
    ("names", .array (table.names.map .string)),
    ("columns", .object (sorted.map fun entry => (entry.1, taggedColumn entry.2)))]

end LogPipe.Codec
