import LogPipe.Cell.Multivalue
import LogPipe.Table.Basic

/-!
# Filling and expanding cells

Missing cells are filled with one value, or with the cells of other columns. Cells that a
directive has made are put into a table as a column that takes them all.

To expand a column, each row is repeated once for every element of its cell, and takes that
element in place of the cell. A cell without elements keeps its row.
-/

namespace LogPipe

namespace Cell

/-- The cell itself, or the given one when it is missing. -/
def orElse (fill cell : Cell) : Cell :=
  if cell.isMissing then fill else cell

/-- Whether a cell is neither missing nor an empty text. -/
def hasContent (cell : Cell) : Bool :=
  !cell.isMissing && cell != .text ""

/-- The first cell that has content; missing when there is none. -/
def coalesce (cells : List Cell) : Cell :=
  (cells.find? hasContent).getD .null

end Cell

namespace Table

/-- Puts cells into a table as the column of a name. -/
def putCells (table : Table) (name : String) (cells : List Cell) : Except TableError Table :=
  table.withColumn name (Column.lossy cells)

/-- Fills one column; a table that lacks it gets it filled in every row. -/
def fillColumn (table : Table) (fill : Cell) (name : String) : Except TableError Table :=
  match table.column? name with
  | some column => table.putCells name (column.cells.map (Cell.orElse fill))
  | none => table.putCells name (List.replicate table.rows fill)

/-- Fills the named columns one after the other. -/
def fillColumns (table : Table) (fill : Cell) : List String → Except TableError Table
  | [] => .ok table
  | name :: names =>
      match table.fillColumn fill name with
      | .error error => .error error
      | .ok filled => filled.fillColumns fill names

/-- Fills the named columns, or all when none is named. -/
def fill (table : Table) (fill : Cell) (names : List String) : Except TableError Table :=
  table.fillColumns fill (if names.isEmpty then table.names else names)

/-- The columns of the given names, each name once; columns that the table lacks are missing
in every row. -/
def arrange (table : Table) (names : List String) : Except TableError Table :=
  ofRows table.rows (names.eraseDups.map fun name =>
    (name, (table.column? name).getD (Column.nulls table.rows)))

/-! ## Expanding multivalues -/

/-- The elements that a row is repeated for: a missing one when there are none. -/
def expandedCells (cell : Cell) : List Cell :=
  if cell.elements.isEmpty then [.null] else cell.elements

/-- The row each repetition comes from, for the cells from a row on. -/
def expandedRows (row : Nat) : List Cell → List Nat
  | [] => []
  | cell :: cells =>
      List.replicate (expandedCells cell).length row ++ expandedRows (row + 1) cells

/-- The table with one row for every element of a column. -/
def expand (table : Table) (name : String) (column : Column) : Except TableError Table :=
  (table.takeRows (expandedRows 0 column.cells)).putCells name
    (column.cells.flatMap expandedCells)

end Table

end LogPipe
