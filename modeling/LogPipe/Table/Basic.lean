import LogPipe.Column.Basic
import LogPipe.Text.Visible

/-!
# Tables

A table is a row count and named columns in order. Names are distinct and every column has
one cell per row. A table without columns still has rows.
-/

namespace LogPipe

open LogPipe.Text

/-- Why a table cannot be built or read. -/
inductive TableError where
  | lengthMismatch (name : String) (rows cells : Nat)
  | duplicateColumn (name : String)
  | missingColumn (name : String)
  | column (error : ColumnError)
deriving DecidableEq, Repr

/-- The text of the error. -/
def TableError.message : TableError → String
  | .lengthMismatch name rows cells =>
      "column " ++ quoted name ++ " has length " ++ toString cells ++ " but the table has " ++
        toString rows ++ " rows"
  | .duplicateColumn name => "duplicate column name " ++ quoted name
  | .missingColumn name => "column " ++ quoted name ++ " does not exist"
  | .column error => error.message

/-- Named columns of one length. -/
structure Table where
  rows : Nat
  columns : List (String × Column)
deriving DecidableEq, Repr

namespace Table

/-- The table without rows and columns. -/
def empty : Table := ⟨0, []⟩

/-- The column names in order. -/
def names (table : Table) : List String :=
  table.columns.map Prod.fst

/-- The column with a given name. -/
def column? (table : Table) (name : String) : Option Column :=
  table.columns.lookup name

/-- Whether a table has a column. -/
def hasColumn (table : Table) (name : String) : Bool :=
  (table.column? name).isSome

/-- The column with a given name, or the error that it is missing. -/
def require (table : Table) (name : String) : Except TableError Column :=
  match table.column? name with
  | some column => .ok column
  | none => .error (.missingColumn name)

/-- The cell of a column at a row. -/
def value? (table : Table) (name : String) (row : Nat) : Option Cell :=
  (table.column? name).bind fun column => column.get? row

/-- Checks columns one after the other against the row count and the earlier names. -/
def checkColumns (rows : Nat) (seen : List String) :
    List (String × Column) → Except TableError Unit
  | [] => .ok ()
  | (name, column) :: columns =>
      if column.size != rows then .error (.lengthMismatch name rows column.size)
      else if seen.contains name then .error (.duplicateColumn name)
      else checkColumns rows (name :: seen) columns

/-- The table with a given row count and columns. -/
def ofRows (rows : Nat) (columns : List (String × Column)) : Except TableError Table :=
  match checkColumns rows [] columns with
  | .ok () => .ok ⟨rows, columns⟩
  | .error error => .error error

/-- The table of given columns; the first column says how many rows there are. -/
def ofColumns (columns : List (String × Column)) : Except TableError Table :=
  match columns with
  | [] => ofRows 0 columns
  | (_, column) :: _ => ofRows column.size columns

/-- The table without rows and with the given column names. -/
def header (names : List String) : Except TableError Table :=
  ofRows 0 (names.map fun name => (name, Column.nulls 0))

/-- Replaces the column of a name in place, or adds it at the end. -/
def insertColumn (columns : List (String × Column)) (name : String) (column : Column) :
    List (String × Column) :=
  if columns.any fun entry => entry.1 == name then
    columns.map fun entry => if entry.1 == name then (name, column) else entry
  else
    columns ++ [(name, column)]

/-- Adds a column, or replaces the one of the same name in place. A table without rows and
columns takes the length of its first column. -/
def withColumn (table : Table) (name : String) (column : Column) : Except TableError Table :=
  if column.size != table.rows && !(table.columns.isEmpty && table.rows == 0) then
    .error (.lengthMismatch name table.rows column.size)
  else
    .ok ⟨if table.columns.isEmpty then column.size else table.rows,
      insertColumn table.columns name column⟩

/-- The columns of the given names, each name once. -/
def selectColumns (table : Table) (chosen : List (String × Column)) :
    List String → Except TableError (List (String × Column))
  | [] => .ok chosen
  | name :: names =>
      if chosen.any fun entry => entry.1 == name then selectColumns table chosen names
      else
        match table.require name with
        | .ok column => selectColumns table (chosen ++ [(name, column)]) names
        | .error error => .error error

/-- Keeps the named columns in the given order; a repeated name counts once. -/
def select (table : Table) (names : List String) : Except TableError Table :=
  match selectColumns table [] names with
  | .ok columns => ofRows table.rows columns
  | .error error => .error error

/-- Drops the named columns; names that do not exist are ignored. -/
def without (table : Table) (names : List String) : Table :=
  ⟨table.rows, table.columns.filter fun entry => !names.contains entry.1⟩

/-- Renames a column in place. Another column of the new name is dropped. -/
def rename (table : Table) (source target : String) : Except TableError Table :=
  match table.require source with
  | .error error => .error error
  | .ok _ =>
      if source == target then .ok table
      else
        .ok ⟨table.rows, (table.columns.filter fun entry => entry.1 != target).map fun entry =>
          if entry.1 == source then (target, entry.2) else entry⟩

/-- The rows at the given positions. -/
def takeRows (table : Table) (positions : List Nat) : Table :=
  ⟨positions.length, table.columns.map fun entry => (entry.1, entry.2.take positions)⟩

/-- The rows at which a mask is true. -/
def filterRows (table : Table) (mask : List Bool) : Except TableError Table :=
  if mask.length != table.rows then
    .error (.column (.lengthMismatch table.rows mask.length))
  else
    .ok (table.takeRows (Column.keptPositions mask))

/-- The first rows. -/
def head (table : Table) (count : Nat) : Table :=
  table.takeRows (List.range (min table.rows count))

/-- The rows in opposite order. -/
def reverse (table : Table) : Table :=
  table.takeRows (List.range table.rows).reverse

/-- The names of all tables, each at its first occurrence. -/
def unionNames (tables : List Table) : List String :=
  tables.foldl (fun names table =>
    table.names.foldl (fun names name =>
      if names.contains name then names else names ++ [name]) names) []

/-- The cells of a name in a table, missing in every row when the table lacks it. -/
def cellsOf (table : Table) (name : String) : List Cell :=
  match table.column? name with
  | some column => column.cells
  | none => List.replicate table.rows .null

/-- The number of rows of all tables together. -/
def totalRows : List Table → Nat
  | [] => 0
  | table :: tables => table.rows + totalRows tables

/-- Stacks tables. The columns are the union of all columns, and cells that a table lacks
are missing. -/
def concat (tables : List Table) : Table :=
  ⟨totalRows tables, (unionNames tables).map fun name =>
    (name, Column.lossy (tables.flatMap fun table => table.cellsOf name))⟩

end Table

end LogPipe
