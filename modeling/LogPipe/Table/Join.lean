import LogPipe.Stats.Grouping
import LogPipe.Text.Case

/-!
# Joining tables

Rows of two tables are paired when their keys are equal; a row with a missing key cell is
paired with none. The pairs follow the left table, then come the unpaired rows of the
right one. Key columns are merged, and other names that both tables have get a suffix.
-/

namespace LogPipe

open LogPipe.Text

/-- Which unpaired rows a join keeps. -/
inductive JoinKind where
  | inner
  | left
  | right
  | outer
deriving DecidableEq, Repr

namespace JoinKind

/-- The kind with a given name, in any letter case. -/
def ofName? (name : String) : Option JoinKind :=
  match asciiLower name with
  | "inner" => some .inner
  | "left" => some .left
  | "right" => some .right
  | "outer" => some .outer
  | "full" => some .outer
  | _ => none

/-- Whether unpaired left rows are kept. -/
def keepsLeft (kind : JoinKind) : Bool :=
  kind == .left || kind == .outer

/-- Whether unpaired right rows are kept. -/
def keepsRight (kind : JoinKind) : Bool :=
  kind == .right || kind == .outer

end JoinKind

/-- Why tables cannot be joined. -/
inductive JoinError where
  | noKeys
  | missingKey (side column : String)
  | table (error : TableError)
  | column (error : ColumnError)
deriving DecidableEq, Repr

/-- The text of the error. -/
def JoinError.message : JoinError → String
  | .noKeys => "join requires at least one key column"
  | .missingKey side name => side ++ " table has no key column " ++ quoted name
  | .table error => error.message
  | .column error => error.message

namespace Join

/-- A pair of rows; a missing half means that the row has no partner. -/
abbrev RowPair := Option Nat × Option Nat

/-- The key columns of one side. -/
def keyColumns (side : String) (table : Table) : List String → Except JoinError (List Column)
  | [] => .ok []
  | name :: names =>
      match table.column? name with
      | none => .error (.missingKey side name)
      | some column => (keyColumns side table names).map fun columns => column :: columns

/-- The pairs of one left row, given the keys of the right rows. -/
def pairsOfRow (kind : JoinKind) (rightKeys : List (Nat × Option (List Key))) (row : Nat)
    (key : Option (List Key)) : List RowPair :=
  let matching : List (Nat × Option (List Key)) :=
    match key with
    | none => []
    | some key => rightKeys.filter fun entry => entry.2 == some key
  if matching.isEmpty then
    if kind.keepsLeft then [(some row, none)] else []
  else
    matching.map fun entry => (some row, some entry.1)

/-- All pairs of rows in output order. -/
def pairs (kind : JoinKind) (leftKeys rightKeys : List (Nat × Option (List Key))) :
    List RowPair :=
  let paired := leftKeys.flatMap fun entry => pairsOfRow kind rightKeys entry.1 entry.2
  let alone := rightKeys.filter fun entry =>
    !paired.any fun pair => pair.2 == some entry.1
  if kind.keepsRight then paired ++ alone.map fun entry => (none, some entry.1) else paired

/-- The rows of a table with their keys. -/
def keyed (rows : Nat) (columns : List Column) : List (Nat × Option (List Key)) :=
  (List.range rows).map fun row => (row, Grouping.rowKey columns row)

/-- The cells of a merged key column: the left cell where there is a left row. -/
def mergedCells (left right : Column) (pairs : List RowPair) : List Cell :=
  pairs.map fun pair =>
    match pair with
    | (some row, _) => left.cellAt row
    | (none, some row) => right.cellAt row
    | (none, none) => .null

/-- The output column of a left column. -/
def leftColumn (right : Table) (keys : List String) (pairs : List RowPair)
    (entry : String × Column) : Except JoinError (String × Column) :=
  let (name, column) := entry
  if keys.contains name then
    .ok (name, Column.lossy (mergedCells column ((right.column? name).getD column) pairs))
  else
    let name := if right.hasColumn name then name ++ "_x" else name
    match column.reindex (pairs.map Prod.fst) with
    | .ok column => .ok (name, column)
    | .error error => .error (.column (.cell error))

/-- The output column of a right column. -/
def rightColumn (left : Table) (pairs : List RowPair) (entry : String × Column) :
    Except JoinError (String × Column) :=
  let (name, column) := entry
  let name := if left.hasColumn name then name ++ "_y" else name
  match column.reindex (pairs.map Prod.snd) with
  | .ok column => .ok (name, column)
  | .error error => .error (.column (.cell error))

/-- Builds output columns one after the other. -/
def buildColumns (build : String × Column → Except JoinError (String × Column)) :
    List (String × Column) → Except JoinError (List (String × Column))
  | [] => .ok []
  | entry :: entries => do
      let column ← build entry
      let columns ← buildColumns build entries
      pure (column :: columns)

/-- Joins two tables on equal keys. -/
def tables (left right : Table) (keys : List String) (kind : JoinKind) :
    Except JoinError Table := do
  if keys.isEmpty then .error .noKeys
  else
    let leftKeys ← keyColumns "left" left keys
    let rightKeys ← keyColumns "right" right keys
    let pairs := pairs kind (keyed left.rows leftKeys) (keyed right.rows rightKeys)
    let leftOut ← buildColumns (leftColumn right keys pairs) left.columns
    let rightOut ← buildColumns (rightColumn left pairs)
      (right.columns.filter fun entry => !keys.contains entry.1)
    (Table.ofRows pairs.length (leftOut ++ rightOut)).mapError .table

end Join

end LogPipe
