import LogPipe.Cell.Key
import LogPipe.Table.Basic

/-!
# Groups of rows

Rows with equal keys in the grouping columns form a group. A row with a missing key cell
belongs to no group. Without grouping columns all rows form one group, even when there
are none.
-/

namespace LogPipe

/-- The groups of a table's rows, in first-seen order. -/
structure Grouping where
  /-- The grouping cells of the first row of each group. -/
  keys : List (List Cell)
  /-- The rows of each group in ascending order. -/
  members : List (List Nat)
  /-- The group of each row. -/
  groupOf : List (Option Nat)
deriving DecidableEq, Repr

namespace Grouping

/-- The cells of a row in some columns. -/
def rowCells (columns : List Column) (row : Nat) : List Cell :=
  columns.map fun column => column.cellAt row

/-- The key of a row; nothing when one of its cells is missing. -/
def rowKey (columns : List Column) (row : Nat) : Option (List Key) :=
  let cells := rowCells columns row
  if cells.any Cell.isMissing then none else some (cells.map Cell.key)

/-- Groups rows by the keys of some columns. -/
def ofColumns (rows : Nat) (columns : List Column) : Grouping :=
  let keyed := (List.range rows).map fun row => (row, rowKey columns row)
  let distinct := (keyed.filterMap Prod.snd).eraseDups
  let members := distinct.map fun key =>
    (keyed.filter fun entry => entry.2 == some key).map Prod.fst
  ⟨members.map fun group => rowCells columns (group.headD 0), members,
    keyed.map fun entry => entry.2.bind fun key => distinct.idxOf? key⟩

/-- All rows as one group. -/
def whole (rows : Nat) : Grouping :=
  ⟨[[]], [List.range rows], List.replicate rows (some 0)⟩

/-- The columns of names. -/
def columnsOf (table : Table) : List String → Except TableError (List Column)
  | [] => .ok []
  | name :: names => do
      let column ← table.require name
      let columns ← columnsOf table names
      pure (column :: columns)

/-- Groups the rows of a table by the named columns. -/
def ofTable (table : Table) (groupBy : List String) : Except TableError Grouping :=
  if groupBy.isEmpty then .ok (whole table.rows)
  else (columnsOf table groupBy).map (ofColumns table.rows)

/-- The order of groups: by their key cells, the first column deciding first. -/
def compareKeys : List Cell → List Cell → Ordering
  | left :: lefts, right :: rights =>
      match left.totalCompare right with
      | .eq => compareKeys lefts rights
      | decided => decided
  | _, _ => .eq

/-- The key cells and the rows of each group, in ascending order of the keys. -/
def sorted (grouping : Grouping) : List (List Cell × List Nat) :=
  (grouping.keys.zip grouping.members).mergeSort fun left right =>
    compareKeys left.1 right.1 != .gt

end Grouping

end LogPipe

/-!
## Dropping repeated rows

Rows are alike when some columns have equal keys in them, missing cells being equal. The
first rows of each kind are kept, counted either over the whole table or over each run of
neighbours that are alike.
-/

namespace LogPipe

/-- The positions of keys that have fewer than `count` equal keys before them. `earlier`
holds the keys before the first one, whose position is given. -/
def keepFirst {κ : Type} [DecidableEq κ] (count : Nat) (earlier : List κ) (position : Nat) :
    List κ → List Nat
  | [] => []
  | key :: keys =>
      let rest := keepFirst count (key :: earlier) (position + 1) keys
      if earlier.count key < count then position :: rest else rest

/-- The positions of keys that have fewer than `count` keys before them in their run of equal
neighbours. `run` keys equal to `previous` stand right before the first one. -/
def keepFirstOfRuns {κ : Type} [DecidableEq κ] (count : Nat) (previous : Option κ) (run : Nat)
    (position : Nat) : List κ → List Nat
  | [] => []
  | key :: keys =>
      let before := if previous = some key then run else 0
      let rest := keepFirstOfRuns count (some key) (before + 1) (position + 1) keys
      if before < count then position :: rest else rest

namespace Table

/-- The keys of each row in some columns. -/
def keysOfRows (rows : Nat) (columns : List Column) : List (List Key) :=
  (List.range rows).map fun row => (Grouping.rowCells columns row).map Cell.key

/-- The first `count` rows of each kind. -/
def dedup (table : Table) (columns : List Column) (count : Nat) : Table :=
  table.takeRows (keepFirst count [] 0 (keysOfRows table.rows columns))

/-- The first `count` rows of each run of rows that are alike. -/
def dedupRuns (table : Table) (columns : List Column) (count : Nat) : Table :=
  table.takeRows (keepFirstOfRuns count none 0 0 (keysOfRows table.rows columns))

end Table

end LogPipe
