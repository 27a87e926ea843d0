import LogPipe.Table.Basic

/-!
# Sorting tables

Rows are sorted by several columns, the first one deciding first. The sort keeps the order
of rows that are equal on all columns, and missing cells come last in both directions.
-/

namespace LogPipe

/-- A column to sort by and its direction. -/
structure SortKey where
  column : String
  descending : Bool
deriving DecidableEq, Repr

namespace SortKey

/-- The order of two cells under a direction. -/
def compareCells (descending : Bool) (left right : Cell) : Ordering :=
  match left.isMissing, right.isMissing with
  | true, true => .eq
  | true, false => .gt
  | false, true => .lt
  | false, false => if descending then right.totalCompare left else left.totalCompare right

/-- The order of two rows by the given columns and directions. -/
def compareRows : List (Column × Bool) → Nat → Nat → Ordering
  | [], _, _ => .eq
  | (column, descending) :: keys, left, right =>
      match compareCells descending (column.cellAt left) (column.cellAt right) with
      | .eq => compareRows keys left right
      | decided => decided

end SortKey

namespace Table

/-- The columns of sort keys. -/
def sortColumns (table : Table) : List SortKey → Except TableError (List (Column × Bool))
  | [] => .ok []
  | key :: keys =>
      match table.require key.column with
      | .error error => .error error
      | .ok column =>
          match table.sortColumns keys with
          | .error error => .error error
          | .ok columns => .ok ((column, key.descending) :: columns)

/-- Sorts the rows, keeping the order of equal ones. -/
def sortBy (table : Table) (keys : List SortKey) : Except TableError Table :=
  match table.sortColumns keys with
  | .error error => .error error
  | .ok columns =>
      .ok (table.takeRows ((List.range table.rows).mergeSort fun left right =>
        SortKey.compareRows columns left right != .gt))

end Table

end LogPipe
