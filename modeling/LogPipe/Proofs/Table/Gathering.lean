import LogPipe.Proofs.Column.Reordering
import LogPipe.Proofs.Column.Uniformity
import LogPipe.Proofs.Table.Columns

/-!
# Tables with rows that are gathered

A table whose rows are taken at some positions has the columns it had, each with its cells
at these positions.  So a row of it is the row of the table at its position, in every column.
Rows that are taken from rows that have been taken before are rows of the first table again, so
choosing among chosen rows is one choice among all of them.
-/

namespace LogPipe

namespace Table

variable {table : Table} {positions : List Nat}

theorem column?_takeRows (table : Table) (positions : List Nat) (name : String) :
    (table.takeRows positions).column? name =
      (table.column? name).map fun column => column.take positions := by
  rw [Table.column?, Table.column?, Table.takeRows]
  induction table.columns with
  | nil => rfl
  | cons entry columns induction =>
      rw [List.map_cons, List.lookup_cons, List.lookup_cons, induction]
      cases name == entry.1 <;> rfl

theorem hasColumn_takeRows (table : Table) (positions : List Nat) (name : String) :
    (table.takeRows positions).hasColumn name = table.hasColumn name := by
  rw [Table.hasColumn, Table.hasColumn, column?_takeRows, Option.isSome_map]

theorem names_takeRows (table : Table) (positions : List Nat) :
    (table.takeRows positions).names = table.names := by
  rw [names, takeRows, List.map_map]
  rfl

theorem require_takeRows (table : Table) (positions : List Nat) (name : String) :
    (table.takeRows positions).require name =
      (table.require name).map fun column => column.take positions := by
  rw [require, require, column?_takeRows]
  cases table.column? name <;> rfl

/-- Positions that are the rows of a well-formed table in some order. -/
structure RowOrder (table : Table) (positions : List Nat) : Prop where
  wellFormed : table.WellFormed
  reordering : positions.Perm (List.range table.rows)

/-- The row of the table that has come to a place. -/
def rowAt (positions : List Nat) (place : Nat) : Nat :=
  positions[place]?.getD 0

theorem map_rowAt (positions : List Nat) :
    (List.range positions.length).map (rowAt positions) = positions :=
  map_range_getElem? positions 0

namespace RowOrder

theorem rows_eq (order : RowOrder table positions) :
    (table.takeRows positions).rows = table.rows :=
  order.reordering.length_eq.trans List.length_range

theorem rowAt_lt (order : RowOrder table positions) {place : Nat} (inside : place < table.rows) :
    rowAt positions place < table.rows := by
  rw [← order.rows_eq] at inside
  have member : rowAt positions place ∈ positions := by
    rw [rowAt, List.getElem?_eq_getElem inside, Option.getD_some]
    exact List.getElem_mem inside
  exact List.mem_range.mp (order.reordering.mem_iff.mp member)

/-- Without rows there is only one order. -/
theorem takeRows_of_no_rows (order : RowOrder table positions)
    (noRow : table.rows = 0) : table.takeRows positions = table := by
  have empty : positions = [] := by
    rw [← List.length_eq_zero_iff, order.reordering.length_eq, List.length_range, noRow]
  obtain ⟨rows, columns⟩ := table
  cases noRow
  rw [empty, takeRows]
  congr 1
  calc
    columns.map (fun entry => (entry.1, entry.2.take [])) = columns.map id := by
      apply List.map_congr_left
      intro entry member
      obtain ⟨name, kind, cells⟩ := entry
      have size := order.wellFormed.sizes _ member
      cases List.length_eq_zero_iff.mp size
      rfl
    _ = columns := List.map_id columns

end RowOrder

end Table

/-- A cell of a reordered column. -/
theorem Column.cellAt_take (column : Column) {positions : List Nat} {place : Nat}
    (inside : place < positions.length) :
    (column.take positions).cellAt place = column.cellAt (Table.rowAt positions place) := by
  rw [cellAt, get?, take, Table.rowAt, List.getElem?_map, List.getElem?_eq_getElem inside]
  rfl

/-! ## Rows that are gathered twice -/

theorem Column.take_range_size (column : Column) :
    column.take (List.range column.size) = column := by
  rw [take, ← cells_eq_map rfl]

namespace Table

/-- The cell of a name at a row, missing where the table has none. -/
def cell (table : Table) (name : String) (row : Nat) : Cell :=
  (table.value? name row).getD .null

theorem WellFormed.cell_eq {table : Table} (wellFormed : table.WellFormed) {name : String}
    {column : Column} (found : table.column? name = some column) {row : Nat}
    (inside : row < table.rows) : table.cell name row = column.cellAt row := by
  rw [cell, wellFormed.value?_eq found inside, Option.getD_some]

variable {positions : List Nat}

theorem rowAt_mem {place : Nat} (inside : place < positions.length) :
    rowAt positions place ∈ positions := by
  rw [rowAt, List.getElem?_eq_getElem inside, Option.getD_some]
  exact List.getElem_mem inside

/-- The cell of a gathered row. -/
theorem value?_takeRows (table : Table) (name : String) {place : Nat}
    (inside : place < positions.length) :
    (table.takeRows positions).value? name place =
      (table.column? name).map fun column => column.cellAt (rowAt positions place) := by
  rw [value?, column?_takeRows]
  cases table.column? name with
  | none => rfl
  | some column =>
      rw [Option.map_some, Option.bind_some, Option.map_some, Column.get?, Column.take,
        List.getElem?_map, rowAt, List.getElem?_eq_getElem inside]
      rfl

theorem sizes_takeRows (table : Table) (positions : List Nat) :
    ∀ entry ∈ (table.takeRows positions).columns,
      entry.2.size = (table.takeRows positions).rows := by
  intro entry member
  obtain ⟨source, -, rfl⟩ := List.mem_map.mp member
  exact Column.size_take source.2 positions

/-- Taking all rows changes nothing. -/
theorem takeRows_range {table : Table}
    (sizes : ∀ entry ∈ table.columns, entry.2.size = table.rows) :
    table.takeRows (List.range table.rows) = table := by
  have columns : table.columns.map (fun entry => (entry.1, entry.2.take (List.range table.rows))) =
      table.columns.map id := by
    refine List.map_congr_left fun entry member => ?_
    rw [← sizes entry member, Column.take_range_size]
    rfl
  rw [takeRows, columns, List.map_id, List.length_range]

theorem takeRows_takeRows (table : Table) {places : List Nat}
    (inside : ∀ place ∈ places, place < positions.length) :
    (table.takeRows positions).takeRows places =
      table.takeRows (places.map (rowAt positions)) := by
  have gathered (column : Column) :
      (column.take positions).take places = column.take (places.map (rowAt positions)) := by
    have cells : places.map (column.take positions).cellAt =
        (places.map (rowAt positions)).map column.cellAt := by
      rw [List.map_map]
      exact List.map_congr_left fun place member => column.cellAt_take (inside place member)
    exact congrArg (Column.mk column.kind) cells
  simp only [takeRows, List.map_map, List.length_map, Function.comp_def, gathered]

/-- The places of the positions that are kept lead back to these positions. -/
theorem map_rowAt_filter (positions : List Nat) (keeps : Nat → Bool) :
    ((List.range positions.length).filter fun place => keeps (rowAt positions place)).map
      (rowAt positions) = positions.filter keeps := by
  conv => rhs; rw [← map_rowAt positions, List.filter_map]
  rfl

/-- Rows that are chosen among chosen rows. -/
theorem takeRows_filter (table : Table) (positions : List Nat) (keeps : Nat → Bool) :
    (table.takeRows positions).takeRows
      ((List.range positions.length).filter fun place => keeps (rowAt positions place)) =
        table.takeRows (positions.filter keeps) := by
  rw [takeRows_takeRows, map_rowAt_filter]
  intro place member
  exact List.mem_range.mp (List.mem_filter.mp member).1

end Table

end LogPipe
