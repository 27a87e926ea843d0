import LogPipe.Proofs.Table.Stacking

/-!
# Columns that are written one after the other

A column that is written goes to the place of its name, or behind all others if the name is
new.  So whatever is written, a table keeps its rows, the order of its columns, and every column
whose name is not written to.
-/

namespace LogPipe.Table

/-- What assignments to some fields leave of a table: the number of its rows, its columns
under other names, each at its position, and the order of all its columns.  Fields that it does
not have come behind them, in the order in which they are assigned first. -/
structure Assigned (fields : List String) (table result : Table) : Prop where
  rows : result.rows = table.rows
  kept : ∀ (position : Nat) (entry : String × Column), table.columns[position]? = some entry →
    entry.1 ∉ fields → result.columns[position]? = some entry
  names : result.names =
    table.names ++ (fields.filter fun field => field ∉ table.names).eraseDups

namespace Assigned

variable {fields others : List String} {table middle result : Table}

theorem refl (table : Table) : Assigned [] table table where
  rows := rfl
  kept := fun _ _ found _ => found
  names := (List.append_nil _).symm

theorem trans (first : Assigned fields table middle) (second : Assigned others middle result) :
    Assigned (fields ++ others) table result where
  rows := second.rows.trans first.rows
  kept := by
    intro position entry found apart
    rw [List.mem_append, not_or] at apart
    exact second.kept position entry (first.kept position entry found apart.1) apart.2
  names := by
    rw [← foldl_addName_eq, List.foldl_append, foldl_addName_eq table.names, ← first.names,
      foldl_addName_eq, second.names]

theorem insert (table : Table) (name : String) (column : Column) :
    Assigned [name] table ⟨table.rows, insertColumn table.columns name column⟩ where
  rows := rfl
  kept := fun _ _ found apart =>
    getElem?_insertColumn found (fun same => apart (List.mem_singleton.mpr same)) column
  names := by
    rw [← foldl_addName_eq, Table.names, names_insertColumn]
    simp only [List.foldl_cons, List.foldl_nil, addName, List.contains_eq_mem,
      decide_eq_true_iff, Table.names]

/-- Where no field has the name of a column, all columns stay at the front. -/
theorem columns_prefix (assigned : Assigned fields table result)
    (apart : ∀ field ∈ fields, field ∉ table.names) : table.columns <+: result.columns := by
  rw [List.prefix_iff_getElem?]
  intro position inside
  refine assigned.kept position _ (List.getElem?_eq_getElem inside) fun assignedTo => ?_
  exact apart _ assignedTo (List.mem_map_of_mem (List.getElem_mem inside))

end Assigned

section Writing

variable {table : Table} {name : String} {cells : List Cell}

/-- The table with cells for all of its rows as the column of a name. -/
def withCells (table : Table) (name : String) (cells : List Cell) : Table :=
  ⟨table.rows, insertColumn table.columns name (Column.lossy cells)⟩

theorem putCells_eq (length : cells.length = table.rows) :
    table.putCells name cells = .ok (table.withCells name cells) :=
  withColumn_of_size ((Column.size_lossy cells).trans length)

theorem assigned_withCells (table : Table) (name : String) (cells : List Cell) :
    Assigned [name] table (table.withCells name cells) :=
  .insert table name (Column.lossy cells)

theorem column?_withCells (table : Table) (name other : String) (cells : List Cell) :
    (table.withCells name cells).column? other =
      if other = name then some (Column.lossy cells) else table.column? other :=
  lookup_insertColumn table.columns name other (Column.lossy cells)

theorem WellFormed.withCells (wellFormed : table.WellFormed) (name : String)
    (length : cells.length = table.rows) : (table.withCells name cells).WellFormed :=
  ((putCells_keeps wellFormed name length).of_eq_ok (putCells_eq length)).1

/-- Writing a column that is there already changes nothing. -/
theorem withCells_eq_self (wellFormed : table.WellFormed)
    (found : table.column? name = some (Column.lossy cells)) :
    table.withCells name cells = table := by
  have member := mem_columns_of_column? found
  have listed : (table.columns.any fun entry => entry.1 == name) = true :=
    List.any_eq_true.mpr ⟨_, member, beq_self_eq_true name⟩
  have same : table.columns.map (fun entry =>
      if entry.1 == name then (name, Column.lossy cells) else entry) = table.columns.map id := by
    refine List.map_congr_left fun entry inTable => ?_
    split
    · next isName =>
        -- names are distinct, so the entry is the column that was found
        obtain ⟨first, column⟩ := entry
        obtain rfl := eq_of_beq isName
        have shown := column?_of_mem wellFormed.names_nodup inTable
        rw [found] at shown
        cases shown
        rfl
    · rfl
  rw [Table.withCells, insertColumn, if_pos listed, same, List.map_id]

end Writing

end LogPipe.Table
