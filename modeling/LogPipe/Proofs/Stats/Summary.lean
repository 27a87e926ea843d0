import LogPipe.Proofs.Cell.Sorting
import LogPipe.Proofs.Stats.Output
import LogPipe.Proofs.Stats.Partition

/-!
# Summaries

A summary has one row for each key, in the order of the keys.  Its group columns show
the keys as they are, because the key cells of one column are present cells of one kind,
and its other columns show the aggregates of the rows of each key.
-/

namespace LogPipe.Stats

open Grouping

/-- The rows of a table that have a key in some columns. -/
def keyRows (table : Table) (columns : List Column) (key : List Key) : List Nat :=
  rowsOf (rowKey columns) table.rows key

theorem lt_of_mem_keyRows {table : Table} {columns : List Column} {key : List Key} {row : Nat}
    (member : row ∈ keyRows table columns key) : row < table.rows :=
  (mem_rowsOf.mp member).1

/-- The key cells of the first row that has a key. -/
def keyCells (table : Table) (columns : List Column) (key : List Key) : List Cell :=
  cellsOfKey (rowKey columns) (rowCells columns) table.rows key

/-- The groups of a table by the named columns, with their keys in order. -/
structure Grouped (table : Table) (groupBy : List String) (grouping : Grouping)
    (columns : List Column) (distinct order : List (List Key)) : Prop where
  grouped : Grouping.ofTable table groupBy = .ok grouping
  found : columnsOf table groupBy = .ok columns
  partitions :
    grouping.Partitions table.rows (rowKey columns) (rowCells columns) distinct
  reordered : order.Perm distinct
  sorted : grouping.sorted =
    order.map fun key => (keyCells table columns key, keyRows table columns key)

/-- A table that is the summary of another, with the keys of its rows in order. -/
structure Summarized (table summary : Table) (clause : StatsClause)
    (bounds : List BoundAggregate) (grouping : Grouping) (columns : List Column)
    (distinct order : List (List Key)) : Prop
    extends Grouped table clause.groupBy grouping columns distinct order where
  bind : clause.bind table = .ok bounds
  rows : summary.rows = order.length
  keys : ∀ (position : Nat) (name : String), clause.groupBy[position]? = some name →
    summary.column? name = some (Column.lossy (order.map fun key =>
      (keyCells table columns key)[position]?.getD .null))
  aggregated : ∀ bound ∈ bounds, ∀ key ∈ order,
    ∃ cell, aggregateRows table (keyRows table columns key) bound = .ok cell
  outputs : ∀ bound ∈ bounds, summary.column? bound.output =
    some (Column.lossy (order.map fun key =>
      aggregateOf table bound (keyRows table columns key)))

/-- A group column of a summary. -/
theorem mem_keyColumns {groupBy : List String} {keys : List (List Cell)} {position : Nat}
    {name : String} (named : groupBy[position]? = some name) :
    (name, Column.lossy (keys.map fun key => key[position]?.getD .null)) ∈
      keyColumns groupBy keys := by
  refine List.mem_map.mpr ⟨(name, position), ?_, rfl⟩
  exact List.mk_mem_zipIdx_iff_getElem?.mpr named

/-- The groups of a table have keys that can be put in order. -/
theorem exists_grouped {table : Table} {groupBy : List String} {grouping : Grouping}
    (grouped : Grouping.ofTable table groupBy = .ok grouping) :
    ∃ columns distinct order, Grouped table groupBy grouping columns distinct order := by
  obtain ⟨columns, distinct, found, partitions⟩ := ofTable_partitions grouped
  obtain ⟨order, reordered, sorted⟩ := partitions.exists_order
  exact ⟨columns, distinct, order, grouped, found, partitions, reordered, sorted⟩

namespace Grouped

variable {table : Table} {groupBy : List String} {grouping : Grouping} {columns : List Column}
  {distinct order : List (List Key)}

theorem groupRows (groups : Grouped table groupBy grouping columns distinct order) :
    grouping.sorted.map Prod.snd = order.map (keyRows table columns) := by
  rw [groups.sorted, List.map_map]
  rfl

theorem groupKeys (groups : Grouped table groupBy grouping columns distinct order) :
    grouping.sorted.map Prod.fst = order.map (keyCells table columns) := by
  rw [groups.sorted, List.map_map]
  rfl

end Grouped

/-- A summary once its clause is bound and its groups are known. -/
theorem summarize_eq {table : Table} {clause : StatsClause} {bounds : List BoundAggregate}
    {grouping : Grouping} (bind : clause.bind table = .ok bounds)
    (grouped : Grouping.ofTable table clause.groupBy = .ok grouping) :
    summarize table clause = (do
      let columns ← aggregateColumns table (grouping.sorted.map Prod.snd) bounds
      (Table.ofRows grouping.sorted.length
        (keyColumns clause.groupBy (grouping.sorted.map Prod.fst) ++ columns)).mapError
          .table) := by
  rw [summarize, bind, grouped]
  rfl

/-- What a summary is made of. -/
theorem exists_summarized {table summary : Table} {clause : StatsClause}
    (computed : summarize table clause = .ok summary) :
    ∃ bounds grouping columns distinct order,
      Summarized table summary clause bounds grouping columns distinct order := by
  rw [summarize] at computed
  obtain ⟨bounds, bind, afterBind⟩ := Except.bind_eq_ok_iff.mp computed
  obtain ⟨grouping, inner, afterGroups⟩ := Except.bind_eq_ok_iff.mp afterBind
  obtain ⟨aggregates, built, stacked⟩ := Except.bind_eq_ok_iff.mp afterGroups
  obtain ⟨parts, names, -⟩ := Table.ofRows_eq_ok (Except.mapError_eq_ok_iff.mp stacked)
  obtain ⟨columns, distinct, order, groups⟩ :=
    exists_grouped (Except.mapError_eq_ok_iff.mp inner)
  rw [groups.groupRows] at built
  obtain ⟨each, rfl⟩ := aggregateColumns_eq_ok_iff.mp built
  refine ⟨bounds, grouping, columns, distinct, order, groups, bind, ?_, ?_, ?_, ?_⟩
  · rw [parts, groups.sorted]
    exact List.length_map _
  · intro position name named
    apply Table.column?_of_mem names
    rw [parts, groups.groupKeys]
    have listed := @mem_keyColumns _ (order.map (keyCells table columns)) _ _ named
    rw [List.map_map] at listed
    exact List.mem_append_left _ listed
  · intro bound member key inOrder
    exact each bound member _ (List.mem_map_of_mem inOrder)
  · intro bound member
    apply Table.column?_of_mem names
    rw [parts]
    have listed := List.mem_map_of_mem (f := fun bound : BoundAggregate => (bound.output,
      Column.lossy ((order.map (keyRows table columns)).map (aggregateOf table bound)))) member
    rw [List.map_map] at listed
    exact List.mem_append_right _ listed

theorem names_keyColumns (groupBy : List String) (keys : List (List Cell)) :
    (keyColumns groupBy keys).map Prod.fst = groupBy := by
  rw [keyColumns, List.map_map]
  exact List.zipIdx_map_fst 0 groupBy

/-- A summary can be made when every function can be computed for every group and all names of
the columns differ. -/
theorem exists_summary_iff {table : Table} {clause : StatsClause} {bounds : List BoundAggregate}
    {grouping : Grouping} {columns : List Column} {distinct order : List (List Key)}
    (bind : clause.bind table = .ok bounds)
    (groups : Grouped table clause.groupBy grouping columns distinct order) :
    (∃ summary, summarize table clause = .ok summary) ↔
      (∀ bound ∈ bounds, ∀ key ∈ order,
        ∃ cell, aggregateRows table (keyRows table columns key) bound = .ok cell) ∧
      (clause.groupBy ++ bounds.map BoundAggregate.output).Nodup := by
  have listed : ∀ {built : List (String × Column)},
      aggregateColumns table (grouping.sorted.map Prod.snd) bounds = .ok built ↔
        (∀ bound ∈ bounds, ∀ key ∈ order,
          ∃ cell, aggregateRows table (keyRows table columns key) bound = .ok cell) ∧
        built = bounds.map fun bound => (bound.output, Column.lossy
          ((grouping.sorted.map Prod.snd).map (aggregateOf table bound))) := by
    intro built
    rw [aggregateColumns_eq_ok_iff, groups.groupRows]
    simp only [List.forall_mem_map]
  rw [summarize_eq bind groups.grouped]
  constructor
  · rintro ⟨summary, computed⟩
    obtain ⟨aggregates, built, stacked⟩ := Except.bind_eq_ok_iff.mp computed
    obtain ⟨each, rfl⟩ := listed.mp built
    obtain ⟨rfl, names, -⟩ := Table.ofRows_eq_ok (Except.mapError_eq_ok_iff.mp stacked)
    refine ⟨each, ?_⟩
    rw [Table.names, List.map_append, names_keyColumns, List.map_map] at names
    exact names
  · rintro ⟨each, names⟩
    refine ⟨_, Except.bind_eq_ok_iff.mpr ⟨_, listed.mpr ⟨each, rfl⟩,
      Except.mapError_eq_ok_iff.mpr (Table.ofRows_of_nodup ?_ ?_)⟩⟩
    · rw [List.forall_mem_append]
      constructor
      · intro entry member
        obtain ⟨⟨name, index⟩, -, rfl⟩ := List.mem_map.mp member
        rw [Column.size_lossy, List.length_map, List.length_map]
      · rw [List.forall_mem_map]
        intro bound _
        rw [Column.size_lossy, List.length_map, List.length_map]
    · rw [List.map_append, names_keyColumns, List.map_map]
      exact names

/-- A present cell of a column has the kind of the column. -/
theorem kind_of_present {cell : Cell} {kind : Kind} (fits : cell.Fits kind)
    (present : cell.isMissing = false) : cell.kind = kind := by
  rcases fits with isNull | same
  · cases cell with
    | missing marker => cases present
    | _ => cases isNull
  · exact same

section

variable {table : Table} {columns : List Column} {key : List Key}

/-- The key cells of a key that some row has are present and have that key. -/
theorem keyCells_present (occupied : ∃ row < table.rows, rowKey columns row = some key) :
    (keyCells table columns key).map Cell.key = key ∧
      ∀ cell ∈ keyCells table columns key, cell.isMissing = false := by
  exact rowCells_of_rowKey (headD_rowsOf occupied).2

theorem getElem?_keyCells (position : Nat) :
    (keyCells table columns key)[position]? =
      columns[position]?.map fun column =>
        column.cellAt ((keyRows table columns key).headD 0) :=
  List.getElem?_map

end

namespace Grouped

variable {table : Table} {groupBy : List String} {grouping : Grouping} {columns : List Column}
  {distinct order : List (List Key)}

theorem occupied (groups : Grouped table groupBy grouping columns distinct order)
    (someRow : 0 < table.rows) {key : List Key} (inOrder : key ∈ order) :
    ∃ row < table.rows, rowKey columns row = some key :=
  groups.partitions.occupied someRow key (groups.reordered.mem_iff.mp inOrder)

/-- A key cell is a present cell of the kind of its column. -/
theorem isPresent_keyCell (groups : Grouped table groupBy grouping columns distinct order)
    (wellFormed : table.WellFormed) (someRow : 0 < table.rows) {key : List Key}
    (inOrder : key ∈ order) {column : Column} (isColumn : column ∈ columns) :
    Cell.IsPresent column.kind (column.cellAt ((keyRows table columns key).headD 0)) := by
  have occupied := groups.occupied someRow inOrder
  obtain ⟨inside, -⟩ := headD_rowsOf occupied
  obtain ⟨position, there⟩ := List.getElem?_of_mem isColumn
  obtain ⟨name, -, shown⟩ := column?_of_columnsOf groups.found there
  have present := (keyCells_present occupied).2 _ (List.mem_map_of_mem isColumn)
  have fits := wellFormed.uniform_of_column? shown _ (wellFormed.cellAt_mem shown inside)
  exact ⟨kind_of_present fits present, present⟩

end Grouped

namespace Summarized

variable {table summary : Table} {clause : StatsClause} {bounds : List BoundAggregate}
  {grouping : Grouping} {columns : List Column} {distinct order : List (List Key)}

/-- A key column shows the key cells of its groups. -/
theorem cells_keyColumn
    (parts : Summarized table summary clause bounds grouping columns distinct order)
    (wellFormed : table.WellFormed) (someRow : 0 < table.rows) {position : Nat}
    {column : Column} (there : columns[position]? = some column) :
    (Column.lossy (order.map fun key =>
        (keyCells table columns key)[position]?.getD .null)).cells =
      order.map fun key => (keyCells table columns key)[position]?.getD .null := by
  apply @Column.cells_lossy_of_kind _ column.kind
  intro cell member
  obtain ⟨key, inOrder, rfl⟩ := List.mem_map.mp member
  rw [getElem?_keyCells, there, Option.map_some, Option.getD_some]
  exact (parts.isPresent_keyCell wellFormed someRow inOrder (List.mem_of_getElem? there)).1

/-- The group cells of a row of a summary are the key cells of its group. -/
theorem values_keys
    (parts : Summarized table summary clause bounds grouping columns distinct order)
    (wellFormed : table.WellFormed) (someRow : 0 < table.rows) {place : Nat} {key : List Key}
    (there : order[place]? = some key) :
    (clause.groupBy.map fun name => summary.value? name place) =
      (keyCells table columns key).map some := by
  apply List.ext_getElem?
  intro position
  have aligned : clause.groupBy[position]?.map table.column? = columns[position]?.map some := by
    rw [← List.getElem?_map, ← List.getElem?_map, columnsOf_eq_ok parts.found]
  rw [List.getElem?_map, List.getElem?_map, getElem?_keyCells]
  cases named : clause.groupBy[position]? with
  | none =>
      rw [named] at aligned
      rw [Option.map_eq_none_iff.mp aligned.symm]
      rfl
  | some name =>
      rw [named] at aligned
      obtain ⟨column, isColumn, -⟩ := Option.map_eq_some_iff.mp aligned.symm
      rw [Option.map_some, Table.value?, parts.keys position name named, Option.bind_some,
        Column.get?, parts.cells_keyColumn wellFormed someRow isColumn, List.getElem?_map, there,
        Option.map_some, getElem?_keyCells, isColumn]
      rfl

/-- The keys of a row of a summary are those of its group. -/
theorem keysAt
    (parts : Summarized table summary clause bounds grouping columns distinct order)
    (wellFormed : table.WellFormed) (someRow : 0 < table.rows) {place : Nat} {key : List Key}
    (there : order[place]? = some key) :
    summary.keysAt clause.groupBy place = key.map some := by
  obtain ⟨sameKey, -⟩ :=
    keyCells_present (parts.occupied someRow (List.mem_of_getElem? there))
  have keyed := congrArg (List.map (Option.map Cell.key))
    (parts.values_keys wellFormed someRow there)
  rw [List.map_map, List.map_map] at keyed
  rw [← sameKey, List.map_map]
  exact keyed

/-- Only one row of a summary has a key. -/
theorem keysAt_eq_iff
    (parts : Summarized table summary clause bounds grouping columns distinct order)
    (wellFormed : table.WellFormed) (someRow : 0 < table.rows) {place : Nat} {key : List Key}
    (there : order[place]? = some key) {other : Nat} (inside : other < summary.rows) :
    summary.keysAt clause.groupBy other = key.map some ↔ other = place := by
  rw [parts.rows] at inside
  obtain ⟨placed, isKey⟩ := List.getElem?_eq_some_iff.mp there
  rw [parts.keysAt wellFormed someRow (List.getElem?_eq_getElem inside)]
  constructor
  · intro same
    have sameKey : order[other] = key :=
      (List.map_inj_right fun _ _ equal => Option.some.inj equal).mp same
    have distinctOrder : order.Nodup := parts.reordered.nodup_iff.mpr parts.partitions.nodup
    exact (List.getElem_inj distinctOrder).mp (sameKey.trans isKey.symm)
  · rintro rfl
    rw [isKey]

/-- An output of a summary shows the aggregate of each key. -/
theorem value?_output
    (parts : Summarized table summary clause bounds grouping columns distinct order)
    {bound : BoundAggregate} (member : bound ∈ bounds) {place : Nat} {key : List Key}
    (there : order[place]? = some key) :
    summary.value? bound.output place =
      some (Column.coerce
        (Column.lossyKind (order.map fun key =>
          aggregateOf table bound (keyRows table columns key)))
        (aggregateOf table bound (keyRows table columns key))) := by
  rw [Table.value?, parts.outputs bound member, Option.bind_some, Column.get?_lossy,
    List.getElem?_map, there]
  rfl

end Summarized

end LogPipe.Stats
