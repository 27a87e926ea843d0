import LogPipe.Proofs.Stats.Groups
import LogPipe.Proofs.Stats.Orderless
import LogPipe.Proofs.Table.Preservation
import LogPipe.Proofs.Table.Gathering

/-!
# Summaries of rows in another order

When the rows of a table come in another order, each key has the same rows, in another order
and at other places.  So a function that sees its cells as a set computes the same aggregate
for the key.  When present cells of the grouping columns are told apart by their keys, the
first row of a group shows the same key cells as any other, the groups are sorted as before,
and the whole summary stays what it was.
-/

namespace LogPipe

/-- A kind whose present cells are told apart by their keys. -/
def Kind.Discrete : Kind → Prop
  | .null | .bool | .int | .time | .text => True
  | .float | .list => False

instance (kind : Kind) : Decidable kind.Discrete := by
  cases kind <;> unfold Kind.Discrete <;> infer_instance

theorem Kind.Discrete.ne_list {kind : Kind} (discrete : kind.Discrete) : kind ≠ .list := by
  rintro rfl
  exact discrete

theorem Cell.eq_of_key_eq {kind : Kind} (discrete : kind.Discrete) {left right : Cell}
    (isLeft : IsPresent kind left) (isRight : IsPresent kind right)
    (same : left.key = right.key) : left = right := by
  obtain ⟨rfl, leftThere⟩ := isLeft
  obtain ⟨sameKind, rightThere⟩ := isRight
  cases left with
  | missing marker => cases leftThere
  | float x => exact absurd discrete id
  | list items => exact absurd discrete id
  | _ => cases right <;> first | cases sameKind; done | (cases same; rfl)

namespace StatsClause

variable (table : Table) (positions : List Nat)

theorem bindAggregates_takeRows (groupBy : List String) (aggregates : List Aggregate) :
    bindAggregates (table.takeRows positions) groupBy aggregates =
      bindAggregates table groupBy aggregates := by
  induction aggregates with
  | nil => rfl
  | cons aggregate aggregates induction =>
      rw [bindAggregates, bindAggregates, induction, bindAggregate, bindAggregate]
      simp only [Table.names_takeRows, Table.hasColumn_takeRows]

/-- Binding reads only which columns there are. -/
theorem bind_takeRows (clause : StatsClause) :
    clause.bind (table.takeRows positions) = clause.bind table := by
  rw [bind, bind, bindAggregates_takeRows, firstMissing, firstMissing]
  simp only [Table.hasColumn_takeRows]

end StatsClause

namespace Grouping

variable {table : Table} {positions : List Nat}

theorem columnsOf_takeRows (table : Table) (positions : List Nat) (names : List String) :
    columnsOf (table.takeRows positions) names =
      (columnsOf table names).map fun columns =>
        columns.map fun column => column.take positions := by
  induction names with
  | nil => rfl
  | cons name names induction =>
      rw [columnsOf, columnsOf, Table.require_takeRows, induction]
      cases table.require name with
      | error error => rfl
      | ok column => cases columnsOf table names <;> rfl

theorem rowCells_takeRows (columns : List Column) {place : Nat}
    (inside : place < positions.length) :
    rowCells (columns.map fun column => column.take positions) place =
      rowCells columns (Table.rowAt positions place) := by
  rw [rowCells, rowCells, List.map_map]
  apply List.map_congr_left
  intro column _
  exact column.cellAt_take inside

/-- The key of a reordered row. -/
theorem rowKey_takeRows (columns : List Column) {place : Nat} (inside : place < positions.length) :
    rowKey (columns.map fun column => column.take positions) place =
      rowKey columns (Table.rowAt positions place) := by
  rw [rowKey, rowKey, rowCells_takeRows columns inside]

/-- The rows of a key are the same, in another order. -/
theorem rowsOf_takeRows (order : Table.RowOrder table positions) (columns : List Column)
    (key : List Key) :
    ((rowsOf (rowKey (columns.map fun column => column.take positions)) table.rows key).map
      (Table.rowAt positions)).Perm (rowsOf (rowKey columns) table.rows key) := by
  have length : positions.length = table.rows := order.rows_eq
  have taken : rowsOf (rowKey (columns.map fun column => column.take positions)) table.rows key =
      (List.range positions.length).filter
        ((fun row => rowKey columns row == some key) ∘ Table.rowAt positions) := by
    rw [rowsOf, length]
    apply List.filter_congr
    intro place inRange
    rw [← length, List.mem_range] at inRange
    rw [Function.comp_apply, rowKey_takeRows columns inRange]
  rw [taken, ← List.filter_map, Table.map_rowAt]
  exact order.reordering.filter _

end Grouping

namespace Stats

open Grouping

variable {table : Table} {positions : List Nat} {bound : BoundAggregate}

/-- The aggregate of reordered rows. -/
theorem aggregateRows_takeRows (order : Table.RowOrder table positions) {places : List Nat}
    (inside : ∀ place ∈ places, place < table.rows) :
    aggregateRows (table.takeRows positions) places bound =
      aggregateRows table (places.map (Table.rowAt positions)) bound := by
  rw [aggregateRows, aggregateRows]
  cases bound.field with
  | none => simp only [List.length_map]
  | some field =>
      simp only [Table.require_takeRows]
      cases table.require field with
      | error error => rfl
      | ok column =>
          have sameCells : places.map (column.take positions).cellAt =
              (places.map (Table.rowAt positions)).map column.cellAt := by
            rw [List.map_map]
            apply List.map_congr_left
            intro place member
            have within := inside place member
            rw [← order.rows_eq] at within
            exact column.cellAt_take within
          simp only [Except.map, sameCells]

theorem aggregateRows_keyRows (reorders : Table.RowOrder table positions) (columns : List Column)
    (key : List Key) :
    aggregateRows (table.takeRows positions) (keyRows (table.takeRows positions) columns key)
        bound =
      aggregateRows table
        ((keyRows (table.takeRows positions) columns key).map (Table.rowAt positions)) bound := by
  apply aggregateRows_takeRows reorders
  intro place member
  rw [← reorders.rows_eq]
  exact (mem_rowsOf.mp member).1

/-- Rows of a table that a function aggregates the same way in every order. -/
def Orderless (table : Table) (bound : BoundAggregate) (rows : List Nat) : Prop :=
  ∀ others, others.Perm rows → aggregateRows table others bound = aggregateRows table rows bound

/-- Whether rows can be aggregated does not depend on their order. -/
theorem exists_aggregate_perm {rows others : List Nat} (perm : rows.Perm others)
    (aggregated : ∃ cell, aggregateRows table rows bound = .ok cell) :
    ∃ cell, aggregateRows table others bound = .ok cell := by
  apply Except.exists_ok_of_not_error
  rintro ⟨error, failed⟩
  obtain ⟨cell, isCell⟩ := aggregated
  rw [aggregateRows] at failed isCell
  cases named : bound.field with
  | none =>
      rw [named] at failed
      cases failed
  | some field =>
      simp only [named] at failed isCell
      cases required : table.require field with
      | error other =>
          rw [required] at isCell
          cases isCell
      | ok column =>
          simp only [required] at failed isCell
          obtain ⟨fault, isFault, -⟩ := Except.mapError_eq_error_iff.mp failed
          obtain ⟨_, isError⟩ := (AggregateFunction.reduce_error_perm
            (perm.map column.cellAt)).mpr ⟨fault, isFault⟩
          rw [isError] at isCell
          cases isCell

/-- A function that sees the cells of its field as a set or as a bag, and no lists. -/
structure SetLike (table : Table) (bound : BoundAggregate) : Prop where
  function : bound.function.IsSetLike
  field : ∀ field, bound.field = some field →
    ∀ column, table.column? field = some column → column.kind ≠ .list

theorem SetLike.orderless (setLike : SetLike table bound) (wellFormed : table.WellFormed)
    {rows : List Nat} (inside : ∀ row ∈ rows, row < table.rows) : Orderless table bound rows := by
  intro others perm
  simp only [aggregateRows]
  cases named : bound.field with
  | none => simp only [perm.length_eq]
  | some field =>
      cases required : table.require field with
      | error error => simp only [required]
      | ok column =>
          have shown := Table.require_eq_ok_iff.mp required
          have ofKind : ∀ cell ∈ others.map column.cellAt, cell.isMissing = false →
              cell.kind = column.kind := by
            intro cell member there
            obtain ⟨row, inOthers, rfl⟩ := List.mem_map.mp member
            have fits := wellFormed.uniform_of_column? shown _
              (wellFormed.cellAt_mem shown (inside row (perm.mem_iff.mp inOthers)))
            exact kind_of_present fits there
          simp only [required, setLike.function.reduce_perm
            (setLike.field field named column shown) ofKind (perm.map column.cellAt)]

section Congruence

variable {other : Table} {bounds : List BoundAggregate} {keys : List (List Key)}
  {rows otherRows : List Key → List Nat}

theorem aggregateGroups_congr (same : ∀ key ∈ keys,
      aggregateRows other (otherRows key) bound = aggregateRows table (rows key) bound) :
    aggregateGroups other bound (keys.map otherRows) =
      aggregateGroups table bound (keys.map rows) := by
  induction keys with
  | nil => rfl
  | cons key keys induction =>
      rw [List.forall_mem_cons] at same
      rw [List.map_cons, List.map_cons, aggregateGroups, aggregateGroups, same.1,
        induction same.2]

/-- The output columns read of each group only what its functions make of it. -/
theorem aggregateColumns_congr (same : ∀ bound ∈ bounds, ∀ key ∈ keys,
      aggregateRows other (otherRows key) bound = aggregateRows table (rows key) bound) :
    aggregateColumns other (keys.map otherRows) bounds =
      aggregateColumns table (keys.map rows) bounds := by
  induction bounds with
  | nil => rfl
  | cons bound bounds induction =>
      rw [List.forall_mem_cons] at same
      rw [aggregateColumns, aggregateColumns, aggregateGroups_congr same.1, induction same.2]

end Congruence

/-- Two rows with one key show the same key cells. -/
theorem rowCells_eq_of_rowKey {columns : List Column} {key : List Key} {row other : Nat}
    (discrete : ∀ column ∈ columns, column.kind.Discrete)
    (fits : ∀ column ∈ columns, (column.cellAt row).Fits column.kind ∧
      (column.cellAt other).Fits column.kind)
    (keyed : rowKey columns row = some key) (otherKeyed : rowKey columns other = some key) :
    rowCells columns row = rowCells columns other := by
  obtain ⟨keys, there⟩ := rowCells_of_rowKey keyed
  obtain ⟨otherKeys, otherThere⟩ := rowCells_of_rowKey otherKeyed
  rw [← otherKeys, rowCells, rowCells, List.map_map, List.map_map, List.map_inj_left] at keys
  rw [rowCells, List.forall_mem_map] at there otherThere
  apply List.map_congr_left
  intro column member
  obtain ⟨fitsHere, fitsThere⟩ := fits column member
  exact Cell.eq_of_key_eq (discrete column member)
    ⟨kind_of_present fitsHere (there column member), there column member⟩
    ⟨kind_of_present fitsThere (otherThere column member), otherThere column member⟩
    (keys column member)

namespace Grouped

variable {groupBy : List String} {grouping otherGrouping : Grouping}
  {columns otherColumns : List Column} {distinct order otherDistinct otherOrder : List (List Key)}

/-- The keys in order are those that some row has. -/
theorem mem_order_iff (groups : Grouped table groupBy grouping columns distinct order)
    (someRow : 0 < table.rows) {key : List Key} :
    key ∈ order ↔ ∃ row < table.rows, rowKey columns row = some key := by
  constructor
  · exact groups.occupied someRow
  · rintro ⟨row, inside, keyed⟩
    exact groups.reordered.mem_iff.mpr (groups.partitions.covers row inside key keyed)

theorem columns_takeRows (groups : Grouped table groupBy grouping columns distinct order)
    (others : Grouped (table.takeRows positions) groupBy otherGrouping otherColumns otherDistinct
      otherOrder) :
    otherColumns = columns.map fun column => column.take positions := by
  have found := others.found
  rw [columnsOf_takeRows, groups.found] at found
  exact (Except.ok.inj found).symm

/-- A key has the same rows. -/
theorem keyRows_takeRows (groups : Grouped table groupBy grouping columns distinct order)
    (others : Grouped (table.takeRows positions) groupBy otherGrouping otherColumns otherDistinct
      otherOrder)
    (reorders : Table.RowOrder table positions) (key : List Key) :
    ((keyRows (table.takeRows positions) otherColumns key).map (Table.rowAt positions)).Perm
      (keyRows table columns key) := by
  rw [keyRows, keyRows, groups.columns_takeRows others, reorders.rows_eq]
  exact rowsOf_takeRows reorders columns key

theorem discrete_columns (groups : Grouped table groupBy grouping columns distinct order)
    (discrete : ∀ name ∈ groupBy, ∀ column, table.column? name = some column →
      column.kind.Discrete) : ∀ column ∈ columns, column.kind.Discrete := by
  intro column member
  obtain ⟨position, there⟩ := List.getElem?_of_mem member
  obtain ⟨name, named, shown⟩ := column?_of_columnsOf groups.found there
  exact discrete name (List.mem_of_getElem? named) column shown

/-- The rows of the table that a key of its summary has, found through the reordered rows. -/
theorem aggregateRows_takeRows (groups : Grouped table groupBy grouping columns distinct order)
    (others : Grouped (table.takeRows positions) groupBy otherGrouping otherColumns otherDistinct
      otherOrder)
    (reorders : Table.RowOrder table positions) {key : List Key}
    (orderless : Orderless table bound (keyRows table columns key)) :
    aggregateRows (table.takeRows positions) (keyRows (table.takeRows positions) otherColumns key)
        bound =
      aggregateRows table (keyRows table columns key) bound := by
  rw [aggregateRows_keyRows reorders]
  exact orderless _ (groups.keyRows_takeRows others reorders key)

/-- What can be computed for a key can be computed for its reordered rows. -/
theorem exists_aggregate_takeRows
    (groups : Grouped table groupBy grouping columns distinct order)
    (others : Grouped (table.takeRows positions) groupBy otherGrouping otherColumns otherDistinct
      otherOrder)
    (reorders : Table.RowOrder table positions) {key : List Key}
    (aggregated : ∃ cell, aggregateRows table (keyRows table columns key) bound = .ok cell) :
    ∃ cell, aggregateRows (table.takeRows positions)
      (keyRows (table.takeRows positions) otherColumns key) bound = .ok cell := by
  rw [aggregateRows_keyRows reorders]
  exact exists_aggregate_perm (groups.keyRows_takeRows others reorders key).symm aggregated

section Discrete

variable (groups : Grouped table groupBy grouping columns distinct order)
  (others : Grouped (table.takeRows positions) groupBy otherGrouping otherColumns otherDistinct
    otherOrder)
  (reorders : Table.RowOrder table positions) (someRow : 0 < table.rows)

include groups others reorders someRow

theorem mem_order_takeRows (key : List Key) : key ∈ otherOrder ↔ key ∈ order := by
  have someOther : 0 < (table.takeRows positions).rows := by
    rw [reorders.rows_eq]
    exact someRow
  have rows := groups.keyRows_takeRows others reorders key
  rw [groups.mem_order_iff someRow, others.mem_order_iff someOther]
  constructor
  · rintro ⟨place, inside, keyed⟩
    have member := List.mem_map_of_mem (f := Table.rowAt positions)
      (mem_rowsOf.mpr ⟨inside, keyed⟩)
    exact ⟨_, mem_rowsOf.mp (rows.mem_iff.mp member)⟩
  · rintro ⟨row, inside, keyed⟩
    obtain ⟨place, member, -⟩ :=
      List.mem_map.mp (rows.mem_iff.mpr (mem_rowsOf.mpr ⟨inside, keyed⟩))
    exact ⟨place, mem_rowsOf.mp member⟩

theorem perm_order_takeRows : otherOrder.Perm order := by
  rw [List.perm_ext_iff_of_nodup (others.reordered.nodup_iff.mpr others.partitions.nodup)
    (groups.reordered.nodup_iff.mpr groups.partitions.nodup)]
  exact groups.mem_order_takeRows others reorders someRow

/-- The first row of a key shows the key cells of any other one. -/
theorem keyCells_takeRows (discrete : ∀ column ∈ columns, column.kind.Discrete) {key : List Key}
    (inOrder : key ∈ order) :
    keyCells (table.takeRows positions) otherColumns key = keyCells table columns key := by
  have someOther : 0 < (table.takeRows positions).rows := by
    rw [reorders.rows_eq]
    exact someRow
  have inOther := (groups.mem_order_takeRows others reorders someRow key).mpr inOrder
  obtain ⟨inside, keyed⟩ := headD_rowsOf (groups.occupied someRow inOrder)
  obtain ⟨otherInside, otherKeyed⟩ := headD_rowsOf (others.occupied someOther inOther)
  rw [keyCells, keyCells, cellsOfKey, cellsOfKey]
  generalize (rowsOf (rowKey otherColumns) (table.takeRows positions).rows key).headD 0 = place
    at otherInside otherKeyed
  rw [groups.columns_takeRows others, rowKey_takeRows columns otherInside] at otherKeyed
  rw [groups.columns_takeRows others, rowCells_takeRows columns otherInside]
  rw [reorders.rows_eq] at otherInside
  apply rowCells_eq_of_rowKey discrete _ otherKeyed keyed
  intro column member
  obtain ⟨position, there⟩ := List.getElem?_of_mem member
  obtain ⟨name, -, shown⟩ := column?_of_columnsOf groups.found there
  have uniform := reorders.wellFormed.uniform_of_column? shown
  exact ⟨uniform _ (reorders.wellFormed.cellAt_mem shown (reorders.rowAt_lt otherInside)),
    uniform _ (reorders.wellFormed.cellAt_mem shown inside)⟩

/-- The keys come in the same order. -/
theorem order_takeRows
    (discrete : ∀ name ∈ groupBy, ∀ column, table.column? name = some column →
      column.kind.Discrete) :
    otherOrder = order := by
  have columnsDiscrete := groups.discrete_columns discrete
  have someOther : 0 < (table.takeRows positions).rows := by
    rw [reorders.rows_eq]
    exact someRow
  have listed := groups.mem_order_takeRows others reorders someRow
  have perm := groups.perm_order_takeRows others reorders someRow
  have ascends := groups.pairwise_order reorders.wellFormed someRow
    fun name member column shown => (discrete name member column shown).ne_list
  have otherAscends := others.pairwise_order (reorders.wellFormed.takeRows positions) someOther
    fun name member column shown => by
      rw [Table.column?_takeRows] at shown
      obtain ⟨source, isSource, rfl⟩ := Option.map_eq_some_iff.mp shown
      exact (discrete name member source isSource).ne_list
  refine perm.eq_of_pairwise ?_ (otherAscends.imp_of_mem ?_) ascends
  · intro left right _ _ before after
    rw [compareKeys_swap, after] at before
    cases before
  · intro left right isLeft isRight before
    rw [groups.keyCells_takeRows others reorders someRow columnsDiscrete ((listed left).mp isLeft),
      groups.keyCells_takeRows others reorders someRow columnsDiscrete
        ((listed right).mp isRight)] at before
    exact before

end Discrete

end Grouped

/-- Rows that have a summary have one in every order. -/
theorem exists_summary_takeRows (reorders : Table.RowOrder table positions)
    {clause : StatsClause} {summary : Table} (summarized : summarize table clause = .ok summary) :
    ∃ other, summarize (table.takeRows positions) clause = .ok other := by
  obtain noRow | someRow := Nat.eq_zero_or_pos table.rows
  · rw [reorders.takeRows_of_no_rows noRow]
    exact ⟨summary, summarized⟩
  obtain ⟨bounds, grouping, columns, distinct, order, parts⟩ := exists_summarized summarized
  have bindOther := (StatsClause.bind_takeRows table positions clause).trans parts.bind
  obtain ⟨otherGrouping, otherGrouped⟩ := exists_grouping (StatsClause.bind_eq_ok bindOther).groups
  obtain ⟨otherColumns, otherDistinct, otherOrder, others⟩ := exists_grouped otherGrouped
  obtain ⟨each, names⟩ := (exists_summary_iff parts.bind parts.toGrouped).mp ⟨summary, summarized⟩
  refine (exists_summary_iff bindOther others).mpr ⟨fun bound member key inOther => ?_, names⟩
  have inOrder := (parts.mem_order_takeRows others reorders someRow key).mp inOther
  exact parts.exists_aggregate_takeRows others reorders (each bound member key inOrder)

/-- A function that sees no order shows for each key what it shows for the reordered rows. -/
theorem Summarized.value?_takeRows {summary other : Table} {clause : StatsClause}
    {bounds : List BoundAggregate} {grouping otherGrouping : Grouping}
    {columns otherColumns : List Column} {distinct order otherDistinct otherOrder : List (List Key)}
    (parts : Summarized table summary clause bounds grouping columns distinct order)
    (others : Summarized (table.takeRows positions) other clause bounds otherGrouping otherColumns
      otherDistinct otherOrder)
    (reorders : Table.RowOrder table positions) (someRow : 0 < table.rows)
    (member : bound ∈ bounds)
    (orderless : ∀ key ∈ order, Orderless table bound (keyRows table columns key))
    {place : Nat} {key : List Key} (there : order[place]? = some key) :
    ∃ otherPlace, otherOrder[otherPlace]? = some key ∧
      other.value? bound.output otherPlace = summary.value? bound.output place := by
  have listed := parts.mem_order_takeRows others.toGrouped reorders someRow
  have inOrder := List.mem_of_getElem? there
  obtain ⟨otherPlace, otherThere⟩ := List.getElem?_of_mem ((listed key).mpr inOrder)
  have sameCell : ∀ key ∈ order,
      aggregateOf (table.takeRows positions) bound
          (keyRows (table.takeRows positions) otherColumns key) =
        aggregateOf table bound (keyRows table columns key) := by
    intro key inOrder
    rw [aggregateOf, aggregateOf,
      parts.aggregateRows_takeRows others.toGrouped reorders (orderless key inOrder)]
  have sameKind :
      Column.lossyKind (otherOrder.map fun key => aggregateOf (table.takeRows positions) bound
          (keyRows (table.takeRows positions) otherColumns key)) =
        Column.lossyKind (order.map fun key => aggregateOf table bound
          (keyRows table columns key)) := by
    rw [List.map_congr_left fun key inOther => sameCell key ((listed key).mp inOther)]
    exact Column.lossyKind_perm
      ((parts.perm_order_takeRows others.toGrouped reorders someRow).map _)
  refine ⟨otherPlace, otherThere, ?_⟩
  rw [others.value?_output member otherThere, parts.value?_output member there, sameKind,
    sameCell key inOrder]

/-- The order of the rows is nothing that a summary of set-like functions can see, as long as
the cells of its grouping columns are told apart by their keys.  Rows in another order give the
same table, or the same error. -/
theorem summarize_takeRows (table : Table) (wellFormed : table.WellFormed) (positions : List Nat)
    (reordering : positions.Perm (List.range table.rows)) (clause : StatsClause)
    (discrete : ∀ name ∈ clause.groupBy, ∀ column, table.column? name = some column →
      column.kind.Discrete)
    (setLike : ∀ bounds, clause.bind table = .ok bounds → ∀ bound ∈ bounds, SetLike table bound) :
    summarize (table.takeRows positions) clause = summarize table clause := by
  have reorders : Table.RowOrder table positions := ⟨wellFormed, reordering⟩
  obtain noRow | someRow := Nat.eq_zero_or_pos table.rows
  · rw [reorders.takeRows_of_no_rows noRow]
  have bindOther := StatsClause.bind_takeRows table positions clause
  cases bind : clause.bind table with
  | error error =>
      rw [summarize, summarize, bindOther, bind]
      rfl
  | ok bounds =>
      rw [bind] at bindOther
      obtain ⟨grouping, grouped⟩ := exists_grouping (StatsClause.bind_eq_ok bind).groups
      obtain ⟨otherGrouping, otherGrouped⟩ :=
        exists_grouping (StatsClause.bind_eq_ok bindOther).groups
      obtain ⟨columns, distinct, order, groups⟩ := exists_grouped grouped
      obtain ⟨otherColumns, otherDistinct, otherOrder, others⟩ := exists_grouped otherGrouped
      have sameOrder := groups.order_takeRows others reorders someRow discrete
      subst sameOrder
      have sameKeys : otherGrouping.sorted.map Prod.fst = grouping.sorted.map Prod.fst := by
        rw [groups.groupKeys, others.groupKeys]
        exact List.map_congr_left fun key inOrder =>
          groups.keyCells_takeRows others reorders someRow (groups.discrete_columns discrete)
            inOrder
      have sameColumns : aggregateColumns (table.takeRows positions)
            (otherGrouping.sorted.map Prod.snd) bounds =
          aggregateColumns table (grouping.sorted.map Prod.snd) bounds := by
        rw [groups.groupRows, others.groupRows]
        exact aggregateColumns_congr fun bound member key _ =>
          groups.aggregateRows_takeRows others reorders
            ((setLike bounds bind bound member).orderless wellFormed
              fun _ => lt_of_mem_keyRows)
      have sameLength : otherGrouping.sorted.length = grouping.sorted.length := by
        rw [groups.sorted, others.sorted, List.length_map, List.length_map]
      rw [summarize_eq bindOther otherGrouped, summarize_eq bind grouped, sameKeys,
        sameColumns, sameLength]

/-- Visits of two users. -/
def visits : Table :=
  ⟨3, [("user", ⟨.text, [.text "a", .text "b", .text "a"]⟩),
    ("page", ⟨.int, [.int 4, .int 2, .int 9]⟩)]⟩

/-- The clause `max(page) as last, dc(page) as pages by user`. -/
def userPages : StatsClause :=
  ⟨[⟨.max, "max", some "page", some "last"⟩, ⟨.distinctCount, "dc", some "page", some "pages"⟩],
    ["user"]⟩

/-- The visits from the last to the first have the summary that they have in their order. -/
theorem summarize_takeRows_sample :
    summarize (visits.takeRows [2, 1, 0]) userPages =
      .ok ⟨2, [("user", ⟨.text, [.text "a", .text "b"]⟩), ("last", ⟨.int, [.int 9, .int 2]⟩),
        ("pages", ⟨.int, [.int 2, .int 1]⟩)]⟩ := by
  let grouping := Grouping.ofColumns 3 [⟨.text, [.text "a", .text "b", .text "a"]⟩]
  have sorted : grouping.sorted = [([.text "a"], [0, 2]), ([.text "b"], [1])] :=
    List.mergeSort_of_pairwise (by decide +kernel)
  have bind : userPages.bind visits =
      .ok [⟨.max, some "page", "last"⟩, ⟨.distinctCount, some "page", "pages"⟩] := rfl
  have discrete : ∀ name ∈ userPages.groupBy, ∀ column, visits.column? name = some column →
      column.kind.Discrete := by
    intro name member column shown
    cases List.mem_singleton.mp member
    cases shown
    exact trivial
  have setLike : ∀ bounds, userPages.bind visits = .ok bounds →
      ∀ bound ∈ bounds, SetLike visits bound := by
    intro bounds bound
    rw [bind] at bound
    cases bound
    rw [List.forall_mem_cons, List.forall_mem_singleton]
    refine ⟨⟨by decide, ?_⟩, ⟨by decide, ?_⟩⟩ <;>
    · intro field named column shown
      cases named
      cases shown
      exact nofun
  rw [summarize_takeRows visits (by decide) [2, 1, 0] (by decide) userPages discrete setLike,
    summarize_eq bind (show Grouping.ofTable visits userPages.groupBy = .ok grouping from rfl),
    sorted]
  rfl

end Stats

end LogPipe
