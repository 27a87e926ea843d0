import LogPipe.Proofs.Stats.Order
import LogPipe.Proofs.Stats.Summary
import Mathlib.Data.List.Nodup

/-!
# One row for each group

The rows of a summary are in bijection with the keys of the rows that have keys.  Each of
them shows the key cells of the first row with its keys and the aggregates of all rows with
its keys.  When no key is a list they are strictly ascending, because the order of the key
cells tells apart whatever their keys do.
-/

namespace LogPipe

namespace Table

/-- A row that has keys, and is the first with them. -/
def IsFirst (table : Table) (names : List String) (row : Nat) : Prop :=
  table.HasKeys names row ∧
    ∀ earlier < row, table.keysAt names earlier ≠ table.keysAt names row

/-- How the cells of two rows in a column compare. -/
def Compares (table : Table) (name : String) (lower upper : Nat) (ordering : Ordering) : Prop :=
  ∃ left right, table.value? name lower = some left ∧ table.value? name upper = some right ∧
    left.totalCompare right = ordering

/-- A row comes strictly before another one by the cells of some columns, of which the
first that differs decides. -/
def Precedes (table : Table) (names : List String) (lower upper : Nat) : Prop :=
  ∃ before name after, names = before ++ name :: after ∧
    (∀ other ∈ before, table.Compares other lower upper .eq) ∧
    table.Compares name lower upper .lt

theorem values_getD {table : Table} {names : List String} {row : Nat} {cells : List Cell}
    (shown : (names.map fun name => table.value? name row) = cells.map some) :
    cells = (names.map fun name => (table.value? name row).getD .null) ∧
      ∀ name ∈ names, table.value? name row = some ((table.value? name row).getD .null) := by
  constructor
  · have unwrapped := congrArg (List.map fun value : Option Cell => value.getD .null) shown
    rw [List.map_map, List.map_map] at unwrapped
    rw [← List.map_id cells]
    exact unwrapped.symm
  · intro name member
    have listed : table.value? name row ∈ cells.map some := by
      rw [← shown]
      exact List.mem_map_of_mem member
    obtain ⟨cell, -, isCell⟩ := List.mem_map.mp listed
    rw [← isCell]
    rfl

/-- Rows are in the order of their key cells. -/
theorem precedes_of_compareKeys {table : Table} {names : List String} {lower upper : Nat}
    {lowerCells upperCells : List Cell}
    (isLower : (names.map fun name => table.value? name lower) = lowerCells.map some)
    (isUpper : (names.map fun name => table.value? name upper) = upperCells.map some)
    (less : Grouping.compareKeys lowerCells upperCells = .lt) :
    table.Precedes names lower upper := by
  obtain ⟨lowerValues, lowerShown⟩ := values_getD isLower
  obtain ⟨upperValues, upperShown⟩ := values_getD isUpper
  rw [lowerValues, upperValues, Grouping.compareKeys_eq_lt_iff] at less
  obtain ⟨before, name, after, split, equal, decides⟩ := less
  have listed : ∀ other, other ∈ before ∨ other = name → other ∈ names := by
    intro other place
    rw [split, List.mem_append, List.mem_cons]
    exact place.imp_right Or.inl
  refine ⟨before, name, after, split, ?_, ?_⟩
  · intro other member
    have inNames := listed other (Or.inl member)
    exact ⟨_, _, lowerShown other inNames, upperShown other inNames, equal other member⟩
  · have inNames := listed name (Or.inr rfl)
    exact ⟨_, _, lowerShown name inNames, upperShown name inNames, decides⟩

end Table

namespace Stats

open Grouping

/-- What a function makes of some rows: their number, or the cells of its field reduced. -/
def IsAggregate (table : Table) (bound : BoundAggregate) (rows : List Nat) (cell : Cell) :
    Prop :=
  match bound.field with
  | none => cell = Reducer.countCell rows.length
  | some field => bound.function.reduce (fieldCells table field rows) = .ok cell

theorem isAggregate_of_aggregateRows {table : Table} (wellFormed : table.WellFormed)
    {bound : BoundAggregate} {rows : List Nat} (inside : ∀ row ∈ rows, row < table.rows)
    {cell : Cell} (aggregated : aggregateRows table rows bound = .ok cell) :
    IsAggregate table bound rows cell := by
  rw [aggregateRows] at aggregated
  rw [IsAggregate]
  cases named : bound.field with
  | none =>
      rw [named] at aggregated
      exact (Except.ok.inj aggregated).symm
  | some field =>
      simp only [named] at aggregated
      cases required : table.require field with
      | error error =>
          rw [required] at aggregated
          cases aggregated
      | ok column =>
          rw [required] at aggregated
          have shown := Table.require_eq_ok_iff.mp required
          simp only [fieldCells_eq wellFormed shown inside]
          exact Except.mapError_eq_ok_iff.mp aggregated

theorem headD_rowsOf_le {keyOf : Nat → Option (List Key)} {rows row : Nat} {key : List Key}
    (inside : row < rows) (keyed : keyOf row = some key) :
    (rowsOf keyOf rows key).headD 0 ≤ row := by
  have member : row ∈ rowsOf keyOf rows key := mem_rowsOf.mpr ⟨inside, keyed⟩
  have ascending : (rowsOf keyOf rows key).Pairwise (· < ·) :=
    List.pairwise_lt_range.filter _
  cases listed : rowsOf keyOf rows key with
  | nil =>
      rw [listed] at member
      cases member
  | cons first later =>
      rw [listed] at member ascending
      rcases List.mem_cons.mp member with rfl | inLater
      · exact Nat.le_refl _
      · exact Nat.le_of_lt (List.rel_of_pairwise_cons ascending inLater)

namespace Grouped

variable {table : Table} {groupBy : List String} {grouping : Grouping} {columns : List Column}
  {distinct order : List (List Key)}

theorem length_order_whole
    (groups : Grouped table groupBy grouping columns distinct order)
    (whole : groupBy = []) : order.length = 1 := by
  have grouped := groups.grouped
  rw [whole] at grouped
  cases grouped
  have members := congrArg List.length groups.partitions.members
  rw [List.length_map] at members
  rw [groups.reordered.length_eq, ← members]
  rfl

theorem someRow_of_mem
    (groups : Grouped table groupBy grouping columns distinct order)
    (some : 0 < table.rows ∨ groupBy ≠ []) {key : List Key} (inOrder : key ∈ order) :
    0 < table.rows := by
  rcases some with someRow | someColumn
  · exact someRow
  · rw [Nat.pos_iff_ne_zero]
    intro noRow
    have grouped := groups.grouped
    rw [ofTable, if_neg (by simpa using someColumn), groups.found, noRow] at grouped
    have members := groups.partitions.members
    rw [← Except.ok.inj grouped] at members
    have noKey : distinct = [] := List.map_eq_nil_iff.mp members.symm
    rw [groups.reordered.mem_iff, noKey] at inOrder
    cases inOrder

/-- The first row of a group is the first with its keys. -/
theorem isFirst
    (groups : Grouped table groupBy grouping columns distinct order)
    (wellFormed : table.WellFormed) (someRow : 0 < table.rows) {key : List Key}
    (inOrder : key ∈ order) :
    (keyRows table columns key).headD 0 < table.rows ∧
      table.IsFirst groupBy ((keyRows table columns key).headD 0) ∧
      table.keysAt groupBy ((keyRows table columns key).headD 0) = key.map some := by
  obtain ⟨inside, keyed⟩ := headD_rowsOf (groups.occupied someRow inOrder)
  obtain ⟨has, keys⟩ := (rowKey_eq_some_iff wellFormed groups.found inside).mp keyed
  refine ⟨inside, ⟨has, ?_⟩, keys⟩
  intro earlier before same
  have earlierInside : earlier < table.rows := Nat.lt_trans before inside
  -- An earlier row with these keys would be in the group, before its head.
  have earlierHas : table.HasKeys groupBy earlier := by
    rw [Table.hasKeys_iff] at has ⊢
    rw [same]
    exact has
  have earlierKeyed : rowKey columns earlier = some key :=
    (rowKey_eq_some_iff wellFormed groups.found earlierInside).mpr
      ⟨earlierHas, same.trans keys⟩
  exact absurd before (Nat.not_lt.mpr (headD_rowsOf_le earlierInside earlierKeyed))

theorem pairwise_order
    (groups : Grouped table groupBy grouping columns distinct order)
    (wellFormed : table.WellFormed) (someRow : 0 < table.rows)
    (noList : ∀ name ∈ groupBy, ∀ column, table.column? name = some column →
      column.kind ≠ .list) :
    order.Pairwise fun left right =>
      compareKeys (keyCells table columns left) (keyCells table columns right) = .lt := by
  have perm : (grouping.keys.zip grouping.members).Perm
      (order.map fun key => (keyCells table columns key, keyRows table columns key)) := by
    rw [← groups.sorted]
    exact (List.mergeSort_perm _ _).symm
  have ascending : grouping.sorted.Pairwise fun left right =>
      compareKeys left.1 right.1 = .lt := by
    apply @pairwise_sorted _ (columns.map Column.kind)
    · intro kind isKind
      obtain ⟨column, isColumn, rfl⟩ := List.mem_map.mp isKind
      obtain ⟨position, there⟩ := List.getElem?_of_mem isColumn
      obtain ⟨name, named, shown⟩ := column?_of_columnsOf groups.found there
      exact noList name (List.mem_of_getElem? named) column shown
    · intro entry member
      obtain ⟨key, inOrder, rfl⟩ := List.mem_map.mp (perm.mem_iff.mp member)
      apply List.forall₂_map_left_iff.mpr
      apply List.forall₂_map_right_iff.mpr
      apply List.forall₂_same.mpr
      intro column isColumn
      exact groups.isPresent_keyCell wellFormed someRow inOrder isColumn
    · rw [(perm.map Prod.fst).nodup_iff, List.map_map]
      apply List.Nodup.map_on
      · intro left isLeft right isRight same
        rw [← (keyCells_present (groups.occupied someRow isLeft)).1,
          ← (keyCells_present (groups.occupied someRow isRight)).1]
        exact congrArg (List.map Cell.key) same
      · exact groups.reordered.nodup_iff.mpr groups.partitions.nodup
  rw [groups.sorted, List.pairwise_map] at ascending
  exact ascending

end Grouped

namespace Summarized

variable {table summary : Table} {clause : StatsClause} {bounds : List BoundAggregate}
  {grouping : Grouping} {columns : List Column} {distinct order : List (List Key)}

theorem value?_key
    (parts : Summarized table summary clause bounds grouping columns distinct order)
    (wellFormed : table.WellFormed) (someRow : 0 < table.rows) {place : Nat} {key : List Key}
    (there : order[place]? = some key) :
    ∀ name ∈ clause.groupBy, summary.value? name place =
      table.value? name ((keyRows table columns key).headD 0) := by
  obtain ⟨inside, -, -⟩ := parts.isFirst wellFormed someRow (List.mem_of_getElem? there)
  have cells := parts.values_keys wellFormed someRow there
  have firstCells := values_eq_rowCells wellFormed parts.found inside
  exact List.map_inj_left.mp (cells.trans firstCells.symm)

theorem keyRows_eq_rowsWith
    (parts : Summarized table summary clause bounds grouping columns distinct order)
    (wellFormed : table.WellFormed) {place : Nat} {key : List Key}
    (there : order[place]? = some key) :
    keyRows table columns key =
      table.rowsWith clause.groupBy (summary.keysAt clause.groupBy place) := by
  rcases Nat.eq_zero_or_pos table.rows with noRow | someRow
  · rw [keyRows, rowsOf, Table.rowsWith, noRow]
    rfl
  · obtain ⟨-, ⟨has, -⟩, keys⟩ := parts.isFirst wellFormed someRow (List.mem_of_getElem? there)
    rw [parts.keysAt wellFormed someRow there]
    exact rowsOf_eq_rowsWith wellFormed parts.found (present_of_hasKeys has keys)

theorem exists_key
    (parts : Summarized table summary clause bounds grouping columns distinct order)
    {place : Nat} (inside : place < summary.rows) : ∃ key, order[place]? = some key := by
  rw [parts.rows] at inside
  exact ⟨_, List.getElem?_eq_getElem inside⟩

theorem exists_place
    (parts : Summarized table summary clause bounds grouping columns distinct order)
    (wellFormed : table.WellFormed) {row : Nat} (inside : row < table.rows)
    (has : table.HasKeys clause.groupBy row) :
    ∃ place < summary.rows, ∀ other < summary.rows,
      summary.keysAt clause.groupBy other = table.keysAt clause.groupBy row ↔
        other = place := by
  have someRow : 0 < table.rows := Nat.zero_lt_of_lt inside
  have keys := keysAt_eq wellFormed parts.found inside
  have keyed := (rowKey_eq_some_iff wellFormed parts.found inside).mpr ⟨has, keys⟩
  have inOrder := parts.reordered.mem_iff.mpr (parts.partitions.covers row inside _ keyed)
  obtain ⟨place, there⟩ := List.getElem?_of_mem inOrder
  refine ⟨place, ?_, ?_⟩
  · rw [parts.rows]
    exact (List.getElem?_eq_some_iff.mp there).1
  · intro other otherInside
    rw [keys]
    exact parts.keysAt_eq_iff wellFormed someRow there otherInside

/-- An output column is made of the aggregates of the rows with the keys of each place. -/
theorem exists_outputs
    (parts : Summarized table summary clause bounds grouping columns distinct order)
    (wellFormed : table.WellFormed) {bound : BoundAggregate} (member : bound ∈ bounds) :
    ∃ cells, summary.column? bound.output = some (Column.lossy cells) ∧
      cells.length = summary.rows ∧
      ∀ place < summary.rows, ∃ cell, cells[place]? = some cell ∧
        IsAggregate table bound
          (table.rowsWith clause.groupBy (summary.keysAt clause.groupBy place)) cell := by
  refine ⟨_, parts.outputs bound member, ?_, ?_⟩
  · rw [List.length_map, parts.rows]
  · intro place inside
    obtain ⟨key, there⟩ := parts.exists_key inside
    obtain ⟨cell, aggregated⟩ := parts.aggregated bound member key (List.mem_of_getElem? there)
    refine ⟨cell, ?_, ?_⟩
    · rw [List.getElem?_map, there, Option.map_some, aggregateOf, aggregated]
      rfl
    · rw [← parts.keyRows_eq_rowsWith wellFormed there]
      apply isAggregate_of_aggregateRows wellFormed _ aggregated
      intro row isRow
      exact (mem_rowsOf.mp isRow).1

theorem precedes
    (parts : Summarized table summary clause bounds grouping columns distinct order)
    (wellFormed : table.WellFormed)
    (noList : ∀ name ∈ clause.groupBy, ∀ column, table.column? name = some column →
      column.kind ≠ .list)
    {lower upper : Nat} (below : lower < upper) (inside : upper < summary.rows) :
    summary.Precedes clause.groupBy lower upper := by
  obtain ⟨lowerKey, lowerThere⟩ := parts.exists_key (Nat.lt_trans below inside)
  obtain ⟨upperKey, upperThere⟩ := parts.exists_key inside
  -- Without grouping columns there is one row only, and with one every group has a row.
  have someColumn : clause.groupBy ≠ [] := by
    intro whole
    rw [parts.rows, parts.length_order_whole whole] at inside
    omega
  have someRow :=
    parts.someRow_of_mem (Or.inr someColumn) (List.mem_of_getElem? upperThere)
  obtain ⟨lowerInOrder, isLower⟩ := List.getElem?_eq_some_iff.mp lowerThere
  obtain ⟨upperInOrder, isUpper⟩ := List.getElem?_eq_some_iff.mp upperThere
  have less := List.pairwise_iff_getElem.mp
    (parts.pairwise_order wellFormed someRow noList) lower upper lowerInOrder upperInOrder below
  rw [isLower, isUpper] at less
  exact Table.precedes_of_compareKeys (parts.values_keys wellFormed someRow lowerThere)
    (parts.values_keys wellFormed someRow upperThere) less

end Summarized

/-- A summary has exactly one row for the keys of each row that has keys, and no others.
It shows the key cells of the first row with its keys, and of each function what it makes
of all rows with its keys in their order.  Without grouping columns it has one row.  Its
rows ascend strictly when no grouping column holds lists. -/
theorem summarize_groups (table summary : Table) (clause : StatsClause)
    (wellFormed : table.WellFormed) (summarized : summarize table clause = .ok summary) :
    ∃ bounds, clause.bind table = .ok bounds ∧
      (∀ row < table.rows, table.HasKeys clause.groupBy row →
        ∃ place < summary.rows, ∀ other < summary.rows,
          summary.keysAt clause.groupBy other = table.keysAt clause.groupBy row ↔
            other = place) ∧
      (∀ place < summary.rows, 0 < table.rows ∨ clause.groupBy ≠ [] →
        ∃ first < table.rows, table.IsFirst clause.groupBy first ∧
          ∀ name ∈ clause.groupBy, summary.value? name place = table.value? name first) ∧
      (∀ bound ∈ bounds, ∃ cells,
        summary.column? bound.output = some (Column.lossy cells) ∧
        cells.length = summary.rows ∧
        ∀ place < summary.rows, ∃ cell, cells[place]? = some cell ∧
          IsAggregate table bound
            (table.rowsWith clause.groupBy (summary.keysAt clause.groupBy place)) cell) ∧
      (clause.groupBy = [] → summary.rows = 1) ∧
      ((∀ name ∈ clause.groupBy, ∀ column, table.column? name = some column →
          column.kind ≠ .list) →
        ∀ upper < summary.rows, ∀ lower < upper,
          summary.Precedes clause.groupBy lower upper) := by
  obtain ⟨bounds, grouping, columns, distinct, order, parts⟩ := exists_summarized summarized
  refine ⟨bounds, parts.bind, ?_, ?_, ?_, ?_, ?_⟩
  · intro row inside has
    exact parts.exists_place wellFormed inside has
  · intro place inside some
    obtain ⟨key, there⟩ := parts.exists_key inside
    have inOrder := List.mem_of_getElem? there
    have someRow := parts.someRow_of_mem some inOrder
    obtain ⟨firstInside, first, -⟩ := parts.isFirst wellFormed someRow inOrder
    exact ⟨_, firstInside, first, parts.value?_key wellFormed someRow there⟩
  · intro bound member
    exact parts.exists_outputs wellFormed member
  · intro whole
    rw [parts.rows, parts.length_order_whole whole]
  · intro noList upper inside lower below
    exact parts.precedes wellFormed noList below inside

/-- Logins of two users, the later name first, and one of nobody. -/
def logins : Table :=
  ⟨4, [("user", ⟨.text, [.text "b", .text "a", .null, .text "b"]⟩),
    ("n", ⟨.int, [.int 1, .int 2, .int 3, .int 4]⟩)]⟩

/-- The clause `sum(n) as total, count by user`. -/
def userTotals : StatsClause :=
  ⟨[⟨.sum, "sum", some "n", some "total"⟩, ⟨.count, "count", none, none⟩], ["user"]⟩

/-- The row of `a` comes first, though `b` logged in before. -/
theorem summarize_groups_sample :
    ∃ summary, summarize logins userTotals = .ok summary ∧ summary.Precedes ["user"] 0 1 := by
  let grouping := Grouping.ofColumns 4 [⟨.text, [.text "b", .text "a", .null, .text "b"]⟩]
  have unsorted : grouping.sorted = [([.text "b"], [0, 3]), ([.text "a"], [1])].mergeSort
      fun left right => compareKeys left.1 right.1 != .gt := rfl
  have after : (compareKeys [.text "b"] [.text "a"] != .gt) = false := by decide
  have sorted : grouping.sorted = [([.text "a"], [1]), ([.text "b"], [0, 3])] := by
    rw [unsorted]
    simp [List.mergeSort, List.MergeSort.Internal.splitInTwo, after]
  have summarized : summarize logins userTotals =
      .ok ⟨2, [("user", ⟨.text, [.text "a", .text "b"]⟩),
        ("total", ⟨.int, [.int 2, .int 5]⟩), ("count", ⟨.int, [.int 1, .int 2]⟩)]⟩ := by
    change (do
      let columns ← aggregateColumns logins (grouping.sorted.map Prod.snd)
        [⟨.sum, some "n", "total"⟩, ⟨.count, none, "count"⟩]
      (Table.ofRows grouping.sorted.length
        (keyColumns ["user"] (grouping.sorted.map Prod.fst) ++ columns)).mapError .table) = _
    rw [sorted]
    rfl
  obtain ⟨-, -, -, -, -, -, ascends⟩ :=
    summarize_groups logins _ userTotals (by decide) summarized
  refine ⟨_, summarized, ascends ?_ 1 (by decide) 0 (by decide)⟩
  intro name member column shown
  cases List.mem_singleton.mp member
  cases shown
  exact nofun

end Stats

end LogPipe
