import LogPipe.Proofs.Stats.Accumulator
import LogPipe.Proofs.Stats.Output
import LogPipe.Proofs.Stats.Partition

/-!
# Running aggregates

A run carries one accumulator per group through rows whose groups are interleaved.
What it keeps true is that every accumulator tracks the cells of its own group among the
rows so far.  So each row shows the reduced cells of its group up to that row, and the run
fails exactly when the cells of some group cannot be reduced.
-/

namespace LogPipe

namespace Stats

/-- The cells of one group among rows, each given as its group and its cell. -/
def historyOf (rows : List (Option Nat × Cell)) (group : Nat) : List Cell :=
  rows.filterMap fun entry => if entry.1 = some group then some entry.2 else none

theorem historyOf_append (before after : List (Option Nat × Cell)) (group : Nat) :
    historyOf (before ++ after) group = historyOf before group ++ historyOf after group :=
  List.filterMap_append

theorem historyOf_other {own : Option Nat} {group : Nat} (different : own ≠ some group)
    (cell : Cell) : historyOf [(own, cell)] group = [] := by
  simp [historyOf, different]

theorem historyOf_own (group : Nat) (cell : Cell) :
    historyOf [(some group, cell)] group = [cell] := by
  simp [historyOf]

/-- Every accumulator tracks the cells of its group. -/
def TracksAll (function : AggregateFunction) (before : List (Option Nat × Cell))
    (states : Nat → Running) : Prop :=
  ∀ group, Running.Tracks function (historyOf before group) (states group)

section

variable {function : AggregateFunction} {before rows : List (Option Nat × Cell)}
  {states : Nat → Running}

theorem TracksAll.skip (tracks : TracksAll function before states) (cell : Cell) :
    TracksAll function (before ++ [(none, cell)]) states := by
  intro group
  rw [historyOf_append, historyOf_other (nofun : none ≠ some group), List.append_nil]
  exact tracks group

theorem TracksAll.push (tracks : TracksAll function before states) {group : Nat} {cell : Cell}
    {state : Running} (pushed : (states group).push function cell = .ok state) :
    TracksAll function (before ++ [(some group, cell)])
      (fun index => if index == group then state else states index) := by
  intro index
  by_cases own : index = group
  · subst own
    rw [historyOf_append, historyOf_own]
    simp only [beq_self_eq_true, if_true]
    exact (tracks index).push pushed
  · have different : some group ≠ some index := fun same => own (Option.some.inj same).symm
    have kept : (index == group) = false := beq_eq_false_iff_ne.mpr own
    rw [historyOf_append, historyOf_other different, List.append_nil]
    simp only [kept, Bool.false_eq_true, if_false]
    exact tracks index

/-- What a row shows: the aggregate of its group's cells up to the row. -/
def Shows (function : AggregateFunction) (rows : List (Option Nat × Cell)) (position : Nat)
    (group : Option Nat) (cell : Cell) : Prop :=
  match group with
  | none => cell = .null
  | some group => function.soFar (historyOf (rows.take (position + 1)) group) = .ok cell

/-- Every row shows the aggregate so far, where other rows have come before. -/
def ShowsAll (function : AggregateFunction) (before rows : List (Option Nat × Cell))
    (cells : List Cell) : Prop :=
  cells.length = rows.length ∧
    ∀ (position : Nat) entry, rows[position]? = some entry →
      ∃ cell, cells[position]? = some cell ∧
        Shows function (before ++ rows) (before.length + position) entry.1 cell

theorem append_cons_eq (before rows : List (Option Nat × Cell)) (entry : Option Nat × Cell) :
    before ++ entry :: rows = (before ++ [entry]) ++ rows := by
  rw [List.append_assoc, List.singleton_append]

theorem ShowsAll.cons {entry : Option Nat × Cell} {cell : Cell} {later : List Cell}
    (shows : Shows function (before ++ [entry]) before.length entry.1 cell)
    (showsLater : ShowsAll function (before ++ [entry]) rows later) :
    ShowsAll function before (entry :: rows) (cell :: later) := by
  obtain ⟨length, correct⟩ := showsLater
  refine ⟨by rw [List.length_cons, List.length_cons, length], ?_⟩
  intro position other there
  cases position with
  | zero =>
      cases there
      refine ⟨cell, rfl, ?_⟩
      have upTo : (before ++ entry :: rows).take (before.length + 1) =
          (before ++ [entry]).take (before.length + 1) := by
        rw [List.take_length_add_append, List.take_length_add_append]
        rfl
      obtain ⟨own, held⟩ := entry
      cases own with
      | none => exact shows
      | some group =>
          simp only [Shows]
          rw [Nat.add_zero, upTo]
          exact shows
  | succ position =>
      obtain ⟨shown, isShown, isCorrect⟩ := correct position other there
      refine ⟨shown, isShown, ?_⟩
      have numbered : before.length + (position + 1) = (before ++ [entry]).length + position := by
        rw [List.length_append, List.length_singleton]
        omega
      rw [append_cons_eq, numbered]
      exact isCorrect

/-- Every row of a run shows the aggregate so far. -/
theorem runCells_shows {cells : List Cell} (tracks : TracksAll function before states)
    (ran : runCells function states rows = .ok cells) :
    ShowsAll function before rows cells := by
  induction rows generalizing before states cells with
  | nil =>
      cases ran
      exact ⟨rfl, fun position entry there => nomatch there⟩
  | cons entry rows induction =>
      obtain ⟨own, cell⟩ := entry
      cases own with
      | none =>
          rw [runCells] at ran
          obtain ⟨later, ranLater, finished⟩ := Except.bind_eq_ok_iff.mp ran
          cases finished
          have showsLater := induction (tracks.skip cell) ranLater
          exact ShowsAll.cons rfl showsLater
      | some group =>
          rw [runCells] at ran
          obtain ⟨state, pushed, afterPush⟩ := Except.bind_eq_ok_iff.mp ran
          obtain ⟨out, emitted, afterEmit⟩ := Except.bind_eq_ok_iff.mp afterPush
          obtain ⟨later, ranLater, finished⟩ := Except.bind_eq_ok_iff.mp afterEmit
          cases finished
          have showsLater := induction (tracks.push pushed) ranLater
          refine ShowsAll.cons ?_ showsLater
          have tracksOwn := (tracks group).push pushed
          simp only [Shows]
          rw [List.take_of_length_le (by simp), historyOf_append, historyOf_own, ← emitted]
          exact tracksOwn.emit.symm

/-- A run fails exactly when the cells of some group cannot be reduced. -/
theorem runCells_error_iff (tracks : TracksAll function before states) :
    (∃ error, runCells function states rows = .error error) ↔
      ∃ group error, function.reduce (historyOf (before ++ rows) group) = .error error := by
  induction rows generalizing before states with
  | nil =>
      constructor
      · rintro ⟨error, failed⟩
        cases failed
      · rintro ⟨group, failed⟩
        rw [List.append_nil] at failed
        exact absurd failed (tracks group).not_reduce_error
  | cons entry rows induction =>
      rw [append_cons_eq]
      obtain ⟨own, cell⟩ := entry
      cases own with
      | none =>
          rw [← induction (tracks.skip cell)]
          exact Except.exists_map_error_iff
      | some group =>
          rw [runCells]
          cases pushed : (states group).push function cell with
          | error error =>
              refine ⟨fun _ => ⟨group, ?_⟩, fun _ => ⟨error, rfl⟩⟩
              have refused := (tracks group).reduce_error_of_push pushed
              rw [historyOf_append, historyOf_append, historyOf_own]
              exact AggregateFunction.reduce_append_error refused _
          | ok state =>
              obtain ⟨out, emitted⟩ := ((tracks group).push pushed).exists_emit
              rw [← induction (tracks.push pushed)]
              simp only [emitted, bind, Except.bind]
              exact Except.exists_map_error_iff

end

/-- Counting rows shows on each row how many rows its group has up to it. -/
theorem getElem?_runRows (counts : Nat → Nat) (groups : List (Option Nat)) (position : Nat) :
    (runRows counts groups)[position]? = groups[position]?.map fun group =>
      group.elim .null fun index =>
        Reducer.countCell (counts index + (groups.take (position + 1)).count (some index)) := by
  induction groups generalizing counts position with
  | nil => rfl
  | cons own groups induction =>
      have counted : ∀ index, ((own :: groups).take (position + 1)).count (some index) =
          (groups.take position).count (some index) + if own == some index then 1 else 0 := by
        intro index
        rw [List.take_succ_cons, List.count_cons]
      cases own with
      | none =>
          rw [runRows]
          cases position with
          | zero => rfl
          | succ position =>
              rw [List.getElem?_cons_succ, List.getElem?_cons_succ, induction]
              rfl
      | some group =>
          rw [runRows]
          cases position with
          | zero =>
              simp [Option.elim_some]
          | succ position =>
              rw [List.getElem?_cons_succ, List.getElem?_cons_succ, induction]
              congr 1
              funext shown
              cases shown with
              | none => rfl
              | some index =>
                  simp only [Option.elim_some, counted]
                  congr 1
                  by_cases own : index = group
                  · subst own
                    simp only [beq_self_eq_true, if_true]
                    omega
                  · have kept : (index == group) = false := beq_eq_false_iff_ne.mpr own
                    have other : (some group == some index) = false :=
                      beq_eq_false_iff_ne.mpr fun same => own (Option.some.inj same).symm
                    simp only [kept, other, Bool.false_eq_true, if_false, Nat.add_zero]

theorem length_runRows (counts : Nat → Nat) (groups : List (Option Nat)) :
    (runRows counts groups).length = groups.length := by
  induction groups generalizing counts with
  | nil => rfl
  | cons own groups induction =>
      cases own with
      | none => rw [runRows, List.length_cons, List.length_cons, induction]
      | some group => rw [runRows, List.length_cons, List.length_cons, induction]

open Grouping

section

variable {table : Table} {groupBy : List String} {columns : List Column}
  {grouping : Grouping} {distinct : List (List Key)}

/-- The rows of the group of a key are those that have the key. -/
theorem group_eq_iff {keyOf : Nat → Option (List Key)} {key : List Key} {index row : Nat}
    (indexed : distinct.idxOf? key = some index) :
    ((keyOf row).bind fun key => distinct.idxOf? key) = some index ↔ keyOf row = some key := by
  constructor
  · intro inGroup
    obtain ⟨other, keyed, otherIndexed⟩ := Option.bind_eq_some_iff.mp inGroup
    obtain ⟨_, isKey, -⟩ := List.idxOf?_eq_some_iff.mp indexed
    obtain ⟨_, isOther, -⟩ := List.idxOf?_eq_some_iff.mp otherIndexed
    rw [keyed, ← isOther, isKey]
  · intro keyed
    rw [keyed]
    exact indexed

/-- The history of a group among the first rows holds the cells of the rows of its key. -/
theorem historyOf_rows {keyOf : Nat → Option (List Key)} {key : List Key} {index : Nat}
    (bound : Nat) (indexed : distinct.idxOf? key = some index) (cellAt : Nat → Cell) :
    historyOf ((List.range bound).map fun row =>
        ((keyOf row).bind fun key => distinct.idxOf? key, cellAt row)) index =
      (rowsOf keyOf bound key).map cellAt := by
  rw [rowsOf]
  induction List.range bound with
  | nil => rfl
  | cons row later induction =>
      rw [List.map_cons, ← List.singleton_append, historyOf_append, induction, List.filter_cons]
      by_cases keyed : keyOf row = some key
      · rw [(group_eq_iff indexed).mpr keyed, historyOf_own]
        simp [keyed]
      · have notKeyed : (keyOf row == some key) = false := beq_eq_false_iff_ne.mpr keyed
        rw [historyOf_other fun inGroup => keyed ((group_eq_iff indexed).mp inGroup), notKeyed]
        rfl

/-- The number of rows of a group among the first rows. -/
theorem count_groups {keyOf : Nat → Option (List Key)} {key : List Key} {index : Nat}
    (bound : Nat) (indexed : distinct.idxOf? key = some index) :
    ((List.range bound).map fun row =>
        (keyOf row).bind fun key => distinct.idxOf? key).count (some index) =
      (rowsOf keyOf bound key).length := by
  rw [List.count, List.countP_map, List.countP_eq_length_filter, rowsOf]
  congr 2
  funext row
  rw [Bool.eq_iff_iff, Function.comp_apply, beq_iff_eq, beq_iff_eq]
  exact group_eq_iff indexed

theorem zipIdx_range_map {α : Type} (own : Nat → α) (count : Nat) :
    ((List.range count).map own).zipIdx = (List.range count).map fun row => (own row, row) := by
  apply List.ext_getElem?
  intro position
  rw [List.getElem?_zipIdx, List.getElem?_map, List.getElem?_map]
  cases listed : (List.range count)[position]? with
  | none => rfl
  | some row =>
      obtain ⟨inside, same⟩ := List.getElem?_eq_some_iff.mp listed
      rw [List.getElem_range] at same
      rw [← same, Option.map_some, Option.map_some, Option.map_some, Nat.zero_add]

/-- What a running function shows on a row that has keys, in terms of the rows with the same
keys up to and including the row. -/
def IsRunningCell (table : Table) (groupBy : List String) (bound : BoundAggregate) (row : Nat)
    (cell : Cell) : Prop :=
  let rows := table.rowsLike groupBy row (row + 1)
  match bound.field with
  | none => cell = Reducer.countCell rows.length
  | some field =>
      match bound.function with
      | .mean => True
      | .first => (fieldCells table field rows).head? = some cell
      | .last => table.value? field row = some cell
      | function => function.reduce (fieldCells table field rows) = .ok cell

/-- Whether the reducer of a function fails on the cells of some group. -/
def ReducerFails (table : Table) (groupBy : List String) (bound : BoundAggregate) : Prop :=
  ∃ field, bound.field = some field ∧ ∃ row < table.rows, table.HasKeys groupBy row ∧
    ∃ error,
      bound.function.reduce
        (fieldCells table field (table.rowsLike groupBy row table.rows)) = .error error

theorem rowsLike_self (table : Table) (groupBy : List String) (row : Nat) :
    table.rowsLike groupBy row (row + 1) = table.rowsLike groupBy row row ++ [row] := by
  rw [Table.rowsLike, List.range_succ, List.filter_append]
  simp [Table.rowsLike]

/-- The aggregate so far is what a running function shows. -/
theorem isRunningCell_of_soFar (wellFormed : table.WellFormed) {bound : BoundAggregate}
    {field : String} {column : Column} (named : bound.field = some field)
    (shown : table.column? field = some column) {row : Nat} (inside : row < table.rows)
    {cell : Cell} (correct : bound.function.soFar
      (fieldCells table field (table.rowsLike groupBy row (row + 1))) = .ok cell) :
    IsRunningCell table groupBy bound row cell := by
  have own := wellFormed.value?_eq shown inside
  have split : fieldCells table field (table.rowsLike groupBy row (row + 1)) =
      fieldCells table field (table.rowsLike groupBy row row) ++ [column.cellAt row] := by
    rw [rowsLike_self, fieldCells, List.filterMap_append, List.filterMap_cons, own]
    rfl
  simp only [IsRunningCell, named]
  cases function : bound.function with
  | mean => trivial
  | first =>
      rw [function, split] at correct
      have isFirst := Except.ok.inj correct
      rw [split, List.head?_append]
      rw [List.head?_append] at isFirst
      cases earlier : (fieldCells table field (table.rowsLike groupBy row row)).head? with
      | none =>
          rw [earlier] at isFirst
          exact congrArg some isFirst
      | some first =>
          rw [earlier] at isFirst
          exact congrArg some isFirst
  | last =>
      rw [function, split] at correct
      have isLast := Except.ok.inj correct
      rw [List.getLast?_concat] at isLast
      rw [own]
      exact congrArg some isLast
  | _ =>
      rw [function] at correct
      exact correct

/-- The rows of a run, each with the number of its group and the cell of a column. -/
def groupedCells (columns : List Column) (distinct : List (List Key)) (column : Column)
    (count : Nat) : List (Option Nat × Cell) :=
  (List.range count).map fun row =>
    ((rowKey columns row).bind fun key => distinct.idxOf? key, column.cellAt row)

theorem runningCells_field {bound : BoundAggregate} {field : String} {column : Column}
    (partitions : grouping.Partitions table.rows (rowKey columns) (rowCells columns) distinct)
    (named : bound.field = some field) (shown : table.column? field = some column) :
    runningCells table grouping bound =
      (runCells bound.function (fun _ => {})
        (groupedCells columns distinct column table.rows)).mapError .cell := by
  have numbered : (grouping.groupOf.zipIdx.map fun entry => (entry.1, column.cellAt entry.2)) =
      groupedCells columns distinct column table.rows := by
    rw [partitions.groupOf, zipIdx_range_map, List.map_map]
    rfl
  rw [← numbered]
  simp only [runningCells, named, Table.require_eq_ok_iff.mpr shown]

theorem tracksAll_start (function : AggregateFunction) :
    TracksAll function [] fun _ => {} :=
  fun _ => Running.tracks_start function

/-- The history of the group of a row, up to a bound. -/
theorem historyOf_groupedCells (wellFormed : table.WellFormed)
    (found : columnsOf table groupBy = .ok columns) {field : String} {column : Column}
    (shown : table.column? field = some column) {row bound : Nat} {key : List Key}
    {index : Nat} (inside : row < table.rows) (keyed : rowKey columns row = some key)
    (indexed : distinct.idxOf? key = some index) (bounded : bound ≤ table.rows) :
    historyOf (groupedCells columns distinct column bound) index =
      fieldCells table field (table.rowsLike groupBy row bound) := by
  have insideAll : ∀ other ∈ table.rowsLike groupBy row bound, other < table.rows := by
    intro other member
    exact Nat.lt_of_lt_of_le (List.mem_range.mp (List.mem_filter.mp member).1) bounded
  rw [groupedCells, historyOf_rows bound indexed,
    rowsOf_eq_rowsLike wellFormed found inside keyed bounded,
    fieldCells_eq wellFormed shown insideAll]

theorem take_groupedCells (column : Column) {count row : Nat} (inside : row < count) :
    (groupedCells columns distinct column count).take (row + 1) =
      groupedCells columns distinct column (row + 1) := by
  rw [groupedCells, ← List.map_take, List.take_range, Nat.min_eq_left inside]
  rfl

/-- A function without a field shows the number of rows so far. -/
theorem runningCells_count {bound : BoundAggregate}
    (partitions : grouping.Partitions table.rows (rowKey columns) (rowCells columns) distinct)
    (unnamed : bound.field = none) :
    runningCells table grouping bound =
      .ok (runRows (fun _ => 0) ((List.range table.rows).map fun row =>
        (rowKey columns row).bind fun key => distinct.idxOf? key)) := by
  simp only [runningCells, unnamed, partitions.groupOf]

theorem exists_groupIndex {row : Nat} {key : List Key}
    (partitions : grouping.Partitions table.rows (rowKey columns) (rowCells columns) distinct)
    (inside : row < table.rows) (keyed : rowKey columns row = some key) :
    ∃ index, distinct.idxOf? key = some index :=
  Option.isSome_iff_exists.mp (List.isSome_idxOf?.mpr (partitions.covers row inside key keyed))

/-- The cells of one function of a field: on rows with keys the aggregate so far, on others
missing. -/
theorem runningCells_soFar (wellFormed : table.WellFormed)
    (found : columnsOf table groupBy = .ok columns)
    (partitions : grouping.Partitions table.rows (rowKey columns) (rowCells columns) distinct)
    {bound : BoundAggregate} {field : String} {column : Column} (named : bound.field = some field)
    (shown : table.column? field = some column) {cells : List Cell}
    (ran : runningCells table grouping bound = .ok cells) :
    cells.length = table.rows ∧ ∀ row < table.rows, ∃ cell, cells[row]? = some cell ∧
      (table.HasKeys groupBy row →
        bound.function.soFar (fieldCells table field (table.rowsLike groupBy row (row + 1))) =
          .ok cell) ∧
      (¬table.HasKeys groupBy row → cell = .null) := by
  rw [runningCells_field partitions named shown, Except.mapError_eq_ok_iff] at ran
  obtain ⟨length, shows⟩ := runCells_shows (tracksAll_start bound.function) ran
  refine ⟨by rw [length, groupedCells, List.length_map, List.length_range], ?_⟩
  intro row inside
  obtain ⟨cell, isCell, correct⟩ := shows row _ (by
    rw [groupedCells, List.getElem?_map, List.getElem?_range inside]
    rfl)
  refine ⟨cell, isCell, ?_, ?_⟩
  · intro has
    cases keyed : rowKey columns row with
    | none => exact absurd has ((rowKey_eq_none_iff wellFormed found inside).mp keyed)
    | some key =>
        obtain ⟨index, indexed⟩ := exists_groupIndex partitions inside keyed
        simp only [keyed, Option.bind_some, indexed, Shows, List.nil_append,
          List.length_nil, Nat.zero_add, take_groupedCells column inside,
          historyOf_groupedCells wellFormed found shown inside keyed indexed inside]
          at correct
        exact correct
  · intro noKeys
    simp only [(rowKey_eq_none_iff wellFormed found inside).mpr noKeys, Option.bind_none,
      Shows] at correct
    exact correct

/-- The cells of one function: on rows with keys the running aggregate, on others missing. -/
theorem runningCells_shows (wellFormed : table.WellFormed)
    (found : columnsOf table groupBy = .ok columns)
    (partitions : grouping.Partitions table.rows (rowKey columns) (rowCells columns) distinct)
    {bound : BoundAggregate} (valid : bound.Valid table) {cells : List Cell}
    (ran : runningCells table grouping bound = .ok cells) :
    cells.length = table.rows ∧ ∀ row < table.rows, ∃ cell, cells[row]? = some cell ∧
      (table.HasKeys groupBy row → IsRunningCell table groupBy bound row cell) ∧
      (¬table.HasKeys groupBy row → cell = .null) := by
  cases named : bound.field with
  | none =>
      rw [runningCells_count partitions named] at ran
      cases ran
      refine ⟨by rw [length_runRows, List.length_map, List.length_range], ?_⟩
      intro row inside
      rw [getElem?_runRows, List.getElem?_map, List.getElem?_range inside]
      refine ⟨_, rfl, ?_, ?_⟩
      · intro has
        cases keyed : rowKey columns row with
        | none => exact absurd has ((rowKey_eq_none_iff wellFormed found inside).mp keyed)
        | some key =>
            obtain ⟨index, indexed⟩ := exists_groupIndex partitions inside keyed
            simp only [IsRunningCell, named, keyed, Option.bind_some, indexed, Option.elim_some]
            rw [← List.map_take, List.take_range, Nat.min_eq_left inside,
              count_groups (row + 1) indexed,
              rowsOf_eq_rowsLike wellFormed found inside keyed inside, Nat.zero_add]
      · intro noKeys
        simp only [(rowKey_eq_none_iff wellFormed found inside).mpr noKeys, Option.bind_none,
          Option.elim_none]
  | some field =>
      obtain ⟨column, shown⟩ := Table.exists_column_of_hasColumn (valid.column field named)
      obtain ⟨length, shows⟩ := runningCells_soFar wellFormed found partitions named shown ran
      refine ⟨length, fun row inside => ?_⟩
      obtain ⟨cell, isCell, correct, missing⟩ := shows row inside
      exact ⟨cell, isCell, fun has => isRunningCell_of_soFar wellFormed named shown inside
        (correct has), missing⟩

/-- A group whose cells cannot be reduced has a row. -/
theorem exists_row_of_reduce_error {function : AggregateFunction} {column : Column}
    {count index : Nat} {error : CellError}
    (failed : function.reduce (historyOf (groupedCells columns distinct column count) index) =
      .error error) :
    ∃ row < count,
      ((rowKey columns row).bind fun key => distinct.idxOf? key) = some index := by
  cases history : historyOf (groupedCells columns distinct column count) index with
  | nil =>
      rw [history] at failed
      obtain ⟨-, other, broken⟩ := AggregateFunction.reduce_error_iff.mp ⟨error, failed⟩
      cases broken
  | cons cell later =>
      have member : cell ∈ historyOf (groupedCells columns distinct column count) index := by
        rw [history]
        exact List.mem_cons_self
      obtain ⟨entry, inRows, taken⟩ := List.mem_filterMap.mp member
      obtain ⟨row, inRange, rfl⟩ := List.mem_map.mp inRows
      split at taken
      · next inGroup => exact ⟨row, List.mem_range.mp inRange, inGroup⟩
      · cases taken

/-- The cells of one function cannot be computed exactly when its reducer fails on some
group. -/
theorem runningCells_error_iff (wellFormed : table.WellFormed)
    (found : columnsOf table groupBy = .ok columns)
    (partitions : grouping.Partitions table.rows (rowKey columns) (rowCells columns) distinct)
    {bound : BoundAggregate} (valid : bound.Valid table) :
    (∃ error, runningCells table grouping bound = .error error) ↔
      ReducerFails table groupBy bound := by
  cases named : bound.field with
  | none =>
      rw [runningCells_count partitions named, ReducerFails]
      constructor
      · rintro ⟨error, failed⟩
        cases failed
      · rintro ⟨field, isField, -⟩
        rw [named] at isField
        cases isField
  | some field =>
      obtain ⟨column, shown⟩ := Table.exists_column_of_hasColumn (valid.column field named)
      have runs := @runCells_error_iff bound.function []
        (groupedCells columns distinct column table.rows) _ (tracksAll_start bound.function)
      rw [List.nil_append] at runs
      rw [runningCells_field partitions named shown, Except.exists_mapError_error_iff, runs]
      constructor
      · rintro ⟨index, error, failed⟩
        obtain ⟨row, inside, inGroup⟩ := exists_row_of_reduce_error failed
        obtain ⟨key, keyed, indexed⟩ := Option.bind_eq_some_iff.mp inGroup
        rw [historyOf_groupedCells wellFormed found shown inside keyed indexed Nat.le.refl]
          at failed
        have has := ((rowKey_eq_some_iff wellFormed found inside).mp keyed).1
        exact ⟨field, named, row, inside, has, error, failed⟩
      · rintro ⟨other, isField, row, inside, has, error, failed⟩
        rw [named] at isField
        cases isField
        cases keyed : rowKey columns row with
        | none => exact absurd has ((rowKey_eq_none_iff wellFormed found inside).mp keyed)
        | some key =>
            obtain ⟨index, indexed⟩ := exists_groupIndex partitions inside keyed
            refine ⟨index, error, ?_⟩
            rw [historyOf_groupedCells wellFormed found shown inside keyed indexed Nat.le.refl]
            exact failed

end

/-- Running aggregates are the batch reducers on the rows so far.  A function cannot be
computed exactly when its reducer fails on the cells of some group; the whole form fails
exactly when some function cannot be computed.  Otherwise each output is the lossy column
of the cells that show, on every row with keys, the aggregate of the rows with the same keys
up to and including it, and null on the other rows. -/
theorem running_reduces (table : Table) (clause : StatsClause) (bounds : List BoundAggregate)
    (wellFormed : table.WellFormed) (bind : clause.bind table = .ok bounds) :
    (∃ grouping, Grouping.ofTable table clause.groupBy = .ok grouping ∧
      ∀ bound ∈ bounds, (∃ error, runningCells table grouping bound = .error error) ↔
        ReducerFails table clause.groupBy bound) ∧
    ((∃ error, running table clause = .error error) ↔
      ∃ bound ∈ bounds, ReducerFails table clause.groupBy bound) ∧
    ∀ out, running table clause = .ok out → out.rows = table.rows ∧
      ∀ bound ∈ bounds, ∃ cells, out.column? bound.output = some (Column.lossy cells) ∧
        cells.length = table.rows ∧
        ∀ row < table.rows, ∃ cell, cells[row]? = some cell ∧
          (table.HasKeys clause.groupBy row →
            IsRunningCell table clause.groupBy bound row cell) ∧
          (¬table.HasKeys clause.groupBy row → cell = .null) := by
  have checked := StatsClause.bind_eq_ok bind
  obtain ⟨grouping, grouped⟩ := exists_grouping checked.groups
  obtain ⟨columns, distinct, found, partitions⟩ := ofTable_partitions grouped
  have ran : running table clause = addColumns (runningCells table grouping) table bounds := by
    rw [running, bind, grouped]
    rfl
  have fails : ∀ bound ∈ bounds, (∃ error, runningCells table grouping bound = .error error) ↔
      ReducerFails table clause.groupBy bound :=
    fun bound member =>
      runningCells_error_iff wellFormed found partitions (checked.valid bound member)
  -- When no reducer fails every function has its cells, so the columns can be added.
  have succeeds : (¬∃ bound ∈ bounds, ReducerFails table clause.groupBy bound) →
      ∃ out, running table clause = .ok out ∧
        Extends (runningCells table grouping) table bounds out := by
    intro noneFails
    rw [ran]
    apply addColumns_of_ok checked.outputs
    intro bound member
    have noError : ¬∃ error, runningCells table grouping bound = .error error :=
      fun failed => noneFails ⟨bound, member, (fails bound member).mp failed⟩
    obtain ⟨cells, isOk⟩ := Except.exists_ok_of_not_error noError
    exact ⟨cells, isOk,
      (runningCells_shows wellFormed found partitions (checked.valid bound member) isOk).1⟩
  have failsWhole : (∃ bound ∈ bounds, ReducerFails table clause.groupBy bound) →
      ∃ error, running table clause = .error error := by
    rintro ⟨bound, member, failing⟩
    obtain ⟨error, failed⟩ := (fails bound member).mpr failing
    rw [ran]
    exact addColumns_of_error member failed
  refine ⟨⟨grouping, grouped, fails⟩, ⟨?_, failsWhole⟩, ?_⟩
  · rintro ⟨error, failed⟩
    apply Classical.byContradiction
    intro noneFails
    obtain ⟨out, finished, -⟩ := succeeds noneFails
    rw [failed] at finished
    cases finished
  · intro out finished
    have noneFails : ¬∃ bound ∈ bounds, ReducerFails table clause.groupBy bound := by
      intro failing
      obtain ⟨error, failed⟩ := failsWhole failing
      rw [finished] at failed
      cases failed
    obtain ⟨other, otherFinished, extended⟩ := succeeds noneFails
    rw [finished] at otherFinished
    cases otherFinished
    refine ⟨extended.rows, fun bound member => ?_⟩
    obtain ⟨cells, computed, shown⟩ := extended.outputs bound member
    obtain ⟨length, shows⟩ :=
      runningCells_shows wellFormed found partitions (checked.valid bound member) computed
    exact ⟨cells, shown, length, shows⟩

/-- Requests of two hosts and one request of no host. -/
def requests : Table :=
  ⟨4, [("host", ⟨.text, [.text "b", .null, .text "a", .text "b"]⟩),
    ("bytes", ⟨.int, [.int 1, .int 2, .int 3, .int 4]⟩)]⟩

/-- The clause `sum(bytes) as total by host`. -/
def runningBytes : StatsClause :=
  ⟨[⟨.sum, "sum", some "bytes", some "total"⟩], ["host"]⟩

/-- The last request shows the sum of the first and the last request. -/
theorem running_reduces_sample :
    ∃ cells, (running requests runningBytes).toOption.bind (·.column? "total") =
        some (Column.lossy cells) ∧ cells[3]? = some (.int 5) ∧ cells[1]? = some .null := by
  have bind : runningBytes.bind requests = .ok [⟨.sum, some "bytes", "total"⟩] := rfl
  obtain ⟨-, -, shows⟩ := running_reduces requests runningBytes _ (by decide) bind
  cases ran : running requests runningBytes with
  | error error =>
      have fine : (running requests runningBytes).toOption.isSome = true := by
        decide +kernel
      rw [ran] at fine
      cases fine
  | ok out =>
      obtain ⟨-, columns⟩ := shows out ran
      obtain ⟨cells, shown, -, correct⟩ := columns _ List.mem_cons_self
      obtain ⟨last, isLast, reduced, -⟩ := correct 3 (by decide)
      obtain ⟨gap, isGap, -, missing⟩ := correct 1 (by decide)
      have total := reduced (by decide)
      cases total
      have isNull := missing (by decide)
      subst isNull
      exact ⟨cells, shown, isLast, isGap⟩

end Stats

end LogPipe
