import LogPipe.Proofs.Stats.Running
import LogPipe.Proofs.Table.Preservation
import LogPipe.Stats.FieldSummary
import LogPipe.Stats.Span

/-!
# Aggregations of well-formed tables

Aggregates are counted out: a summary gets one cell for each group, and an aggregate that is
written back onto the rows one cell for each row.
-/

namespace LogPipe

open LogPipe.Query

instance : MayMismatch StatsError where
  isMismatch
    | .column error => isMismatch error
    | .table error => isMismatch error
    | _ => false

namespace StatsClause

theorem readAggregates_keeps (clause : String) (tokens : List Token) (rounds : Nat) :
    Keeps (fun _ => True) (readAggregates clause tokens rounds) := by
  induction rounds generalizing tokens with
  | zero => exact .ok trivial
  | succ rounds induction =>
      rw [readAggregates.eq_def]
      simp only
      split
      · exact .ok trivial
      · split
        · exact induction _
        · split
          · exact .error rfl
          · split
            · exact .error rfl
            · refine (Keeps.wrapped fun _ => rfl).bind fun _ _ => ?_
              refine (Keeps.wrapped fun _ => rfl).bind fun _ _ => ?_
              exact (induction _).bind fun _ _ => .ok trivial

theorem readGroupBy_keeps (clause : String) (tokens : List Token) :
    Keeps (fun _ => True) (readGroupBy clause tokens) := by
  induction tokens with
  | nil => exact .ok trivial
  | cons token tokens induction =>
      rw [readGroupBy]
      split
      · exact induction
      · split
        · exact .error rfl
        · exact induction.map fun _ _ => trivial

theorem ofTokens_keeps (tokens : List Token) (text : String) :
    Keeps (fun _ => True) (ofTokens tokens text) := by
  refine (readAggregates_keeps text _ _).bind fun aggregates _ => ?_
  split
  · exact .error rfl
  · split
    · exact .ok trivial
    · refine (readGroupBy_keeps text _).bind fun groupBy _ => ?_
      split
      · exact .error rfl
      · exact .ok trivial

theorem bindAggregate_keeps (table : Table) (groupBy : List String) (aggregate : Aggregate) :
    Keeps (fun _ => True) (bindAggregate table groupBy aggregate) := by
  rw [bindAggregate]
  split
  · exact .ok trivial
  · split
    · exact .error rfl
    · exact .ok trivial
  · split
    · exact .ok trivial
    · exact .error rfl

theorem bindAggregates_keeps (table : Table) (groupBy : List String) (aggregates : List Aggregate) :
    Keeps (fun _ => True) (bindAggregates table groupBy aggregates) := by
  induction aggregates with
  | nil => exact .ok trivial
  | cons aggregate aggregates induction =>
      exact (bindAggregate_keeps table groupBy aggregate).bind fun _ _ =>
        induction.bind fun _ _ => .ok trivial

theorem bind_keeps (clause : StatsClause) (table : Table) :
    Keeps (fun _ => True) (clause.bind table) := by
  rw [bind]
  split
  · exact .error rfl
  · refine (bindAggregates_keeps table _ _).bind fun bound _ => ?_
    split
    · exact .error rfl
    · exact .ok trivial

end StatsClause

namespace Stats

section Grouped

variable {table : Table} (wellFormed : table.WellFormed)

include wellFormed

theorem columnsOf_keeps (names : List String) :
    Keeps (fun _ => True) (Grouping.columnsOf table names) := by
  induction names with
  | nil => exact .ok trivial
  | cons name names induction =>
      exact (Table.require_keeps wellFormed name).bind fun _ _ =>
        induction.bind fun _ _ => .ok trivial

/-- Every row is told its group. -/
theorem ofTable_keeps (groupBy : List String) :
    Keeps (fun grouping : Grouping => grouping.groupOf.length = table.rows)
      (Grouping.ofTable table groupBy) := by
  rw [Grouping.ofTable]
  split
  · exact .ok List.length_replicate
  · refine (columnsOf_keeps wellFormed groupBy).map fun columns _ => ?_
    simp only [Grouping.ofColumns, List.length_map, List.length_range]

theorem aggregateRows_keeps (rows : List Nat) (bound : BoundAggregate) :
    Keeps (fun _ => True) (aggregateRows table rows bound) := by
  rw [aggregateRows]
  split
  · exact .ok trivial
  · next field _ =>
      split
      · next failed => exact .error ((Table.require_keeps wellFormed field).of_eq_error failed)
      · exact .wrapped fun _ => rfl

theorem aggregateGroups_keeps (bound : BoundAggregate) (groups : List (List Nat)) :
    Keeps (fun cells => cells.length = groups.length) (aggregateGroups table bound groups) := by
  induction groups with
  | nil => exact .ok rfl
  | cons rows groups induction =>
      exact (aggregateRows_keeps wellFormed rows bound).bind fun _ _ =>
        induction.bind fun _ length => .ok (congrArg Nat.succ length)

theorem aggregateColumns_keeps (groups : List (List Nat)) (bounds : List BoundAggregate) :
    Keeps (fun columns => ∀ entry ∈ columns, entry.2.Suits groups.length)
      (aggregateColumns table groups bounds) := by
  induction bounds with
  | nil => exact .ok (List.forall_mem_nil _)
  | cons bound bounds induction =>
      exact (aggregateGroups_keeps wellFormed bound groups).bind fun _ length =>
        induction.bind fun _ suit =>
          .ok (List.forall_mem_cons.mpr ⟨Column.suits_lossy length, suit⟩)

omit wellFormed in
theorem suits_keyColumns (groupBy : List String) (keys : List (List Cell)) :
    ∀ entry ∈ keyColumns groupBy keys, entry.2.Suits keys.length := by
  intro entry member
  obtain ⟨⟨name, index⟩, -, rfl⟩ := List.mem_map.mp member
  exact Column.suits_lossy (List.length_map _)

theorem summarize_keeps (clause : StatsClause) :
    Keeps Table.WellFormed (summarize table clause) := by
  refine (clause.bind_keeps table).bind fun bound _ => ?_
  refine ((ofTable_keeps wellFormed clause.groupBy).mapError StatsError.table fun _ => rfl).bind
    fun grouping _ => ?_
  refine (aggregateColumns_keeps wellFormed _ bound).bind fun columns suit => ?_
  refine (Table.ofRows_keeps ?_).mapError _ fun _ => rfl
  intro entry member
  rcases List.mem_append.mp member with isKey | isAggregate
  · have suits := suits_keyColumns _ _ entry isKey
    rwa [List.length_map] at suits
  · have suits := suit entry isAggregate
    rwa [List.length_map] at suits

omit wellFormed in
/-- Columns are added as long as each has one cell for each row. -/
theorem addColumns_keeps {table : Table} {rows : Nat}
    {cellsOf : BoundAggregate → Except StatsError (List Cell)}
    (each : ∀ bound, Keeps (fun cells => cells.length = rows) (cellsOf bound))
    (wellFormed : table.WellFormed) (sameRows : table.rows = rows) (bounds : List BoundAggregate) :
    Keeps Table.WellFormed (addColumns cellsOf table bounds) := by
  induction bounds generalizing table with
  | nil => exact .ok wellFormed
  | cons bound bounds induction =>
      refine (each bound).bind fun cells length => ?_
      have added := Table.putCells_keeps wellFormed bound.output (length.trans sameRows.symm)
      exact (added.mapError StatsError.table fun _ => rfl).bind fun next follows =>
        induction follows.1 (follows.2.trans sameRows)

theorem broadcastCells_keeps {grouping : Grouping}
    (length : grouping.groupOf.length = table.rows) (bound : BoundAggregate) :
    Keeps (fun cells => cells.length = table.rows) (broadcastCells table grouping bound) :=
  (aggregateGroups_keeps wellFormed bound _).bind fun _ _ =>
    .ok ((List.length_map _).trans length)

theorem broadcast_keeps (clause : StatsClause) :
    Keeps Table.WellFormed (broadcast table clause) := by
  refine (clause.bind_keeps table).bind fun bound _ => ?_
  refine ((ofTable_keeps wellFormed clause.groupBy).mapError StatsError.table fun _ => rfl).bind
    fun grouping length => ?_
  exact addColumns_keeps (broadcastCells_keeps wellFormed length) wellFormed rfl bound

omit wellFormed in
theorem length_runCells {function : AggregateFunction} {states : Nat → Running}
    {rows : List (Option Nat × Cell)} {cells : List Cell}
    (ran : runCells function states rows = .ok cells) : cells.length = rows.length := by
  induction rows generalizing states cells with
  | nil =>
      cases ran
      rfl
  | cons row rows induction =>
      obtain ⟨group, cell⟩ := row
      cases group with
      | none =>
          obtain ⟨rest, restRan, finished⟩ := Except.bind_eq_ok_iff.mp ran
          cases finished
          exact congrArg Nat.succ (induction restRan)
      | some group =>
          obtain ⟨state, -, stateRan⟩ := Except.bind_eq_ok_iff.mp ran
          obtain ⟨out, -, outRan⟩ := Except.bind_eq_ok_iff.mp stateRan
          obtain ⟨rest, restRan, finished⟩ := Except.bind_eq_ok_iff.mp outRan
          cases finished
          exact congrArg Nat.succ (induction restRan)

theorem runningCells_keeps {grouping : Grouping}
    (length : grouping.groupOf.length = table.rows) (bound : BoundAggregate) :
    Keeps (fun cells => cells.length = table.rows) (runningCells table grouping bound) := by
  rw [runningCells]
  split
  · exact .ok ((length_runRows _ _).trans length)
  · next field _ =>
      split
      · next failed => exact .error ((Table.require_keeps wellFormed field).of_eq_error failed)
      · refine .of_mapError (fun _ => rfl) fun cells ran => ?_
        rw [length_runCells ran, List.length_map, List.length_zipIdx, length]

theorem running_keeps (clause : StatsClause) :
    Keeps Table.WellFormed (running table clause) := by
  refine (clause.bind_keeps table).bind fun bound _ => ?_
  refine ((ofTable_keeps wellFormed clause.groupBy).mapError StatsError.table fun _ => rfl).bind
    fun grouping length => ?_
  exact addColumns_keeps (runningCells_keeps wellFormed length) wellFormed rfl bound

end Grouped

/-- A summary of columns is well formed whatever they hold. -/
theorem wellFormed_fieldSummary {table summary : Table} {limit : Nat}
    (done : fieldSummary table limit = .ok summary) : summary.WellFormed := by
  obtain ⟨rows, -, finished⟩ := Except.bind_eq_ok_iff.mp done
  cases finished
  refine Table.wellFormed_iff_suits.mpr ⟨?_, ?_⟩
  · rw [Table.names, List.map_map]
    exact (congrArg List.Nodup (List.zipIdx_map_fst 0 summaryNames)).mpr (by decide)
  · intro entry member
    obtain ⟨⟨name, index⟩, -, rfl⟩ := List.mem_map.mp member
    exact Column.suits_lossy (List.length_map _)

section Buckets

theorem mapCells_keeps {f : Cell → Except StatsError Cell}
    (each : ∀ cell, Keeps (fun _ => True) (f cell)) (cells : List Cell) :
    Keeps (fun mapped => mapped.length = cells.length) (mapCells f cells) := by
  induction cells with
  | nil => exact .ok rfl
  | cons cell cells induction =>
      exact (each cell).bind fun _ _ =>
        induction.bind fun _ length => .ok (congrArg Nat.succ length)

theorem binTime_keeps (name : String) (span : Span) (cell : Cell) :
    Keeps (fun _ => True) (binTime name span cell) := by
  rw [binTime]
  split
  · exact .ok trivial
  · split
    · exact .ok trivial
    · exact .error rfl

theorem binNumber_keeps (name : String) (width : Float) (cell : Cell) :
    Keeps (fun _ => True) (binNumber name width cell) := by
  rw [binNumber.eq_def]
  split
  · exact .ok trivial
  · simp only
    split
    · split
      · exact .ok trivial
      · split
        · exact .ok trivial
        · exact .error rfl
    · split
      · exact .ok trivial
      · exact .error rfl

variable {column : Column} {rows : Nat}

theorem binTimes_keeps (name : String) (span : Span) (size : column.size = rows) :
    Keeps (Column.Suits rows) (binTimes name column span) :=
  (mapCells_keeps (binTime_keeps name span) column.cells).map fun _ length =>
    Column.suits_lossy (length.trans size)

theorem binNumbers_keeps (name : String) (width : Float) (size : column.size = rows) :
    Keeps (Column.Suits rows) (binNumbers name column width) := by
  rw [binNumbers]
  split
  · exact (mapCells_keeps (binNumber_keeps name width) column.cells).map fun _ length =>
      Column.suits_lossy (length.trans size)
  · exact .error rfl

theorem span_ofText_keeps (text : String) : Keeps (fun _ => True) (Span.ofText text) := by
  rw [Span.ofText]
  split
  · exact .ok trivial
  · exact .error rfl

theorem takeSpan_keeps (span : Span) (tokens : List Token) :
    Keeps (fun _ => True) (takeSpan span tokens) := by
  fun_induction takeSpan span tokens with
  | case1 => exact .ok trivial
  | case2 => exact .ok trivial
  | case3 => exact .error rfl
  | case4 span token sign isSpan value rest next read induction => exact induction
  | case5 span token sign isSpan value rest failure failed =>
      exact .error ((span_ofText_keeps value.unquoted).of_eq_error failed)
  | case6 span token sign rest other induction => exact induction.map fun _ _ => trivial

/-- The buckets of the times replace the times row by row. -/
theorem timechart_keeps {table : Table} (wellFormed : table.WellFormed) (text : String)
    (defaultSpan : Span) : Keeps Table.WellFormed (timechart table text defaultSpan) := by
  refine (Keeps.wrapped fun _ => rfl).bind fun tokens _ => ?_
  refine (takeSpan_keeps defaultSpan tokens).bind fun taken _ => ?_
  refine (StatsClause.ofTokens_keeps _ text).bind fun clause _ => ?_
  simp only
  split
  · exact .error rfl
  · next column found =>
      refine (binTimes_keeps timeField _ (wellFormed.size_eq found)).bind fun buckets suits => ?_
      have binned := Table.withColumn_keeps wellFormed timeField suits
      exact (binned.mapError StatsError.table fun _ => rfl).bind fun next follows =>
        summarize_keeps follows.1 _

end Buckets

end Stats

end LogPipe
