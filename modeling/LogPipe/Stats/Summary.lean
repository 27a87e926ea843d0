import LogPipe.Stats.Clause
import LogPipe.Stats.Grouping

/-!
# Summaries of groups

A summary has one row per group, in ascending order of the keys. The same aggregates can
be written back onto every row of the group instead.
-/

namespace LogPipe.Stats

/-- The aggregate of some rows of a table. -/
def aggregateRows (table : Table) (rows : List Nat) (bound : BoundAggregate) :
    Except StatsError Cell :=
  match bound.field with
  | none => .ok (Reducer.countCell rows.length)
  | some field =>
      match table.require field with
      | .error error => .error (.table error)
      | .ok column => (bound.function.reduce (rows.map column.cellAt)).mapError .cell

/-- The aggregates of several groups of rows. -/
def aggregateGroups (table : Table) (bound : BoundAggregate) :
    List (List Nat) → Except StatsError (List Cell)
  | [] => .ok []
  | rows :: groups => do
      let cell ← aggregateRows table rows bound
      let cells ← aggregateGroups table bound groups
      pure (cell :: cells)

/-- The output columns of several functions over the same groups. -/
def aggregateColumns (table : Table) (groups : List (List Nat)) :
    List BoundAggregate → Except StatsError (List (String × Column))
  | [] => .ok []
  | bound :: rest => do
      let cells ← aggregateGroups table bound groups
      let columns ← aggregateColumns table groups rest
      pure ((bound.output, Column.lossy cells) :: columns)

/-- The columns of the group keys. -/
def keyColumns (groupBy : List String) (keys : List (List Cell)) : List (String × Column) :=
  groupBy.zipIdx.map fun (name, index) =>
    (name, Column.lossy (keys.map fun key => key[index]?.getD .null))

/-- One row per group: the group columns, then one column per function. -/
def summarize (table : Table) (clause : StatsClause) : Except StatsError Table := do
  let bound ← clause.bind table
  let grouping ← (Grouping.ofTable table clause.groupBy).mapError .table
  let groups := grouping.sorted
  let columns ← aggregateColumns table (groups.map Prod.snd) bound
  (Table.ofRows groups.length
    (keyColumns clause.groupBy (groups.map Prod.fst) ++ columns)).mapError .table

/-- Adds one column per function to a table. -/
def addColumns (cellsOf : BoundAggregate → Except StatsError (List Cell)) (table : Table) :
    List BoundAggregate → Except StatsError Table
  | [] => .ok table
  | bound :: rest => do
      let cells ← cellsOf bound
      let next ← (table.withColumn bound.output (Column.lossy cells)).mapError .table
      addColumns cellsOf next rest

/-- The aggregate of each row's group; missing in a row without a group. -/
def broadcastCells (table : Table) (grouping : Grouping) (bound : BoundAggregate) :
    Except StatsError (List Cell) := do
  let perGroup ← aggregateGroups table bound grouping.members
  pure (grouping.groupOf.map fun group =>
    match group with
    | some index => perGroup[index]?.getD .null
    | none => .null)

/-- The table with the aggregates of its groups on every row. -/
def broadcast (table : Table) (clause : StatsClause) : Except StatsError Table := do
  let bound ← clause.bind table
  let grouping ← (Grouping.ofTable table clause.groupBy).mapError .table
  addColumns (broadcastCells table grouping) table bound

end LogPipe.Stats
