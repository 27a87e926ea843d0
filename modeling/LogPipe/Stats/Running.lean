import LogPipe.Stats.Summary

/-!
# Running aggregates

A running aggregate shows on every row the aggregate of its group up to that row. It is
kept in an accumulator per group, which takes one cell at a time.
-/

namespace LogPipe

/-- What is known of a group's cells so far. -/
structure Running where
  /-- The number of present cells. -/
  count : Nat := 0
  sum : Option Number := none
  bounds : Option (Number × Number) := none
  extreme : Option Cell := none
  first : Option Cell := none
  last : Option Cell := none
  /-- The present cells, kept for the median and the mode. -/
  seen : List Cell := []
  /-- The distinct present cells. -/
  distinct : List Tally := []
deriving DecidableEq, Repr

namespace Running

/-- Takes a present cell into the accumulator of a function. -/
def pushPresent (state : Running) (function : AggregateFunction) (cell : Cell) :
    Except CellError Running :=
  let state := { state with count := state.count + 1 }
  match function with
  | .count => .ok state
  | .sum | .mean =>
      (Number.ofCell cell).map fun number =>
        { state with sum := some ((state.sum.map fun sum => sum.add number).getD number) }
  | .range =>
      (Number.ofCell cell).map fun number =>
        { state with
          bounds := some ((state.bounds.map fun bounds => Reducer.widen bounds number).getD
            (number, number)) }
  | .min =>
      .ok (match state.extreme with
        | some best =>
            if cell.totalCompare best == .lt then { state with extreme := some cell } else state
        | none => { state with extreme := some cell })
  | .max =>
      .ok (match state.extreme with
        | some best =>
            if cell.totalCompare best == .gt then { state with extreme := some cell } else state
        | none => { state with extreme := some cell })
  | .median =>
      (Number.ofCell cell).map fun _ => { state with seen := state.seen ++ [cell] }
  | .mode => .ok { state with seen := state.seen ++ [cell] }
  | .distinctCount | .values => .ok { state with distinct := Tally.insert state.distinct cell }
  | .first | .last => .ok state

/-- Takes a cell into the accumulator of a function. Missing cells count only for the first
and the last cell of a group. -/
def push (state : Running) (function : AggregateFunction) (cell : Cell) :
    Except CellError Running :=
  match function with
  | .first => .ok { state with first := some (state.first.getD cell) }
  | .last => .ok { state with last := some cell }
  | _ => if cell.isMissing then .ok state else state.pushPresent function cell

/-- The aggregate of the cells taken so far. -/
def emit (state : Running) (function : AggregateFunction) : Except CellError Cell :=
  match function with
  | .count => .ok (Reducer.countCell state.count)
  | .sum => .ok ((state.sum.map Number.toCell).getD .null)
  | .mean =>
      .ok ((state.sum.map fun sum =>
        Cell.float (sum.toFloat / Float.ofNat state.count)).getD .null)
  | .range =>
      .ok ((state.bounds.map fun bounds => (bounds.2.sub bounds.1).toCell).getD .null)
  | .min | .max => .ok (state.extreme.getD .null)
  | .median => Reducer.median state.seen
  | .mode => .ok (Reducer.mode state.seen)
  | .distinctCount => .ok (Reducer.countCell state.distinct.length)
  | .values =>
      .ok (if state.distinct.isEmpty then .null else .list (state.distinct.map Tally.cell))
  | .first => .ok (state.first.getD .null)
  | .last => .ok (state.last.getD .null)

end Running

namespace Stats

/-- Runs one accumulator per group over rows, each given as its group and its cell. -/
def runCells (function : AggregateFunction) (states : Nat → Running) :
    List (Option Nat × Cell) → Except CellError (List Cell)
  | [] => .ok []
  | (none, _) :: rows => do
      let cells ← runCells function states rows
      pure (.null :: cells)
  | (some group, cell) :: rows => do
      let state ← (states group).push function cell
      let out ← state.emit function
      let cells ←
        runCells function (fun index => if index == group then state else states index) rows
      pure (out :: cells)

/-- Counts the rows of each group as they come. -/
def runRows (counts : Nat → Nat) : List (Option Nat) → List Cell
  | [] => []
  | none :: rows => .null :: runRows counts rows
  | some group :: rows =>
      let count := counts group + 1
      Reducer.countCell count ::
        runRows (fun index => if index == group then count else counts index) rows

/-- The running aggregate of every row; missing in a row without a group. -/
def runningCells (table : Table) (grouping : Grouping) (bound : BoundAggregate) :
    Except StatsError (List Cell) :=
  match bound.field with
  | none => .ok (runRows (fun _ => 0) grouping.groupOf)
  | some field =>
      match table.require field with
      | .error error => .error (.table error)
      | .ok column =>
          (runCells bound.function (fun _ => {})
            (grouping.groupOf.zipIdx.map fun (group, row) =>
              (group, column.cellAt row))).mapError .cell

/-- The table with the running aggregates of its groups on every row. -/
def running (table : Table) (clause : StatsClause) : Except StatsError Table := do
  let bound ← clause.bind table
  let grouping ← (Grouping.ofTable table clause.groupBy).mapError .table
  addColumns (runningCells table grouping) table bound

end Stats

end LogPipe
