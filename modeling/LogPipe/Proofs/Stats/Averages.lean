import LogPipe.Proofs.Cell.Nearest
import LogPipe.Proofs.Stats.Broadcast
import LogPipe.Proofs.Stats.Running
import LogPipe.Proofs.Stats.Totals

/-!
# Averages of integers

The reducer divides the sum of the nearest floats of its integers.  A running average divides the
float nearest to the sum that it keeps, and this sum is exact while it stays in the 64-bit range.
The two agree as long as nothing is lost before the last addition, but not in general.
-/

namespace LogPipe

open LogPipe.Decimal

namespace Integers

/-- The average that adds the nearest floats. -/
def average (values : List Int64) : Cell :=
  if values = [] then .null else .float (floatFrom (-0.0) values / Float.ofNat values.length)

/-- The average that divides the float nearest to the kept sum. -/
def keptAverage (values : List Int64) : Cell :=
  ((foldFrom id Number.add (values.map Number.int)).map fun sum =>
    Cell.float (sum.toFloat / Float.ofNat values.length)).getD .null

/-- While the sum stays in range, 53 bits and an exponent are enough for each integer after the
first one and for the sum before it. -/
def AddsExactly (values : List Int64) : Prop :=
  ∀ before next, before ≠ [] → before ++ [next] <+: values → StaysInRange (before ++ [next]) →
    Cell.Short (total before) ∧ Cell.Short next.toInt

variable {values before : List Int64}

section Sums

theorem AddsExactly.of_prefix (exact : AddsExactly values) (first : before <+: values) :
    AddsExactly before :=
  fun start next some isStart => exact start next some (isStart.trans first)

theorem floatFrom_append (start : Float) (before after : List Int64) :
    floatFrom start (before ++ after) = floatFrom (floatFrom start before) after :=
  List.foldl_append

/-- Where nothing is lost before the last addition, the sum of the nearest floats is the float
nearest to the sum. -/
theorem floatFrom_of_stays (some : values ≠ []) (stays : StaysInRange values)
    (exact : AddsExactly values) :
    floatFrom (-0.0) values = Cell.floatOfInt (Int64.ofInt (total values)) := by
  induction values using List.reverseRecOn with
  | nil => exact absurd rfl some
  | append_singleton values last induction =>
      obtain ⟨staysBefore, inRange⟩ := stays_append_singleton.mp stays
      rw [floatFrom_append]
      change floatFrom (-0.0) values + Cell.floatOfInt last = _
      by_cases empty : values = []
      · subst empty
        rw [List.nil_append, total_singleton, Int64.ofInt_toInt]
        exact Cell.negZero_add_floatOfInt last
      · have rangeBefore := toInt_ofInt_of_inRange (staysBefore values (List.prefix_refl _))
        obtain ⟨sumShort, lastShort⟩ := exact values last empty (List.prefix_refl _) stays
        rw [induction empty staysBefore (exact.of_prefix (List.prefix_append _ _))]
        apply Cell.floatOfInt_add _ lastShort
        · rw [toInt_ofInt_of_inRange inRange, rangeBefore, total_append, total_singleton]
        · rw [rangeBefore]
          exact sumShort

/-- The kept sum turns into a float at the first sum out of range.  Up to there the nearest floats
add up to the same float, and from there on both add the same floats. -/
theorem exists_keptSum (some : values ≠ []) (exact : AddsExactly values) :
    ∃ sum, foldFrom id Number.add (values.map Number.int) = .some sum ∧
      sum.toFloat = floatFrom (-0.0) values := by
  by_cases stays : StaysInRange values
  · exact ⟨_, foldFrom_add_of_stays some stays, (floatFrom_of_stays some stays exact).symm⟩
  · obtain ⟨before, next, after, rfl, staysBefore, leaves⟩ := exists_overflow stays
    refine ⟨_, foldFrom_add_of_overflow staysBefore leaves, ?_⟩
    have someBefore : before ≠ [] := by
      rintro rfl
      rw [List.nil_append, total_singleton] at leaves
      exact leaves (inRange_toInt next)
    rw [floatFrom_append, floatFrom_of_stays someBefore staysBefore
      (exact.of_prefix (List.prefix_append _ _))]
    rfl

theorem keptAverage_eq_average (exact : AddsExactly values) :
    keptAverage values = average values := by
  rw [keptAverage, average]
  by_cases empty : values = []
  · rw [if_pos empty, empty]
    rfl
  · obtain ⟨sum, kept, same⟩ := exists_keptSum empty exact
    rw [if_neg empty, kept, ← same]
    rfl

/-- Integers that are small altogether lose nothing. -/
theorem addsExactly_of_small
    (small : (values.map fun value => value.toInt.natAbs).sum ≤ 2 ^ 53) : AddsExactly values := by
  have bounded : ∀ values : List Int64,
      (total values).natAbs ≤ (values.map fun value => value.toInt.natAbs).sum := by
    intro values
    induction values with
    | nil => exact Nat.le_refl 0
    | cons value values induction =>
        rw [total_cons, List.map_cons, List.sum_cons]
        omega
  have short : ∀ {number : Int}, number.natAbs ≤ 2 ^ 53 → Cell.Short number :=
    fun {number} fits => ⟨number, 0, (Int.mul_one number).symm, fits⟩
  rintro before next - ⟨after, rfl⟩ -
  rw [List.map_append, List.map_append, List.sum_append, List.sum_append, List.map_singleton,
    List.sum_singleton] at small
  have earlier := bounded before
  exact ⟨short (by omega), short (by omega)⟩

theorem keptAverage_of_stays (some : values ≠ []) (stays : StaysInRange values) :
    keptAverage values = .float
      (Cell.floatOfInt (Int64.ofInt (total values)) / Float.ofNat values.length) := by
  rw [keptAverage, foldFrom_add_of_stays some stays]
  rfl

end Sums

section Kinds

theorem kind_average (values : List Int64) :
    (average values).kind = if values = [] then .null else .float := by
  rw [average]
  split <;> rfl

theorem kind_keptAverage (values : List Int64) :
    (keptAverage values).kind = if values = [] then .null else .float := by
  rw [keptAverage]
  cases kept : foldFrom id Number.add (values.map Number.int) with
  | none =>
      rw [foldFrom_eq_none_iff, List.map_eq_nil_iff] at kept
      rw [if_pos kept]
      rfl
  | some sum =>
      have some : values ≠ [] := by
        rintro rfl
        cases kept
      rw [if_neg some]
      rfl

end Kinds

end Integers

namespace Reducer

open Integers

variable {cells : List Cell}

theorem mean_of_integral (integral : Integral cells) :
    mean cells = .ok (average (integers cells)) := by
  have sum : ∀ values : List Int64,
      floatSum ((values.map Number.int).map Number.toFloat) = floatFrom (-0.0) values := by
    intro values
    rw [floatSum, List.map_map, List.foldl_map]
    rfl
  rw [mean, integral.numbers_eq, average, ← sum]
  cases integers cells with
  | nil => rfl
  | cons first rest =>
      rw [if_neg (List.cons_ne_nil first rest), ← List.length_map Number.int]
      rfl

theorem keptMean_of_integral (integral : Integral cells) :
    keptMean cells = .ok (keptAverage (integers cells)) := by
  rw [keptMean, integral.numbers_eq, keptAverage]
  simp only [Except.map, List.length_map]

theorem integers_ne_nil_iff : integers cells ≠ [] ↔ ∃ value, .int value ∈ cells := by
  constructor
  · intro some
    obtain ⟨value, member⟩ := List.exists_mem_of_ne_nil _ some
    obtain ⟨cell, inCells, isInt⟩ := List.mem_filterMap.mp member
    cases cell with
    | int other => exact ⟨other, inCells⟩
    | _ => cases isInt
  · rintro ⟨value, member⟩
    exact List.ne_nil_of_mem (List.mem_filterMap.mpr ⟨.int value, member, rfl⟩)

end Reducer

/-- No later row has the keys of the row. -/
def Table.IsLastLike (table : Table) (names : List String) (row : Nat) : Prop :=
  ∀ later < table.rows, row < later → table.keysAt names later ≠ table.keysAt names row

theorem Table.IsLastLike.rowsLike_eq {table : Table} {names : List String} {row : Nat}
    (last : table.IsLastLike names row) (inside : row < table.rows) :
    table.rowsLike names row (row + 1) = table.rowsLike names row table.rows := by
  obtain ⟨later, split⟩ : ∃ later, table.rows = row + 1 + later := Nat.exists_eq_add_of_le inside
  have ranges : List.range table.rows =
      List.range (row + 1) ++ (List.range later).map fun offset => row + 1 + offset := by
    rw [split, List.range_add]
  have none : ((List.range later).map fun offset => row + 1 + offset).filter
      (fun other => table.keysAt names other == table.keysAt names row) = [] := by
    rw [List.filter_eq_nil_iff, List.forall_mem_map]
    intro offset inRange
    rw [beq_iff_eq]
    have bounded := List.mem_range.mp inRange
    exact last _ (by omega) (by omega)
  rw [Table.rowsLike, Table.rowsLike, ranges, List.filter_append, none, List.append_nil]

namespace Stats

open Grouping Integers Reducer

/-- The integers of a field in the group of a row, up to and including the row. -/
def integersUpTo (table : Table) (groupBy : List String) (field : String) (row : Nat) :
    List Int64 :=
  integers (fieldCells table field (table.rowsLike groupBy row (row + 1)))

/-- The cells of a running average of integers. -/
structure IsRunningAverage (table : Table) (groupBy : List String) (field : String)
    (cells : List Cell) : Prop where
  length : cells.length = table.rows
  kept : ∀ row < table.rows, table.HasKeys groupBy row →
    cells[row]? = some (keptAverage (integersUpTo table groupBy field row))
  missing : ∀ row < table.rows, ¬table.HasKeys groupBy row → cells[row]? = some .null

variable {table summary : Table} {groupBy : List String} {clause : StatsClause}
  {bounds : List BoundAggregate} {grouping : Grouping} {columns : List Column}
  {distinct order : List (List Key)} {bound : BoundAggregate} {field : String} {column : Column}

section Running

/-- What can be computed for every group can be added to the rows. -/
theorem exists_running (wellFormed : table.WellFormed) (bind : clause.bind table = .ok bounds)
    (grouped : Grouping.ofTable table clause.groupBy = .ok grouping)
    (fine : ∀ bound ∈ bounds, ¬ReducerFails table clause.groupBy bound) :
    ∃ out, running table clause = .ok out ∧
      Extends (runningCells table grouping) table bounds out := by
  have checked := StatsClause.bind_eq_ok bind
  obtain ⟨columns, distinct, found, partitions⟩ := ofTable_partitions grouped
  have sized : ∀ bound ∈ bounds, ∃ cells, runningCells table grouping bound = .ok cells ∧
      cells.length = table.rows := by
    intro bound member
    have valid := checked.valid bound member
    obtain ⟨cells, ran⟩ := Except.exists_ok_of_not_error
      ((runningCells_error_iff wellFormed found partitions valid).not.mpr (fine bound member))
    exact ⟨cells, ran, (runningCells_shows wellFormed found partitions valid ran).1⟩
  obtain ⟨out, added, extended⟩ := addColumns_of_ok checked.outputs sized
  refine ⟨out, ?_, extended⟩
  rw [running, bind, grouped]
  exact added

theorem extends_of_running (wellFormed : table.WellFormed)
    (bind : clause.bind table = .ok bounds)
    (grouped : Grouping.ofTable table clause.groupBy = .ok grouping) {out : Table}
    (ran : running table clause = .ok out) :
    Extends (runningCells table grouping) table bounds out := by
  obtain ⟨columns, distinct, found, partitions⟩ := ofTable_partitions grouped
  have fine : ∀ bound ∈ bounds, ¬ReducerFails table clause.groupBy bound := by
    intro bound member fails
    have valid := (StatsClause.bind_eq_ok bind).valid bound member
    obtain ⟨error, failed⟩ := (runningCells_error_iff wellFormed found partitions valid).mpr fails
    obtain ⟨other, failedWhole⟩ : ∃ other,
        addColumns (runningCells table grouping) table bounds = .error other :=
      addColumns_of_error member failed
    rw [running, bind, grouped] at ran
    cases ran.symm.trans failedWhole
  obtain ⟨other, finished, extended⟩ := exists_running wellFormed bind grouped fine
  cases ran.symm.trans finished
  exact extended

theorem integral_rowsLike (wellFormed : table.WellFormed)
    (shown : table.column? field = some column) (ints : column.kind = .int) {row last : Nat}
    (bounded : last ≤ table.rows) :
    Integral (fieldCells table field (table.rowsLike groupBy row last)) := by
  apply integral_fieldCells wellFormed shown ints
  intro other member
  exact Nat.lt_of_lt_of_le (List.mem_range.mp (List.mem_filter.mp member).1) bounded

/-- A running average of integers can be computed and keeps their sum. -/
theorem runningCells_mean (wellFormed : table.WellFormed)
    (grouped : Grouping.ofTable table groupBy = .ok grouping) (isMean : bound.function = .mean)
    (named : bound.field = some field) (shown : table.column? field = some column)
    (ints : column.kind = .int) (valid : bound.Valid table) :
    ∃ cells, runningCells table grouping bound = .ok cells ∧
      IsRunningAverage table groupBy field cells := by
  obtain ⟨columns, distinct, found, partitions⟩ := ofTable_partitions grouped
  have never : ¬∃ error, runningCells table grouping bound = .error error := by
    rw [runningCells_error_iff wellFormed found partitions valid]
    rintro ⟨other, isField, row, -, -, error, failed⟩
    cases named.symm.trans isField
    rw [isMean, AggregateFunction.reduce,
      mean_of_integral (integral_rowsLike wellFormed shown ints Nat.le.refl)] at failed
    cases failed
  obtain ⟨cells, ran⟩ := Except.exists_ok_of_not_error never
  obtain ⟨length, shows⟩ := runningCells_soFar wellFormed found partitions named shown ran
  refine ⟨cells, ran, length, fun row inside has => ?_, fun row inside noKeys => ?_⟩
  · obtain ⟨cell, isCell, correct, -⟩ := shows row inside
    have kept := correct has
    rw [isMean, AggregateFunction.soFar,
      keptMean_of_integral (integral_rowsLike wellFormed shown ints inside)] at kept
    rw [isCell, ← Except.ok.inj kept]
    rfl
  · obtain ⟨cell, isCell, -, missing⟩ := shows row inside
    rw [isCell, missing noKeys]

end Running

section Groups

theorem aggregateRows_mean (wellFormed : table.WellFormed) (isMean : bound.function = .mean)
    (named : bound.field = some field) (shown : table.column? field = some column)
    (ints : column.kind = .int) {rows : List Nat} (inside : ∀ row ∈ rows, row < table.rows) :
    aggregateRows table rows bound = .ok (average (integers (fieldCells table field rows))) := by
  rw [aggregateRows_field wellFormed named shown inside, isMean, AggregateFunction.reduce,
    mean_of_integral (integral_fieldCells wellFormed shown ints inside)]
  rfl

/-- The group of a row with keys holds the rows with the same keys. -/
theorem Grouped.exists_keyRows (groups : Grouped table groupBy grouping columns distinct order)
    (wellFormed : table.WellFormed) {row : Nat} (inside : row < table.rows)
    (has : table.HasKeys groupBy row) :
    ∃ key ∈ order, rowKey columns row = some key ∧
      keyRows table columns key = table.rowsLike groupBy row table.rows := by
  cases keyed : rowKey columns row with
  | none => exact absurd has ((rowKey_eq_none_iff wellFormed groups.found inside).mp keyed)
  | some key =>
      refine ⟨key, ?_, rfl, rowsOf_eq_rowsLike wellFormed groups.found inside keyed Nat.le.refl⟩
      exact groups.reordered.mem_iff.mpr (groups.partitions.covers row inside key keyed)

/-- What can be summarized can be run. -/
theorem Summarized.exists_running
    (parts : Summarized table summary clause bounds grouping columns distinct order)
    (wellFormed : table.WellFormed) :
    ∃ out, running table clause = .ok out ∧
      Extends (runningCells table grouping) table bounds out := by
  apply Stats.exists_running wellFormed parts.bind parts.grouped
  rintro bound member ⟨field, named, row, inside, has, error, failed⟩
  have valid := (StatsClause.bind_eq_ok parts.bind).valid bound member
  obtain ⟨column, shown⟩ := Table.exists_column_of_hasColumn (valid.column field named)
  obtain ⟨key, inOrder, -, sameRows⟩ := parts.exists_keyRows wellFormed inside has
  obtain ⟨cell, aggregated⟩ := parts.aggregated bound member key inOrder
  rw [aggregateRows_field wellFormed named shown (fun _ => lt_of_mem_keyRows), sameRows,
    failed] at aggregated
  cases aggregated

/-- Whether a row shows a number. -/
theorem integers_rowsLike_ne_nil_iff {row last : Nat} :
    integers (fieldCells table field (table.rowsLike groupBy row last)) ≠ [] ↔
      ∃ other < last, table.keysAt groupBy other = table.keysAt groupBy row ∧
        ∃ value, table.value? field other = some (.int value) := by
  rw [integers_ne_nil_iff]
  constructor
  · rintro ⟨value, member⟩
    obtain ⟨other, isLike, shown⟩ := List.mem_filterMap.mp member
    obtain ⟨inRange, same⟩ := List.mem_filter.mp isLike
    exact ⟨other, List.mem_range.mp inRange, beq_iff_eq.mp same, value, shown⟩
  · rintro ⟨other, inside, same, value, shown⟩
    refine ⟨value, List.mem_filterMap.mpr ⟨other, ?_, shown⟩⟩
    exact List.mem_filter.mpr ⟨List.mem_range.mpr inside, beq_iff_eq.mpr same⟩

theorem aggregateOf_mean (wellFormed : table.WellFormed) (isMean : bound.function = .mean)
    (named : bound.field = some field) (shown : table.column? field = some column)
    (ints : column.kind = .int) (key : List Key) :
    aggregateOf table bound (keyRows table columns key) =
      average (integers (fieldCells table field (keyRows table columns key))) := by
  rw [aggregateOf, aggregateRows_mean wellFormed isMean named shown ints
    fun _ => lt_of_mem_keyRows]
  rfl

/-- Where some group has an integer the averages are a column of floats. -/
theorem lossyKind_averages (wellFormed : table.WellFormed) (isMean : bound.function = .mean)
    (named : bound.field = some field) (shown : table.column? field = some column)
    (ints : column.kind = .int) {key : List Key} (inOrder : key ∈ order)
    (isFloat : (aggregateOf table bound (keyRows table columns key)).kind = .float) :
    Column.lossyKind (order.map fun key =>
      aggregateOf table bound (keyRows table columns key)) = .float := by
  rw [← isFloat]
  apply Column.lossyKind_of_mem _ (List.mem_map_of_mem inOrder)
  rw [List.forall_mem_map, isFloat]
  intro other _
  rw [aggregateOf_mean wellFormed isMean named shown ints, kind_average]
  split
  · exact Or.inl rfl
  · exact Or.inr rfl

/-- A group with an integer has a row that shows a running average. -/
theorem Grouped.exists_integersUpTo
    (groups : Grouped table groupBy grouping columns distinct order)
    (wellFormed : table.WellFormed) {key : List Key}
    (some : integers (fieldCells table field (keyRows table columns key)) ≠ []) :
    ∃ row < table.rows, table.HasKeys groupBy row ∧
      integersUpTo table groupBy field row ≠ [] := by
  obtain ⟨value, member⟩ := integers_ne_nil_iff.mp some
  obtain ⟨row, isRow, isValue⟩ := List.mem_filterMap.mp member
  obtain ⟨inside, keyed⟩ := mem_rowsOf.mp isRow
  refine ⟨row, inside, ((rowKey_eq_some_iff wellFormed groups.found inside).mp keyed).1, ?_⟩
  exact integers_rowsLike_ne_nil_iff.mpr ⟨row, Nat.lt_succ_self row, rfl, value, isValue⟩

section

variable (parts : Summarized table summary clause bounds grouping columns distinct order)
  (wellFormed : table.WellFormed) (isMean : bound.function = .mean)
  (named : bound.field = some field) (shown : table.column? field = some column)
  (ints : column.kind = .int)

include parts wellFormed isMean named shown ints

/-- The group of a row with an integer up to it has an average. -/
theorem Summarized.exists_average {row : Nat} (inside : row < table.rows)
    (has : table.HasKeys clause.groupBy row)
    (someUpTo : integersUpTo table clause.groupBy field row ≠ []) :
    ∃ key ∈ order, (aggregateOf table bound (keyRows table columns key)).kind = .float := by
  obtain ⟨key, inOrder, -, sameRows⟩ := parts.exists_keyRows wellFormed inside has
  obtain ⟨other, before, same⟩ := integers_rowsLike_ne_nil_iff.mp someUpTo
  refine ⟨key, inOrder, ?_⟩
  rw [aggregateOf_mean wellFormed isMean named shown ints, kind_average, sameRows]
  exact if_neg (integers_rowsLike_ne_nil_iff.mpr ⟨other, by omega, same⟩)

/-- Running averages and those of the groups are missing or floats alike. -/
theorem Summarized.lossyKind_running {cells : List Cell}
    (running : IsRunningAverage table clause.groupBy field cells) :
    Column.lossyKind cells = Column.lossyKind (order.map fun key =>
      aggregateOf table bound (keyRows table columns key)) := by
  apply Kind.joinAll_congr
  · rw [List.forall_mem_map]
    intro cell member
    obtain ⟨row, there⟩ := List.getElem?_of_mem member
    have inside : row < table.rows := by
      rw [← running.length]
      exact (List.getElem?_eq_some_iff.mp there).1
    by_cases has : table.HasKeys clause.groupBy row
    · cases there.symm.trans (running.kept row inside has)
      rw [kind_keptAverage]
      split
      · exact Or.inl rfl
      · next someUpTo =>
          obtain ⟨key, inOrder, isFloat⟩ :=
            parts.exists_average wellFormed isMean named shown ints inside has someUpTo
          exact Or.inr (List.mem_map.mpr ⟨_, List.mem_map_of_mem inOrder, isFloat⟩)
    · cases there.symm.trans (running.missing row inside has)
      exact Or.inl rfl
  · rw [List.map_map, List.forall_mem_map]
    intro key inOrder
    rw [Function.comp_apply, aggregateOf_mean wellFormed isMean named shown ints, kind_average]
    split
    · exact Or.inl rfl
    · next some =>
        obtain ⟨row, inside, has, someUpTo⟩ := parts.exists_integersUpTo wellFormed some
        refine Or.inr (List.mem_map.mpr
          ⟨_, List.mem_of_getElem? (running.kept row inside has), ?_⟩)
        rw [kind_keptAverage]
        exact if_neg someUpTo

/-- A running average is shown as the summary shows its averages. -/
theorem Summarized.value?_running (member : bound ∈ bounds) {out : Table}
    (extended : Extends (runningCells table grouping) table bounds out) {row : Nat}
    (inside : row < table.rows) (has : table.HasKeys clause.groupBy row) :
    out.value? bound.output row = some (Column.coerce
      (Column.lossyKind (order.map fun key =>
        aggregateOf table bound (keyRows table columns key)))
      (keptAverage (integersUpTo table clause.groupBy field row))) := by
  have valid := (StatsClause.bind_eq_ok parts.bind).valid bound member
  obtain ⟨cells, ran, isColumn⟩ := extended.outputs bound member
  obtain ⟨_, sameRan, running⟩ :=
    runningCells_mean wellFormed parts.grouped isMean named shown ints valid
  cases ran.symm.trans sameRan
  rw [← parts.lossyKind_running wellFormed isMean named shown ints running, Table.value?, isColumn,
    Option.bind_some, Column.get?_lossy, running.kept row inside has]
  rfl

/-- On the last row of its group a running average is the one of the group exactly when both sums
give the same. -/
theorem Summarized.value?_mean (member : bound ∈ bounds) {out spread : Table}
    (extended : Extends (runningCells table grouping) table bounds out)
    (spreads : Extends (Stats.broadcastCells table grouping) table bounds spread) {row : Nat}
    (inside : row < table.rows) (has : table.HasKeys clause.groupBy row)
    (last : table.IsLastLike clause.groupBy row) :
    ∃ place < summary.rows,
      summary.keysAt clause.groupBy place = table.keysAt clause.groupBy row ∧
      spread.value? bound.output row = summary.value? bound.output place ∧
      (integersUpTo table clause.groupBy field row ≠ [] →
        summary.value? bound.output place =
          some (average (integersUpTo table clause.groupBy field row))) ∧
      (out.value? bound.output row = summary.value? bound.output place ↔
        keptAverage (integersUpTo table clause.groupBy field row) =
          average (integersUpTo table clause.groupBy field row)) := by
  obtain ⟨key, inOrder, keyed, sameRows⟩ := parts.exists_keyRows wellFormed inside has
  obtain ⟨place, there⟩ := List.getElem?_of_mem inOrder
  have own : aggregateOf table bound (keyRows table columns key) =
      average (integersUpTo table clause.groupBy field row) := by
    rw [aggregateOf_mean wellFormed isMean named shown ints, sameRows, integersUpTo,
      last.rowsLike_eq inside]
  have outCell := parts.value?_running wellFormed isMean named shown ints member extended inside has
  have spreadCell := parts.value?_broadcast spreads member inside
  have summaryCell := parts.value?_output member there
  rw [keyed, Option.elim_some] at spreadCell
  rw [own] at spreadCell summaryCell
  have stays : ∀ {cell : Cell}, integersUpTo table clause.groupBy field row ≠ [] →
      cell.kind = .float →
        Column.coerce (Column.lossyKind (order.map fun key =>
          aggregateOf table bound (keyRows table columns key))) cell = cell := by
    intro cell some isFloat
    have joined := lossyKind_averages wellFormed isMean named shown ints inOrder (by
      rw [own, kind_average, if_neg some])
    rw [joined, ← isFloat, Column.coerce_kind]
  refine ⟨place, ?_, ?_, spreadCell.trans summaryCell.symm, fun some => ?_, ?_⟩
  · rw [parts.rows]
    exact (List.getElem?_eq_some_iff.mp there).1
  · rw [parts.keysAt wellFormed (Nat.zero_lt_of_lt inside) there]
    exact ((rowKey_eq_some_iff wellFormed parts.found inside).mp keyed).2.symm
  · rw [summaryCell, stays some]
    rw [kind_average, if_neg some]
  · rw [outCell, summaryCell, Option.some.injEq]
    by_cases empty : integersUpTo table clause.groupBy field row = []
    · rw [empty]
      exact iff_of_true rfl rfl
    · rw [stays empty, stays empty]
      · rw [kind_average, if_neg empty]
      · rw [kind_keptAverage, if_neg empty]

end

end Groups

/-- Averages of integers.  A running average can always be computed, and on every row with keys it
is the one that keeps the sum of the integers up to the row, while the reducer adds their nearest
floats.  On the last row of a group a summary and a broadcast show what the reducer makes of the
group, and the running average is the same exactly when both sums give the same.  They do when
nothing is lost before the last addition, as when the integers are small altogether. -/
theorem averages_of_integers (table : Table) (clause : StatsClause) (bounds : List BoundAggregate)
    (bound : BoundAggregate) (field : String) (column : Column) (wellFormed : table.WellFormed)
    (bind : clause.bind table = .ok bounds) (member : bound ∈ bounds)
    (isMean : bound.function = .mean) (named : bound.field = some field)
    (shown : table.column? field = some column) (ints : column.kind = .int) :
    (∃ grouping cells, Grouping.ofTable table clause.groupBy = .ok grouping ∧
      runningCells table grouping bound = .ok cells ∧
      IsRunningAverage table clause.groupBy field cells ∧
      ∀ out, running table clause = .ok out →
        out.column? bound.output = some (Column.lossy cells)) ∧
    (∀ row < table.rows,
      Reducer.mean (fieldCells table field (table.rowsLike clause.groupBy row (row + 1))) =
        .ok (average (integersUpTo table clause.groupBy field row))) ∧
    (∀ summary, summarize table clause = .ok summary →
      ∃ out spread, running table clause = .ok out ∧ broadcast table clause = .ok spread ∧
        ∀ row < table.rows, table.HasKeys clause.groupBy row →
          table.IsLastLike clause.groupBy row →
            ∃ place < summary.rows,
              summary.keysAt clause.groupBy place = table.keysAt clause.groupBy row ∧
              spread.value? bound.output row = summary.value? bound.output place ∧
              (integersUpTo table clause.groupBy field row ≠ [] →
                summary.value? bound.output place =
                  some (average (integersUpTo table clause.groupBy field row))) ∧
              (out.value? bound.output row = summary.value? bound.output place ↔
                keptAverage (integersUpTo table clause.groupBy field row) =
                  average (integersUpTo table clause.groupBy field row))) ∧
    (∀ values, values ≠ [] → StaysInRange values →
      keptAverage values = .float
        (Cell.floatOfInt (Int64.ofInt (total values)) / Float.ofNat values.length)) ∧
    (∀ values, AddsExactly values → keptAverage values = average values) ∧
    ∀ values : List Int64, (values.map fun value => value.toInt.natAbs).sum ≤ 2 ^ 53 →
      AddsExactly values := by
  have checked := StatsClause.bind_eq_ok bind
  refine ⟨?_, fun row inside => mean_of_integral (integral_rowsLike wellFormed shown ints inside),
    ?_, fun _ => keptAverage_of_stays, fun _ => keptAverage_eq_average,
    fun _ => addsExactly_of_small⟩
  · obtain ⟨grouping, grouped⟩ := exists_grouping checked.groups
    obtain ⟨cells, ran, kept⟩ := runningCells_mean wellFormed grouped isMean named shown ints
      (checked.valid bound member)
    refine ⟨grouping, cells, grouped, ran, kept, fun out finished => ?_⟩
    have extended := extends_of_running wellFormed bind grouped finished
    obtain ⟨other, otherRan, isColumn⟩ := extended.outputs bound member
    cases ran.symm.trans otherRan
    exact isColumn
  · intro summary summarized
    obtain ⟨_, grouping, columns, distinct, order, parts⟩ := exists_summarized summarized
    cases bind.symm.trans parts.bind
    obtain ⟨out, finished, extended⟩ := parts.exists_running wellFormed
    obtain ⟨spread, spreadOut, spreads⟩ := parts.exists_broadcast
    refine ⟨out, spread, finished, spreadOut, fun row inside has last => ?_⟩
    exact parts.value?_mean wellFormed isMean named shown ints member extended spreads inside has
      last

/-- Response times of two hosts. -/
def responses : Table :=
  ⟨3, [("host", ⟨.text, [.text "a", .text "b", .text "a"]⟩),
    ("ms", ⟨.int, [.int 10, .int 7, .int 21]⟩)]⟩

/-- The clause `avg(ms) as pace by host`. -/
def paces : StatsClause :=
  ⟨[⟨.mean, "avg", some "ms", some "pace"⟩], ["host"]⟩

/-- The last response of host `a` shows the average of the host. -/
theorem averages_of_integers_responses :
    ∃ out summary, running responses paces = .ok out ∧ summarize responses paces = .ok summary ∧
      ∃ place < summary.rows,
        out.value? "pace" 2 = summary.value? "pace" place ∧
        summary.value? "pace" place = some (.float (31 / 2)) := by
  let grouping := Grouping.ofColumns 3 [⟨.text, [.text "a", .text "b", .text "a"]⟩]
  have sorted : grouping.sorted = [([.text "a"], [0, 2]), ([.text "b"], [1])] :=
    List.mergeSort_of_pairwise (by decide +kernel)
  have bind : paces.bind responses = .ok [⟨.mean, some "ms", "pace"⟩] := rfl
  have summarized : ∃ summary, summarize responses paces = .ok summary := by
    have grouped : Grouping.ofTable responses paces.groupBy = .ok grouping := rfl
    rw [summarize_eq bind grouped, sorted]
    exact ⟨_, rfl⟩
  obtain ⟨summary, isSummary⟩ := summarized
  obtain ⟨-, -, onLast, -, agree, small⟩ := averages_of_integers responses paces _ _ "ms" _
    (by decide) bind List.mem_cons_self rfl rfl rfl rfl
  obtain ⟨out, spread, finished, -, shows⟩ := onLast summary isSummary
  obtain ⟨place, inside, -, -, shown, same⟩ := shows 2 (by decide) (by decide)
    (fun later bounded after => absurd after (Nat.not_lt.mpr (Nat.le_of_lt_succ bounded)))
  refine ⟨out, summary, finished, isSummary, place, inside, same.mpr ?_, ?_⟩
  · apply agree
    apply small
    decide
  · rw [shown (by decide)]
    decide +kernel

/-- Integers whose sum needs 54 bits on the way. -/
def drift : Table :=
  ⟨3, [("x", ⟨.int, [.int 9007199254740992, .int 1, .int 1]⟩)]⟩

/-- The clause `avg(x) as m`. -/
def drifting : StatsClause :=
  ⟨[⟨.mean, "avg", some "x", some "m"⟩], []⟩

/-- The running average of the last row is not the average of the rows. -/
theorem running_drift :
    (running drift drifting).toOption.bind (·.value? "m" 2) =
        some (.float (Cell.floatOfInt 9007199254740994 / Float.ofNat 3)) ∧
      Reducer.mean (fieldCells drift "x" (drift.rowsLike [] 2 3)) =
        .ok (.float (Cell.floatOfInt 9007199254740992 / Float.ofNat 3)) ∧
      Cell.float (Cell.floatOfInt 9007199254740994 / Float.ofNat 3) ≠
        .float (Cell.floatOfInt 9007199254740992 / Float.ofNat 3) := by
  exact ⟨by decide +kernel, by decide +kernel, by decide +kernel⟩

end Stats

end LogPipe
