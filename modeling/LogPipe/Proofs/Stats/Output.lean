import LogPipe.Proofs.Column.Lossy
import LogPipe.Proofs.Except
import LogPipe.Proofs.Table.Columns
import LogPipe.Stats.Clause
import LogPipe.Stats.Summary

/-!
# Bound clauses and their output columns

A clause that binds to a table names only columns that the table has, counts rows
where it names none, and gives every function an output of its own.

A summary and the forms that keep the rows put their cells into lossy columns, one for
each output.  The outputs are distinct, so each of them shows the cells of its own
function, and every other column of a table is left alone.
-/

namespace LogPipe

/-- What a table promises to a function that is bound to it. -/
structure BoundAggregate.Valid (table : Table) (bound : BoundAggregate) : Prop where
  column : ∀ field, bound.field = some field → table.hasColumn field = true
  count : bound.field = none → bound.function = .count

namespace StatsClause

theorem bindAggregate_valid {table : Table} {groupBy : List String} {aggregate : Aggregate}
    {bounds : List BoundAggregate} (bound : bindAggregate table groupBy aggregate = .ok bounds) :
    ∀ entry ∈ bounds, entry.Valid table := by
  rw [bindAggregate] at bound
  split at bound
  · cases bound
    intro entry member
    obtain ⟨name, isName, rfl⟩ := List.mem_map.mp member
    refine ⟨?_, fun none => nomatch none⟩
    intro field same
    cases same
    exact Table.column?_isSome_iff.mpr (List.mem_filter.mp isName).1
  · split at bound
    · cases bound
    · next field _ _ has =>
        cases bound
        intro entry member
        cases List.mem_singleton.mp member
        refine ⟨?_, fun none => nomatch none⟩
        intro other same
        cases same
        simpa using has
  · split at bound
    · next counts =>
        cases bound
        intro entry member
        cases List.mem_singleton.mp member
        exact ⟨fun field some => (nomatch some), fun _ => by simpa using counts⟩
    · cases bound

theorem bindAggregates_valid {table : Table} {groupBy : List String}
    {aggregates : List Aggregate} {bounds : List BoundAggregate}
    (bound : bindAggregates table groupBy aggregates = .ok bounds) :
    ∀ entry ∈ bounds, entry.Valid table := by
  induction aggregates generalizing bounds with
  | nil =>
      cases bound
      exact fun entry member => absurd member List.not_mem_nil
  | cons aggregate aggregates induction =>
      rw [bindAggregates] at bound
      obtain ⟨found, first, afterFirst⟩ := Except.bind_eq_ok_iff.mp bound
      obtain ⟨later, rest, finished⟩ := Except.bind_eq_ok_iff.mp afterFirst
      cases finished
      intro entry member
      rcases List.mem_append.mp member with here | there
      · exact bindAggregate_valid first entry here
      · exact induction rest entry there

theorem nodup_of_firstRepeated {seen names : List String}
    (none : firstRepeated seen names = none) :
    names.Nodup ∧ ∀ name ∈ seen, name ∉ names := by
  induction names generalizing seen with
  | nil => exact ⟨List.nodup_nil, fun name _ member => absurd member List.not_mem_nil⟩
  | cons name names induction =>
      simp only [firstRepeated] at none
      split at none
      · cases none
      · next fresh =>
          have unseen : name ∉ seen := by simpa using fresh
          obtain ⟨distinct, apart⟩ := induction none
          refine ⟨List.nodup_cons.mpr ⟨apart name List.mem_cons_self, distinct⟩, ?_⟩
          intro other inSeen member
          rcases List.mem_cons.mp member with rfl | later
          · exact unseen inSeen
          · exact apart other (List.mem_cons_of_mem name inSeen) later

/-- What binding has checked. -/
structure Bound (clause : StatsClause) (table : Table) (bounds : List BoundAggregate) :
    Prop where
  groups : ∀ name ∈ clause.groupBy, table.hasColumn name = true
  valid : ∀ bound ∈ bounds, bound.Valid table
  outputs : (bounds.map BoundAggregate.output).Nodup

theorem bind_eq_ok {clause : StatsClause} {table : Table} {bounds : List BoundAggregate}
    (bound : clause.bind table = .ok bounds) : clause.Bound table bounds := by
  rw [bind] at bound
  split at bound
  · cases bound
  · next nothingMissing =>
      obtain ⟨entries, found, checked⟩ := Except.bind_eq_ok_iff.mp bound
      split at checked
      · cases checked
      · next noneRepeated =>
          cases checked
          refine ⟨?_, bindAggregates_valid found, (nodup_of_firstRepeated noneRepeated).1⟩
          intro name member
          have has := List.find?_eq_none.mp nothingMissing name member
          simpa using has

end StatsClause

/-! ## Output columns -/

namespace Stats

variable {table : Table} {bound : BoundAggregate} {bounds : List BoundAggregate}

/-- The cells of a field at some rows. -/
def fieldCells (table : Table) (field : String) (rows : List Nat) : List Cell :=
  rows.filterMap (table.value? field)

theorem fieldCells_eq (wellFormed : table.WellFormed) {field : String} {column : Column}
    (shown : table.column? field = some column) {rows : List Nat}
    (inside : ∀ row ∈ rows, row < table.rows) :
    fieldCells table field rows = rows.map column.cellAt := by
  induction rows with
  | nil => rfl
  | cons row rows induction =>
      have here := wellFormed.value?_eq shown (inside row List.mem_cons_self)
      have later := induction fun other member => inside other (List.mem_cons_of_mem row member)
      rw [fieldCells] at later
      rw [fieldCells, List.filterMap_cons, here, later]
      rfl

/-- A function of a field reduces the cells of the field. -/
theorem aggregateRows_field (wellFormed : table.WellFormed) {field : String} {column : Column}
    (named : bound.field = some field) (shown : table.column? field = some column)
    {rows : List Nat} (inside : ∀ row ∈ rows, row < table.rows) :
    aggregateRows table rows bound =
      (bound.function.reduce (fieldCells table field rows)).mapError .cell := by
  simp only [aggregateRows, named, Table.require_eq_ok_iff.mpr shown,
    fieldCells_eq wellFormed shown inside]

/-- The aggregate of some rows where it exists. -/
def aggregateOf (table : Table) (bound : BoundAggregate) (rows : List Nat) : Cell :=
  (aggregateRows table rows bound).toOption.getD .null

/-- Groups are aggregated one by one. -/
theorem aggregateGroups_eq_ok_iff {groups : List (List Nat)} {cells : List Cell} :
    aggregateGroups table bound groups = .ok cells ↔
      (∀ rows ∈ groups, ∃ cell, aggregateRows table rows bound = .ok cell) ∧
        cells = groups.map (aggregateOf table bound) := by
  induction groups generalizing cells with
  | nil =>
      constructor
      · intro aggregated
        cases aggregated
        exact ⟨fun rows member => absurd member List.not_mem_nil, rfl⟩
      · rintro ⟨-, rfl⟩
        rfl
  | cons rows groups induction =>
      rw [aggregateGroups, List.forall_mem_cons, List.map_cons, Except.bind_eq_ok_iff]
      constructor
      · rintro ⟨cell, head, afterHead⟩
        obtain ⟨later, rest, finished⟩ := Except.bind_eq_ok_iff.mp afterHead
        cases finished
        obtain ⟨each, rfl⟩ := induction.mp rest
        have value : aggregateOf table bound rows = cell := by
          rw [aggregateOf, head]
          rfl
        exact ⟨⟨⟨cell, head⟩, each⟩, by rw [value]⟩
      · rintro ⟨⟨⟨cell, head⟩, each⟩, rfl⟩
        have value : aggregateOf table bound rows = cell := by
          rw [aggregateOf, head]
          rfl
        refine ⟨cell, head, Except.bind_eq_ok_iff.mpr ⟨_, induction.mpr ⟨each, rfl⟩, ?_⟩⟩
        rw [value]
        rfl

/-- A summary has a column for each function. -/
theorem aggregateColumns_eq_ok_iff {groups : List (List Nat)} {columns : List (String × Column)} :
    aggregateColumns table groups bounds = .ok columns ↔
      (∀ bound ∈ bounds, ∀ rows ∈ groups, ∃ cell, aggregateRows table rows bound = .ok cell) ∧
        columns = bounds.map fun bound =>
          (bound.output, Column.lossy (groups.map (aggregateOf table bound))) := by
  induction bounds generalizing columns with
  | nil =>
      constructor
      · intro built
        cases built
        exact ⟨List.forall_mem_nil _, rfl⟩
      · rintro ⟨-, rfl⟩
        rfl
  | cons first rest induction =>
      rw [aggregateColumns, List.forall_mem_cons, List.map_cons, Except.bind_eq_ok_iff]
      constructor
      · rintro ⟨cells, head, afterHead⟩
        obtain ⟨later, tail, finished⟩ := Except.bind_eq_ok_iff.mp afterHead
        cases finished
        obtain ⟨each, rfl⟩ := aggregateGroups_eq_ok_iff.mp head
        obtain ⟨eachLater, rfl⟩ := induction.mp tail
        exact ⟨⟨each, eachLater⟩, rfl⟩
      · rintro ⟨⟨each, eachLater⟩, rfl⟩
        refine ⟨_, aggregateGroups_eq_ok_iff.mpr ⟨each, rfl⟩, ?_⟩
        exact Except.bind_eq_ok_iff.mpr ⟨_, induction.mpr ⟨eachLater, rfl⟩, rfl⟩

/-- A table to which the outputs of functions have been added. -/
structure Extends (cellsOf : BoundAggregate → Except StatsError (List Cell)) (table : Table)
    (bounds : List BoundAggregate) (out : Table) : Prop where
  rows : out.rows = table.rows
  outputs : ∀ bound ∈ bounds, ∃ cells, cellsOf bound = .ok cells ∧
    out.column? bound.output = some (Column.lossy cells)
  others : ∀ name, name ∉ bounds.map BoundAggregate.output →
    out.column? name = table.column? name

theorem column?_insertColumn (columns : List (String × Column)) (rows : Nat)
    (name other : String) (column : Column) :
    (Table.mk rows (Table.insertColumn columns name column)).column? other =
      if other = name then some column else columns.lookup other :=
  Table.lookup_insertColumn columns name other column

theorem addColumns_cons {cellsOf : BoundAggregate → Except StatsError (List Cell)}
    {cells : List Cell} (computed : cellsOf bound = .ok cells) :
    addColumns cellsOf table (bound :: bounds) = (do
      let next ← (table.withColumn bound.output (Column.lossy cells)).mapError .table
      addColumns cellsOf next bounds) := by
  rw [addColumns, computed]
  rfl

/-- Adding columns succeeds when every function does, and then each output shows the cells
of its function. -/
theorem addColumns_of_ok {cellsOf : BoundAggregate → Except StatsError (List Cell)}
    (distinct : (bounds.map BoundAggregate.output).Nodup)
    (sized : ∀ bound ∈ bounds, ∃ cells, cellsOf bound = .ok cells ∧
      cells.length = table.rows) :
    ∃ out, addColumns cellsOf table bounds = .ok out ∧ Extends cellsOf table bounds out := by
  induction bounds generalizing table with
  | nil =>
      exact ⟨table, rfl, rfl, fun bound member => absurd member List.not_mem_nil,
        fun _ _ => rfl⟩
  | cons first rest induction =>
      obtain ⟨cells, computed, length⟩ := sized first List.mem_cons_self
      rw [List.map_cons, List.nodup_cons] at distinct
      have size : (Column.lossy cells).size = table.rows := by
        rw [Column.size_lossy, length]
      let next : Table := ⟨table.rows,
        Table.insertColumn table.columns first.output (Column.lossy cells)⟩
      obtain ⟨out, added, extended⟩ : ∃ out, addColumns cellsOf next rest = .ok out ∧
          Extends cellsOf next rest out :=
        induction distinct.2 fun bound member => sized bound (List.mem_cons_of_mem first member)
      refine ⟨out, ?_, extended.rows, ?_, ?_⟩
      · rw [addColumns_cons computed, Table.withColumn_of_size size]
        exact added
      · intro bound member
        rcases List.mem_cons.mp member with rfl | inRest
        · refine ⟨cells, computed, ?_⟩
          rw [extended.others bound.output distinct.1, column?_insertColumn, if_pos rfl]
        · exact extended.outputs bound inRest
      · intro name unlisted
        rw [List.map_cons, List.mem_cons, not_or] at unlisted
        rw [extended.others name unlisted.2, column?_insertColumn, if_neg unlisted.1]
        rfl

/-- Adding columns fails when some function does. -/
theorem addColumns_of_error {cellsOf : BoundAggregate → Except StatsError (List Cell)}
    {error : StatsError} (member : bound ∈ bounds) (failed : cellsOf bound = .error error) :
    ∃ other, addColumns cellsOf table bounds = .error other := by
  induction bounds generalizing table with
  | nil => cases member
  | cons first rest induction =>
      cases computed : cellsOf first with
      | error other =>
          refine ⟨other, ?_⟩
          rw [addColumns, computed]
          rfl
      | ok cells =>
          rw [addColumns_cons computed]
          have inRest : bound ∈ rest := by
            rcases List.mem_cons.mp member with rfl | later
            · rw [computed] at failed
              cases failed
            · exact later
          cases widened : table.withColumn first.output (Column.lossy cells) with
          | error other => exact ⟨.table other, rfl⟩
          | ok next => exact induction inRest

end Stats

end LogPipe
