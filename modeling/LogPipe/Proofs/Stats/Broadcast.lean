import LogPipe.Proofs.Stats.Summary

/-!
# Broadcasting a summary

A broadcast shows on every row what a summary shows for the group of the row.  Both
aggregate the same groups of the same table, one listed in the order of the keys and
the other spread over the rows with gaps, and a lossy column makes the same of a
cell in either list because the same kinds occur in both.
-/

namespace LogPipe.Stats

open Grouping

/-- The cells that are spread over the rows. -/
theorem broadcastCells_of_ok {table : Table} {grouping : Grouping} {columns : List Column}
    {distinct : List (List Key)} {bound : BoundAggregate}
    (partitions : grouping.Partitions table.rows (rowKey columns) (rowCells columns) distinct)
    (each : ∀ rows ∈ grouping.members, ∃ cell, aggregateRows table rows bound = .ok cell) :
    broadcastCells table grouping bound =
      .ok ((List.range table.rows).map fun row =>
        (rowKey columns row).elim .null fun key =>
          aggregateOf table bound (keyRows table columns key)) := by
  have perGroup := aggregateGroups_eq_ok_iff.mpr ⟨each, rfl⟩
  rw [broadcastCells, perGroup]
  exact congrArg Except.ok (partitions.spread (aggregateOf table bound))

namespace Summarized

variable {table summary : Table} {clause : StatsClause} {bounds : List BoundAggregate}
  {grouping : Grouping} {columns : List Column} {distinct order : List (List Key)}

/-- What can be summarized can be broadcast. -/
theorem broadcastCells
    (parts : Summarized table summary clause bounds grouping columns distinct order)
    {bound : BoundAggregate} (member : bound ∈ bounds) :
    Stats.broadcastCells table grouping bound =
      .ok ((List.range table.rows).map fun row =>
        (rowKey columns row).elim .null fun key =>
          aggregateOf table bound (keyRows table columns key)) := by
  apply broadcastCells_of_ok parts.partitions
  intro rows inMembers
  rw [parts.partitions.members] at inMembers
  obtain ⟨key, inDistinct, rfl⟩ := List.mem_map.mp inMembers
  exact parts.aggregated bound member key (parts.reordered.mem_iff.mpr inDistinct)

/-- One cell per group and one cell per row are coerced alike. -/
theorem lossyKind_spread
    (parts : Summarized table summary clause bounds grouping columns distinct order)
    (someRow : 0 < table.rows) (value : List Key → Cell) :
    Column.lossyKind ((List.range table.rows).map fun row =>
        (rowKey columns row).elim .null value) =
      Column.lossyKind (order.map value) := by
  apply Column.lossyKind_congr
  · intro cell member
    obtain ⟨row, inRange, rfl⟩ := List.mem_map.mp member
    cases keyed : rowKey columns row with
    | none => exact Or.inl rfl
    | some key =>
        have listed := parts.partitions.covers row (List.mem_range.mp inRange) key keyed
        exact Or.inr (List.mem_map_of_mem (parts.reordered.mem_iff.mpr listed))
  · intro cell member
    obtain ⟨key, inOrder, rfl⟩ := List.mem_map.mp member
    obtain ⟨row, inside, keyed⟩ := parts.occupied someRow inOrder
    refine Or.inr (List.mem_map.mpr ⟨row, List.mem_range.mpr inside, ?_⟩)
    rw [keyed]
    rfl

/-- A broadcast can be made, and it adds the spread cells. -/
theorem exists_broadcast
    (parts : Summarized table summary clause bounds grouping columns distinct order) :
    ∃ out, broadcast table clause = .ok out ∧
      Extends (Stats.broadcastCells table grouping) table bounds out := by
  have checked := StatsClause.bind_eq_ok parts.bind
  have sized : ∀ bound ∈ bounds, ∃ cells,
      Stats.broadcastCells table grouping bound = .ok cells ∧ cells.length = table.rows := by
    intro bound member
    refine ⟨_, parts.broadcastCells member, ?_⟩
    rw [List.length_map, List.length_range]
  obtain ⟨out, added, extended⟩ := addColumns_of_ok checked.outputs sized
  refine ⟨out, ?_, extended⟩
  rw [broadcast, parts.bind, parts.grouped]
  exact added

/-- A broadcast coerces the aggregate of the key of a row as the summary does. -/
theorem value?_broadcast
    (parts : Summarized table summary clause bounds grouping columns distinct order)
    {out : Table} (extended : Extends (Stats.broadcastCells table grouping) table bounds out)
    {bound : BoundAggregate} (member : bound ∈ bounds) {row : Nat} (inside : row < table.rows) :
    out.value? bound.output row =
      some (Column.coerce
        (Column.lossyKind (order.map fun key =>
          aggregateOf table bound (keyRows table columns key)))
        ((rowKey columns row).elim .null fun key =>
          aggregateOf table bound (keyRows table columns key))) := by
  obtain ⟨cells, computed, shown⟩ := extended.outputs bound member
  rw [parts.broadcastCells member] at computed
  cases computed
  have someRow : 0 < table.rows := by omega
  rw [Table.value?, shown, Option.bind_some, Column.get?_lossy, List.getElem?_map,
    List.getElem?_range inside, parts.lossyKind_spread someRow]
  rfl

end Summarized

/-- A broadcast is a summary written back onto the rows: every row shows the cell of the
one row of the summary that has its keys, rows without keys show a missing cell, and
columns that are no outputs stay as they are. -/
theorem broadcast_of_summarize (table summary : Table) (clause : StatsClause)
    (wellFormed : table.WellFormed) (summarized : summarize table clause = .ok summary) :
    ∃ out bounds, broadcast table clause = .ok out ∧ clause.bind table = .ok bounds ∧
      out.rows = table.rows ∧
      (∀ bound ∈ bounds, ∀ row < table.rows,
        (table.HasKeys clause.groupBy row →
          ∃ place < summary.rows,
            (∀ other < summary.rows,
              summary.keysAt clause.groupBy other = table.keysAt clause.groupBy row ↔
                other = place) ∧
            ∃ cell, out.value? bound.output row = some cell ∧
              summary.value? bound.output place = some cell) ∧
        (¬table.HasKeys clause.groupBy row →
          ∃ cell, out.value? bound.output row = some cell ∧ cell.isMissing = true)) ∧
      ∀ name, name ∉ bounds.map BoundAggregate.output →
        out.column? name = table.column? name := by
  obtain ⟨bounds, grouping, columns, distinct, order, parts⟩ := exists_summarized summarized
  obtain ⟨out, broadcasted, extended⟩ := parts.exists_broadcast
  refine ⟨out, bounds, broadcasted, parts.bind, extended.rows, ?_, extended.others⟩
  intro bound member row inside
  have outCell := parts.value?_broadcast extended member inside
  cases keyed : rowKey columns row with
  | none =>
      have noKeys := (rowKey_eq_none_iff wellFormed parts.found inside).mp keyed
      refine ⟨fun has => absurd has noKeys, fun _ => ⟨_, outCell, ?_⟩⟩
      rw [keyed]
      exact Column.isMissing_coerce_null _
  | some key =>
      have someRow : 0 < table.rows := by omega
      obtain ⟨has, sameKeys⟩ := (rowKey_eq_some_iff wellFormed parts.found inside).mp keyed
      have inOrder : key ∈ order :=
        parts.reordered.mem_iff.mpr (parts.partitions.covers row inside key keyed)
      obtain ⟨place, there⟩ := List.getElem?_of_mem inOrder
      have placed : place < summary.rows := by
        rw [parts.rows]
        exact (List.getElem?_eq_some_iff.mp there).1
      refine ⟨fun _ => ⟨place, placed, ?_, ?_⟩, fun noKeys => absurd has noKeys⟩
      · intro other otherInside
        rw [sameKeys]
        exact parts.keysAt_eq_iff wellFormed someRow there otherInside
      · rw [keyed] at outCell
        exact ⟨_, outCell, parts.value?_output member there⟩

/-- Events of two hosts and one event of no host. -/
def hostEvents : Table :=
  ⟨4, [("host", ⟨.text, [.text "a", .null, .text "b", .text "a"]⟩),
    ("n", ⟨.int, [.int 1, .int 2, .int 3, .int 4]⟩)]⟩

/-- The clause `sum(n) as total by host`. -/
def hostTotals : StatsClause :=
  ⟨[⟨.sum, "sum", some "n", some "total"⟩], ["host"]⟩

/-- The last event shows the total of host `a`, the first row of the summary. -/
theorem broadcast_of_summarize_sample :
    ∃ out, broadcast hostEvents hostTotals = .ok out ∧
      out.value? "total" 3 = some (.int 5) := by
  let grouping := Grouping.ofColumns 4 [⟨.text, [.text "a", .null, .text "b", .text "a"]⟩]
  have sorted : grouping.sorted = [([.text "a"], [0, 3]), ([.text "b"], [2])] :=
    List.mergeSort_of_pairwise (by decide +kernel)
  have summarized : summarize hostEvents hostTotals =
      .ok ⟨2, [("host", ⟨.text, [.text "a", .text "b"]⟩),
        ("total", ⟨.int, [.int 5, .int 3]⟩)]⟩ := by
    change (do
      let columns ← aggregateColumns hostEvents (grouping.sorted.map Prod.snd)
        [⟨.sum, some "n", "total"⟩]
      (Table.ofRows grouping.sorted.length
        (keyColumns ["host"] (grouping.sorted.map Prod.fst) ++ columns)).mapError .table) = _
    rw [sorted]
    rfl
  obtain ⟨out, bounds, given, bind, -, cells, -⟩ :=
    broadcast_of_summarize hostEvents _ hostTotals (by decide) summarized
  cases bind
  obtain ⟨place, -, only, cell, shown, same⟩ :=
    (cells _ List.mem_cons_self 3 (by decide)).1 (by decide)
  have first : 0 = place := (only 0 (by decide)).mp (by decide)
  subst first
  cases same
  exact ⟨out, given, shown⟩

end LogPipe.Stats
