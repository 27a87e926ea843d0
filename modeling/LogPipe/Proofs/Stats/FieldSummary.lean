import LogPipe.Proofs.Cell.Sorting
import LogPipe.Proofs.Stats.Orderless
import LogPipe.Proofs.Stats.Preservation
import LogPipe.Proofs.Stats.Summary
import LogPipe.Proofs.Stats.Tallies
import LogPipe.Stats.FieldSummary

/-!
# The values of a field summary

The tallies of cells are in the order in which their keys were first seen.  The stable sort by
counts ranks them, and a summary of a column lists the first of the ranking, with their counts.
-/

namespace LogPipe

namespace Tally

/-! ## Rankings -/

/-- The tallies of cells from the most to the least frequent; of equally frequent ones the one
that is seen first comes first. -/
structure Ranking (cells : List Cell) (tallies : List Tally) : Prop where
  complete : ∀ cell ∈ cells, cell.key ∈ tallies.map Tally.key
  counts : ∀ tally ∈ tallies, tally.Counts cells
  ordered : tallies.Pairwise fun higher lower => lower.count < higher.count ∨
    lower.count = higher.count ∧ higher.seenAt cells < lower.seenAt cells

theorem ranking_ranked (cells : List Cell) : Ranking cells (Stats.ranked cells) := by
  have tallies := tallies_ofCells cells
  have perm : (Stats.ranked cells).Perm (ofCells cells) := List.mergeSort_perm _ _
  refine ⟨?_, ?_, ?_⟩
  · intro cell member
    rw [(perm.map Tally.key).mem_iff, (keys_ofCells cells).2]
    exact List.mem_map_of_mem member
  · exact fun tally member => tallies.counts tally (perm.mem_iff.mp member)
  · have sorted := @pairwise_mergeSort_of_pairwise Tally
      (fun left right => decide (right.count ≤ left.count)) ?_ ?_ _ _ tallies.ordered
    · refine sorted.imp fun {higher lower} ⟨least, stable⟩ => ?_
      rw [decide_eq_true_eq] at least stable
      rcases Nat.lt_or_eq_of_le least with less | same
      · exact Or.inl less
      · exact Or.inr ⟨same, stable (Nat.le_of_eq same.symm)⟩
    · intro first second third lower upper
      rw [decide_eq_true_eq] at *
      exact Nat.le_trans upper lower
    · intro first second
      rw [Bool.or_eq_true, decide_eq_true_eq, decide_eq_true_eq]
      exact Nat.le_total _ _

namespace Ranking

variable {cells : List Cell} {tallies : List Tally} (ranking : Ranking cells tallies)

include ranking

/-- No key has two tallies. -/
theorem nodup : (tallies.map Tally.key).Nodup := by
  refine List.pairwise_map.mpr (ranking.ordered.imp_of_mem ?_)
  intro higher lower isHigher isLower apart same
  have sameCount : lower.count = higher.count := by
    rw [(ranking.counts lower isLower).count, (ranking.counts higher isHigher).count, same]
  rcases apart with less | ⟨-, earlier⟩
  · exact absurd sameCount (Nat.ne_of_lt less)
  · rw [seenAt, seenAt, same] at earlier
    exact absurd earlier (Nat.lt_irrefl _)

/-- The tallies count every cell once. -/
theorem sum_counts : (tallies.map Tally.count).sum = cells.length := by
  have members : ∀ key, key ∈ tallies.map Tally.key ↔ key ∈ cells.map Cell.key := by
    intro key
    constructor
    · intro isKey
      obtain ⟨tally, member, rfl⟩ := List.mem_map.mp isKey
      exact (ranking.counts tally member).key_mem
    · intro isKey
      obtain ⟨cell, member, rfl⟩ := List.mem_map.mp isKey
      exact ranking.complete cell member
  have counts : tallies.map Tally.count =
      (tallies.map Tally.key).map fun key => (cells.map Cell.key).count key := by
    rw [List.map_map]
    exact List.map_congr_left fun tally member => (ranking.counts tally member).count
  rw [counts, sum_count_of_mem_iff ranking.nodup members, List.length_map]

end Ranking

end Tally

namespace Stats

open Reducer Tally

/-! ## Rows of a summary -/

section Columns

variable {limit : Nat} {name : String} {column : Column} {columns : List (String × Column)}

theorem exists_number {cell : Cell} (numeric : cell.kind = .int ∨ cell.kind = .float) :
    ∃ number, Number.ofCell cell = .ok number := by
  cases cell with
  | int value => exact ⟨_, rfl⟩
  | float x => exact ⟨_, rfl⟩
  | _ => rcases numeric with same | same <;> cases same

/-- The numbers of a column have an average. -/
theorem exists_mean (uniform : column.Uniform)
    (numeric : column.kind = .int ∨ column.kind = .float) :
    ∃ cell, mean (present column.cells) = .ok cell := by
  have each : ¬∃ error, numbers (present column.cells) = .error error := by
    rw [numbers, present_present, Number.ofCells_error_iff]
    rintro ⟨cell, member, error, failed⟩
    obtain ⟨inCells, isPresent⟩ := List.mem_filter.mp member
    have kind : cell.kind = column.kind :=
      kind_of_present (uniform cell inCells) (Bool.not_eq_true' _ |>.mp isPresent)
    obtain ⟨number, read⟩ := exists_number (kind ▸ numeric)
    rw [read] at failed
    cases failed
  obtain ⟨found, read⟩ := Except.exists_ok_of_not_error each
  exact ⟨_, by rw [mean, read]; rfl⟩

/-- Every column of a well-formed table has a summary. -/
theorem exists_summarizeColumn (uniform : column.Uniform) (limit : Nat) (name : String) :
    ∃ greatest least average spread counted, summarizeColumn limit name column = .ok
      [.text name, count column.cells, distinctCount column.cells,
        .int (if isExact limit (present column.cells) then 1 else 0), greatest, least, average,
        spread, counted, topValues limit (present column.cells)] := by
  by_cases numeric : column.kind = .int ∨ column.kind = .float
  · obtain ⟨average, found⟩ := exists_mean uniform numeric
    have isNumeric : (column.kind == .int || column.kind == .float) = true := by simpa using numeric
    simp only [summarizeColumn, isNumeric, if_true, found]
    exact ⟨_, _, _, _, _, rfl⟩
  · have notNumeric : (column.kind == .int || column.kind == .float) = false := by
      simpa using numeric
    simp only [summarizeColumn, notNumeric]
    exact ⟨_, _, _, _, _, rfl⟩

/-- The cells of a summary in the row of a column. -/
def rowOf (limit : Nat) (entry : String × Column) : List Cell :=
  (summarizeColumn limit entry.1 entry.2).toOption.getD []

theorem rowOf_eq (uniform : column.Uniform) (limit : Nat) (name : String) :
    ∃ greatest least average spread counted, rowOf limit (name, column) =
      [.text name, count column.cells, distinctCount column.cells,
        .int (if isExact limit (present column.cells) then 1 else 0), greatest, least, average,
        spread, counted, topValues limit (present column.cells)] := by
  obtain ⟨greatest, least, average, spread, counted, done⟩ :=
    exists_summarizeColumn uniform limit name
  exact ⟨greatest, least, average, spread, counted, by rw [rowOf, done]; rfl⟩

theorem summarizeColumns_eq
    (uniform : ∀ entry ∈ columns, entry.2.Uniform) (limit : Nat) :
    summarizeColumns limit columns = .ok (columns.map (rowOf limit)) := by
  induction columns with
  | nil => rfl
  | cons entry columns induction =>
      obtain ⟨name, column⟩ := entry
      rw [List.forall_mem_cons] at uniform
      obtain ⟨greatest, least, average, spread, counted, done⟩ :=
        exists_summarizeColumn uniform.1 limit name
      rw [summarizeColumns, induction uniform.2, List.map_cons, rowOf, done]
      rfl

/-- Lists and missing cells stay as they are. -/
theorem cells_lossy_of_lists {cells : List Cell}
    (lists : ∀ cell ∈ cells, cell = .null ∨ cell.kind = .list) :
    (Column.lossy cells).cells = cells := by
  by_cases someList : .list ∈ cells.map Cell.kind
  · have isList : Column.lossyKind cells = .list := Kind.joinAll_eq_list_iff.mpr someList
    rw [Column.lossy_eq, isList]
    refine (List.map_congr_left fun cell member => ?_).trans (List.map_id cells)
    rcases lists cell member with rfl | kind
    · rfl
    · cases cell with
      | list items => rfl
      | _ => cases kind
  · apply @Column.cells_lossy_of_kind _ .null
    intro cell member
    rcases lists cell member with rfl | kind
    · rfl
    · exact absurd (kind ▸ List.mem_map_of_mem member) someList

end Columns

/-- One cell of a summary in the row of a column. -/
def cellOf (limit index : Nat) (entry : String × Column) : Cell :=
  (rowOf limit entry)[index]?.getD .null

/-- The cells of a column of a summary. -/
def summaryCells (table : Table) (limit index : Nat) : List Cell :=
  table.columns.map (cellOf limit index)

/-- The summary of a well-formed table. -/
def summaryOf (table : Table) (limit : Nat) : Table :=
  ⟨table.columns.length, summaryNames.zipIdx.map fun (name, index) =>
    (name, Column.lossy (summaryCells table limit index))⟩

section Tables

variable {table : Table}

theorem fieldSummary_eq (wellFormed : table.WellFormed) (limit : Nat) :
    fieldSummary table limit = .ok (summaryOf table limit) := by
  rw [fieldSummary, summarizeColumns_eq wellFormed.uniform limit]
  simp only [bind, Except.bind, pure, Except.pure, List.length_map, List.map_map]
  rfl

theorem column?_summaryOf {limit index : Nat} {name : String}
    (named : summaryNames[index]? = some name) :
    (summaryOf table limit).column? name =
      some (Column.lossy (summaryCells table limit index)) := by
  apply Table.column?_of_mem
  · rw [Table.names, summaryOf, List.map_map]
    exact (congrArg List.Nodup (List.zipIdx_map_fst 0 summaryNames)).mpr (by decide)
  · exact List.mem_map.mpr ⟨(name, index), List.mk_mem_zipIdx_iff_getElem?.mpr named, rfl⟩

theorem value?_summaryOf {limit index row : Nat} {name : String} {entry : String × Column}
    (named : summaryNames[index]? = some name)
    (kept : (Column.lossy (summaryCells table limit index)).cells = summaryCells table limit index)
    (there : table.columns[row]? = some entry) :
    (summaryOf table limit).value? name row = some (cellOf limit index entry) := by
  rw [Table.value?, column?_summaryOf named, Option.bind_some, Column.get?, kept, summaryCells,
    List.getElem?_map, there, Option.map_some]

/-- What a summary shows about the present cells of a column: a ranking of all their values, of
which it lists the first ones. -/
structure ShowsValues (summary : Table) (limit row : Nat) (name : String) (cells : List Cell)
    (tallies : List Tally) : Prop where
  ranking : Ranking cells tallies
  field : summary.value? "field" row = some (.text name)
  count : summary.value? "count" row = some (countCell cells.length)
  distinct : summary.value? "distinct_count" row = some (countCell tallies.length)
  exact : summary.value? "is_exact" row =
    some (.int (if tallies.length ≤ limit then 1 else 0))
  values : summary.value? "values" row =
    some (if min limit tallies.length = 0 then .null
      else .list ((tallies.take limit).map tallyText))
  total : tallies.length ≤ limit →
    ((tallies.take limit).map Tally.count).sum = cells.length

theorem topValues_eq (limit : Nat) (cells : List Cell) :
    topValues limit cells = if min limit (ranked cells).length = 0 then .null
      else .list (((ranked cells).take limit).map tallyText) := by
  rw [topValues, ← List.length_take]
  cases (ranked cells).take limit with
  | nil => rfl
  | cons first later => rfl

theorem length_ranked (cells : List Cell) :
    (ranked cells).length = (Tally.ofCells cells).length :=
  (List.mergeSort_perm _ _).length_eq

/-- The kinds of the cells of a row that have the same kind in every row. -/
theorem kinds_rowOf {entry : String × Column} (uniform : entry.2.Uniform) (limit : Nat) :
    (cellOf limit 0 entry).kind = .text ∧
      (∀ index ∈ [1, 2, 3], (cellOf limit index entry).kind = .int) ∧
      (cellOf limit 9 entry = .null ∨ (cellOf limit 9 entry).kind = .list) := by
  obtain ⟨name, column⟩ := entry
  obtain ⟨greatest, least, average, spread, counted, isRow⟩ := rowOf_eq uniform limit name
  simp only [cellOf, isRow]
  refine ⟨rfl, ?_, ?_⟩
  · simp only [List.forall_mem_cons]
    exact ⟨rfl, rfl, rfl, List.forall_mem_nil _⟩
  · simp only [List.getElem?_cons_succ, List.getElem?_cons_zero, Option.getD_some, topValues_eq]
    split
    · exact Or.inl rfl
    · exact Or.inr rfl

/-- Columns of texts, of numbers and of lists show the cells of their rows. -/
theorem cells_lossy_summaryCells (wellFormed : table.WellFormed) (limit : Nat) {index : Nat}
    (shown : index ∈ [0, 1, 2, 3, 9]) :
    (Column.lossy (summaryCells table limit index)).cells = summaryCells table limit index := by
  have kinds : ∀ entry ∈ table.columns, _ := fun entry member =>
    kinds_rowOf (wellFormed.uniform entry member) limit
  have numbers : index ∈ [1, 2, 3] →
      (Column.lossy (summaryCells table limit index)).cells = summaryCells table limit index := by
    intro isNumber
    apply @Column.cells_lossy_of_kind _ .int
    exact List.forall_mem_map.mpr fun entry member => (kinds entry member).2.1 index isNumber
  simp only [List.mem_cons, List.not_mem_nil, or_false] at shown numbers
  rcases shown with rfl | rfl | rfl | rfl | rfl
  · apply @Column.cells_lossy_of_kind _ .text
    exact List.forall_mem_map.mpr fun entry member => (kinds entry member).1
  · exact numbers (Or.inl rfl)
  · exact numbers (Or.inr (Or.inl rfl))
  · exact numbers (Or.inr (Or.inr rfl))
  · exact cells_lossy_of_lists
      (List.forall_mem_map.mpr fun entry member => (kinds entry member).2.2)

theorem showsValues_summaryOf (wellFormed : table.WellFormed) (limit : Nat) {row : Nat}
    {name : String} {column : Column} (there : table.columns[row]? = some (name, column)) :
    ShowsValues (summaryOf table limit) limit row name (present column.cells)
      (ranked (present column.cells)) := by
  have uniform := wellFormed.uniform (name, column) (List.mem_of_getElem? there)
  obtain ⟨greatest, least, average, spread, counted, isRow⟩ := rowOf_eq uniform limit name
  have ranking := ranking_ranked (present column.cells)
  have shows {index : Nat} {output : String} (named : summaryNames[index]? = some output)
      (shown : index ∈ [0, 1, 2, 3, 9]) :
      (summaryOf table limit).value? output row =
        some (cellOf limit index (name, column)) :=
    value?_summaryOf named (cells_lossy_summaryCells wellFormed limit shown) there
  simp only [cellOf, isRow] at shows
  refine ⟨ranking, @shows 0 _ rfl (by decide), @shows 1 _ rfl (by decide), ?_, ?_, ?_, ?_⟩
  · rw [@shows 2 _ rfl (by decide), length_ranked]
    rfl
  · rw [@shows 3 _ rfl (by decide)]
    simp only [isExact, decide_eq_true_eq]
    rfl
  · rw [@shows 9 _ rfl (by decide), ← topValues_eq]
    rfl
  · intro fits
    rw [List.take_of_length_le fits, ranking.sum_counts]

/-- A field summary is a histogram of every column.  It has one row for each column, in their
order, and lists the most frequent values of the column with their counts: the first ones of a
ranking of all of them.  The summary is exact when the list has room for all values, and then
their counts add up to the number of present cells. -/
theorem fieldSummary_ranks_values (table : Table) (wellFormed : table.WellFormed) (limit : Nat) :
    ∃ summary, fieldSummary table limit = .ok summary ∧
      summary.rows = table.columns.length ∧
      ∀ (row : Nat) (name : String) (column : Column),
        table.columns[row]? = some (name, column) →
          ∃ tallies, ShowsValues summary limit row name (present column.cells) tallies :=
  ⟨summaryOf table limit, fieldSummary_eq wellFormed limit, rfl,
    fun _ _ _ there => ⟨_, showsValues_summaryOf wellFormed limit there⟩⟩

/-- Answers of two hosts, one of them without a status. -/
def answers : Table :=
  ⟨4, [("status", ⟨.int, [.int 200, .int 404, .null, .int 404]⟩),
    ("host", ⟨.text, [.text "b", .text "a", .text "a", .text "b"]⟩)]⟩

/-- The statuses and the hosts are ranked, each by the first cell and the number of its kind. -/
theorem fieldSummary_ranks_values_answers :
    ∃ summary statuses hosts, fieldSummary answers 1 = .ok summary ∧ summary.rows = 2 ∧
      ShowsValues summary 1 0 "status" [.int 200, .int 404, .int 404] statuses ∧
      ShowsValues summary 1 1 "host" [.text "b", .text "a", .text "a", .text "b"] hosts := by
  obtain ⟨summary, done, rows, shows⟩ := fieldSummary_ranks_values answers (by decide) 1
  obtain ⟨statuses, shownStatuses⟩ := shows 0 _ _ rfl
  obtain ⟨hosts, shownHosts⟩ := shows 1 _ _ rfl
  exact ⟨summary, statuses, hosts, done, rows, shownStatuses, shownHosts⟩

end Tables

end Stats

end LogPipe
