import LogPipe.Proofs.Filter.Equivalence
import LogPipe.Proofs.Filter.Selection
import LogPipe.Proofs.Table.Preservation

/-!
# Filters one after the other

What a filter means in a row depends only on the cells of the row, and whether it can be
applied depends only on the names of the columns.  So a filter that is applied to the rows
another one has kept is refused as it would be for the whole table, and otherwise keeps the
rows in which both are true.  Two filters in a row are one conjunction.
-/

namespace LogPipe.Filter

section Rows

variable {table : Table} (wellFormed : table.WellFormed) {positions : List Nat}
  (inside : ∀ position ∈ positions, position < table.rows) {place : Nat}
  (gathered : place < positions.length)

include wellFormed inside gathered

theorem rowCell_takeRows (name : String) :
    rowCell (table.takeRows positions) place name =
      rowCell table (Table.rowAt positions place) name := by
  rw [rowCell, rowCell, Table.value?_takeRows table name gathered]
  cases found : table.column? name with
  | none => rw [Table.value?, found]; rfl
  | some column =>
      rw [wellFormed.value?_eq found (inside _ (Table.rowAt_mem gathered))]
      rfl

theorem operandCell_takeRows (truth : Option Bool) (filter : Filter) :
    filter.operandCell (table.takeRows positions) place truth =
      filter.operandCell table (Table.rowAt positions place) truth := by
  cases filter with
  | column name => exact rowCell_takeRows wellFormed inside gathered name
  | literal | member | both | either | compare => rfl

/-- A filter means the same in a row wherever the row has been taken. -/
theorem meaning_takeRows (filter : Filter) :
    filter.meaning (table.takeRows positions) place =
      filter.meaning table (Table.rowAt positions place) := by
  induction filter with
  | literal constant => rfl
  | column name | member name =>
      simp only [meaning, rowCell_takeRows wellFormed inside gathered]
  | both left right leftSame rightSame | either left right leftSame rightSame =>
      rw [meaning, meaning, leftSame, rightSame]
  | compare operator left right leftSame rightSame =>
      simp only [meaning, leftSame, rightSame, operandCell_takeRows wellFormed inside gathered]

end Rows

/-- The rows in which a filter is true. -/
def keptRows (table : Table) (filter : Filter) : List Nat :=
  (List.range table.rows).filter fun row => decide (filter.meaning table row = some true)

theorem lt_of_mem_keptRows {table : Table} {filter : Filter} :
    ∀ row ∈ filter.keptRows table, row < table.rows :=
  fun _ member => List.mem_range.mp (List.mem_filter.mp member).1

theorem keptRows_both (table : Table) (first second : Filter) :
    (both first second).keptRows table =
      (first.keptRows table).filter fun row => decide (second.meaning table row = some true) := by
  rw [keptRows, keptRows, List.filter_filter]
  refine List.filter_congr fun row _ => ?_
  rw [← Bool.decide_and, decide_eq_decide, meaning, kleeneAnd_eq_some_true_iff, and_comm]

/-- The rows that a second filter keeps of those that a first one has kept. -/
theorem takeRows_keptRows {table : Table} (wellFormed : table.WellFormed) (first second : Filter) :
    (table.takeRows (first.keptRows table)).takeRows
        (second.keptRows (table.takeRows (first.keptRows table))) =
      table.takeRows ((both first second).keptRows table) := by
  have inOrder : second.keptRows (table.takeRows (first.keptRows table)) =
      (List.range (first.keptRows table).length).filter fun place =>
        decide (second.meaning table (Table.rowAt (first.keptRows table) place) = some true) := by
    refine List.filter_congr fun place member => ?_
    rw [meaning_takeRows wellFormed lt_of_mem_keptRows (List.mem_range.mp member)]
  rw [inOrder, keptRows_both]
  exact table.takeRows_filter _ fun row => decide (second.meaning table row = some true)

/-- A conjunction is refused for its left part first, as two filters in a row are. -/
theorem fault_both (clause : String) (names : List String) (first second : Filter) :
    (both first second).fault clause names =
      (first.fault clause names).or (second.fault clause names) := by
  simp only [fault, operandFault, literalFault, Option.or_none]

theorem Answers.unique {α : Type} {fault : Option FilterError} {value : α}
    {result other : Except FilterError α} (answers : Answers fault (· = value) result)
    (others : Answers fault (· = value) other) : result = other := by
  cases fault with
  | some error => exact Eq.trans answers (Eq.symm others)
  | none =>
      obtain ⟨_, rfl, rfl⟩ := answers
      obtain ⟨_, rfl, rfl⟩ := others
      rfl

end LogPipe.Filter

namespace LogPipe.FilterClause

open LogPipe.Filter

/-- Applying a filter fails with the fault that the column names foretell, and otherwise takes
the rows in which the filter is true. -/
theorem apply_answers {table : Table} (wellFormed : table.WellFormed) (text : String)
    (filter : Filter) :
    Answers (filter.fault text table.names) (· = table.takeRows (filter.keptRows table))
      ((⟨text, some filter⟩ : FilterClause).apply table) := by
  have answers := mask_answers wellFormed text filter
  rw [apply]
  cases foretold : filter.fault text table.names with
  | some error =>
      rw [foretold] at answers
      have failed : (⟨text, some filter⟩ : FilterClause).mask table = .error error := answers
      rw [failed]
      rfl
  | none =>
      rw [foretold] at answers
      obtain ⟨_, succeeded, rfl⟩ := answers
      have length : ((List.range table.rows).map fun row =>
          decide (filter.meaning table row = some true)).length = table.rows := by
        rw [List.length_map, List.length_range]
      rw [succeeded]
      simp only [Table.filterRows, length, bne_self_eq_false, Bool.false_eq_true, if_false,
        keptPositions_map_range]
      exact .ok rfl

/-- With one text to quote, two filters in a row and their conjunction give the same rows or
the same error. -/
theorem apply_then_apply {table : Table} (wellFormed : table.WellFormed) (text : String)
    (first second : Filter) :
    (apply ⟨text, some first⟩ table >>= fun kept => apply ⟨text, some second⟩ kept) =
      apply ⟨text, some (.both first second)⟩ table := by
  have whole := apply_answers wellFormed text (.both first second)
  rw [fault_both] at whole
  refine Answers.unique ((apply_answers wellFormed text first).bind ?_) whole
  rintro _ rfl
  have rest := apply_answers (wellFormed.takeRows (first.keptRows table)) text second
  rwa [Table.names_takeRows, takeRows_keptRows wellFormed] at rest

/-- Filtering the rows that a filter has kept is filtering once by the conjunction, with the
same rows, columns and kinds in the same order, or both ways fail.  The texts that the filters
were read from do not matter. -/
theorem apply_both {table : Table} (wellFormed : table.WellFormed) (first second : Filter)
    (text later whole : String) :
    (∃ kept,
        (apply ⟨text, some first⟩ table >>= fun kept => apply ⟨later, some second⟩ kept) =
          .ok kept ∧
        apply ⟨whole, some (.both first second)⟩ table = .ok kept) ∨
      (∃ error,
        (apply ⟨text, some first⟩ table >>= fun kept => apply ⟨later, some second⟩ kept) =
          .error error) ∧
        ∃ error, apply ⟨whole, some (.both first second)⟩ table = .error error := by
  have agree :
      (apply ⟨text, some first⟩ table >>= fun kept => apply ⟨later, some second⟩ kept).toOption =
        (apply ⟨whole, some (.both first second)⟩ table).toOption := by
    rw [← apply_then_apply wellFormed whole, Except.toOption_bind, Except.toOption_bind,
      toOption_apply text whole]
    simp only [toOption_apply later whole]
  cases joined : apply ⟨whole, some (.both first second)⟩ table with
  | ok kept =>
      rw [joined] at agree
      exact .inl ⟨kept, Except.toOption_eq_some_iff.mp agree, rfl⟩
  | error error =>
      rw [joined] at agree
      exact .inr ⟨Except.exists_error_of_toOption agree, error, rfl⟩

/-- The filter `host = "b"`. -/
def hostFilter : Filter :=
  .compare .eq (.column "host") (.literal (.text "b"))

/-- The second filter keeps the last of the three rows that the first one has kept. -/
theorem apply_both_sample :
    sampleTable.WellFormed ∧
      (apply ⟨"host=b", some hostFilter⟩ sampleTable >>= fun kept =>
          apply ⟨"400 <= status OR host IN (a)", some sampleFilter⟩ kept) =
        .ok ⟨1, [("status", ⟨.int, [.int 404]⟩), ("host", ⟨.text, [.text "b"]⟩)]⟩ := by
  have wellFormed : sampleTable.WellFormed := by decide
  have once : apply ⟨"", some (.both hostFilter sampleFilter)⟩ sampleTable =
      .ok ⟨1, [("status", ⟨.int, [.int 404]⟩), ("host", ⟨.text, [.text "b"]⟩)]⟩ := rfl
  refine ⟨wellFormed, ?_⟩
  obtain ⟨_, twice, whole⟩ | ⟨-, _, failed⟩ :=
    apply_both wellFormed hostFilter sampleFilter "host=b" "400 <= status OR host IN (a)" ""
  · rw [twice, ← whole, once]
  · rw [once] at failed
    cases failed

end LogPipe.FilterClause
