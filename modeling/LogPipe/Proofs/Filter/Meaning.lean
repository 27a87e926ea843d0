import LogPipe.Filter.Mask
import LogPipe.Proofs.Cell.Comparison
import LogPipe.Proofs.Except
import LogPipe.Proofs.Table.WellFormed

/-!
# The meaning of a filter in one row

A filter is evaluated for all rows at once, column by column.  This module says
what a filter means in a single row, in three-valued logic and without columns,
and shows that the mask of a table is exactly the list of rows in which the
filter means true.  Whether a filter can be applied at all depends on the
column names of the table and never on its rows.
-/

namespace LogPipe.Cell

@[simp] theorem truth_ofTruth (truth : Option Bool) :
    (ofTruth truth).truth = truth := by
  cases truth <;> rfl

/-- A cell counts as true exactly when its truth value is known to be true. -/
theorem isTruthy_eq_decide_truth (cell : Cell) :
    cell.isTruthy = decide (cell.truth = some true) := by
  unfold truth
  by_cases absent : cell.isMissing = true
  · have falsy : cell.isTruthy = false := by
      cases cell with
      | missing => rfl
      | float number =>
          have notNumber : number.isNaN = true := absent
          rw [isTruthy, notNumber]
          rfl
      | bool | int | time | text | list => simp [isMissing] at absent
    simp [absent, falsy]
  · simp [absent]

end LogPipe.Cell

namespace LogPipe.Filter

section Meaning

variable (table : Table) (row : Nat)

/-- The cell of a column in the row. -/
def rowCell (name : String) : Cell :=
  (table.value? name row).getD .null

/-- The cell that a part of a filter stands for in the row when it is compared.
A predicate stands for its truth value, and for a missing cell when that is
unknown. -/
def operandCell (truth : Option Bool) : Filter → Cell
  | .column name => rowCell table row name
  | .literal constant => constant
  | _ => .ofTruth truth

/-- The three-valued meaning of a filter in the row. -/
def meaning : Filter → Option Bool
  | .column name => (rowCell table row name).truth
  | .literal constant => constant.truth
  | .member field values =>
      some (values.any fun listed =>
        Comparison.eq.apply (rowCell table row field) listed == some true)
  | .both left right => kleeneAnd (left.meaning) (right.meaning)
  | .either left right => kleeneOr (left.meaning) (right.meaning)
  | .compare operator left right =>
      operator.apply (left.operandCell table row left.meaning)
        (right.operandCell table row right.meaning)

end Meaning

section Rejection

variable (clause : String) (names : List String)

/-- The fault of a part that is used as a predicate but is a literal other than
a truth value. -/
def literalFault : Filter → Option FilterError
  | .literal (.bool _) => none
  | .literal constant => some (.malformed clause (.notPredicate constant.written))
  | _ => none

/-- The fault of naming a column that is not there. -/
def columnFault (name : String) : Option FilterError :=
  if name ∈ names then none else some (.missingColumn name)

/-- Why a part of a filter stands for nothing in tables with the given column
names. -/
def operandFault : Filter → Option FilterError
  | .column name => columnFault names name
  | .literal _ => none
  | .member field _ => columnFault names field
  | .both left right | .either left right =>
      (left.operandFault.or (left.literalFault clause)).or
        (right.operandFault.or (right.literalFault clause))
  | .compare _ left right => left.operandFault.or right.operandFault

/-- Why a filter cannot be applied to tables with the given column names. -/
def fault (filter : Filter) : Option FilterError :=
  (filter.operandFault clause names).or (filter.literalFault clause)

end Rejection

/-- A computation that fails with a fault foreseen from outside, and otherwise
gives a value of the wanted kind. -/
def Answers {α : Type} (fault : Option FilterError) (wanted : α → Prop)
    (result : Except FilterError α) : Prop :=
  match fault with
  | some error => result = .error error
  | none => ∃ value, result = .ok value ∧ wanted value

namespace Answers

variable {α β : Type} {first second : Option FilterError}
  {wanted : α → Prop} {final : β → Prop} {result : Except FilterError α}

theorem ok {value : α} (holds : wanted value) : Answers none wanted (.ok value) :=
  ⟨value, rfl, holds⟩

/-- The first fault decides; without one the second computation does. -/
theorem bind {next : α → Except FilterError β}
    (answers : Answers first wanted result)
    (continues : ∀ value, wanted value → Answers second final (next value)) :
    Answers (first.or second) final (result >>= next) := by
  cases first with
  | some error =>
      have failed : result = .error error := answers
      subst failed
      rfl
  | none =>
      obtain ⟨value, succeeded, holds⟩ := answers
      subst succeeded
      exact continues value holds

/-- A step that cannot fail adds no fault. -/
theorem map {change : α → β} (answers : Answers first wanted result)
    (holds : ∀ value, wanted value → final (change value)) :
    Answers first final (result >>= fun value => pure (change value)) := by
  rw [← Option.or_none (o := first)]
  exact answers.bind fun value wantedValue => .ok (holds value wantedValue)

theorem imp {weaker : α → Prop} (answers : Answers first wanted result)
    (implies : ∀ value, wanted value → weaker value) :
    Answers first weaker result := by
  cases first with
  | some error => exact answers
  | none =>
      obtain ⟨value, succeeded, holds⟩ := answers
      exact ⟨value, succeeded, implies value holds⟩

end Answers

/-- A column that shows a given cell in each row of a table. -/
def Shows (rows : Nat) (cells : Nat → Cell) (column : Column) : Prop :=
  column.cells = (List.range rows).map cells

/-- An operand that stands for a part of a filter: for a literal its cell, and
for anything else a column that shows the part in each row. -/
def Operand.StandsFor (table : Table) (filter : Filter) : Operand → Prop
  | .column shown =>
      (∀ constant, filter ≠ .literal constant) ∧
        Shows table.rows (fun row => filter.operandCell table row (filter.meaning table row)) shown
  | .cell constant => filter = .literal constant

section Columns

variable {rows : Nat} {cells leftCells rightCells : Nat → Cell}
  {column left right : Column}

theorem Shows.size_eq (shows : Shows rows cells column) : column.size = rows := by
  have cellsEq : column.cells = (List.range rows).map cells := shows
  simp [Column.size, cellsEq]

/-- The truth columns that the library builds show the given truth values. -/
theorem shows_ofTruths (truths : Nat → Option Bool) :
    Shows rows (fun row => .ofTruth (truths row))
      (Column.ofTruths ((List.range rows).map truths)) := by
  unfold Shows Column.ofTruths
  rw [List.map_map]
  apply List.map_congr_left
  intro row _member
  simp only [Function.comp_apply]
  cases truths row <;> rfl

theorem shows_replicate (truth : Option Bool) :
    Shows rows (fun _ => .ofTruth truth)
      (Column.ofTruths (List.replicate rows truth)) := by
  have constant : Shows rows (fun _ => .ofTruth truth)
      (Column.ofTruths ((List.range rows).map fun _ => truth)) :=
    shows_ofTruths fun _ => truth
  rwa [List.map_const', List.length_range] at constant

theorem shows_zipTruths (combine : Cell → Cell → Option Bool)
    (leftShows : Shows rows leftCells left) (rightShows : Shows rows rightCells right) :
    ∃ truths, Column.zipTruths combine left right = .ok truths ∧
      Shows rows (fun row => .ofTruth (combine (leftCells row) (rightCells row))) truths := by
  have sameSize : left.size = right.size :=
    leftShows.size_eq.trans rightShows.size_eq.symm
  have leftCellsEq : left.cells = (List.range rows).map leftCells := leftShows
  have rightCellsEq : right.cells = (List.range rows).map rightCells := rightShows
  refine ⟨_, by simp only [Column.zipTruths, sameSize, bne_self_eq_false,
    Bool.false_eq_true, if_false]; rfl, ?_⟩
  rw [leftCellsEq, rightCellsEq, List.zipWith_map, List.zipWith_self]
  exact shows_ofTruths _

theorem shows_compareCell (operator : Comparison) (constant : Cell)
    (shows : Shows rows cells column) :
    Shows rows (fun row => .ofTruth (operator.apply (cells row) constant))
      (Column.compareCell operator column constant) := by
  have cellsEq : column.cells = (List.range rows).map cells := shows
  unfold Column.compareCell
  rw [cellsEq, List.map_map]
  exact shows_ofTruths _

theorem shows_isIn (values : List Cell) (shows : Shows rows cells column) :
    Shows rows (fun row => .ofTruth (some (Column.isMember values (cells row))))
      (column.isIn values) := by
  have cellsEq : column.cells = (List.range rows).map cells := shows
  unfold Column.isIn
  rw [cellsEq, List.map_map]
  exact shows_ofTruths _

/-- A column of a well-formed table shows its cell in each row. -/
theorem shows_column {table : Table} {name : String} (wellFormed : table.WellFormed)
    (found : table.column? name = some column) :
    Shows table.rows (fun row => rowCell table row name) column := by
  have sameSize : column.cells.length = table.rows := wellFormed.size_eq found
  apply List.ext_getElem
  · simpa using sameSize
  · intro row inColumn _inRange
    simp [rowCell, Table.value?, found, Column.get?, inColumn]

end Columns

@[simp] theorem truth_operandCell (table : Table) (row : Nat) (filter : Filter) :
    (filter.operandCell table row (filter.meaning table row)).truth =
      filter.meaning table row := by
  cases filter with
  | column | literal => rfl
  | member | both | either | compare => simp only [operandCell, Cell.truth_ofTruth]

section Evaluation

variable {table : Table} (clause : String)

/-- Looking a column up fails exactly when its name is not there. -/
theorem columnOf_answers (wellFormed : table.WellFormed) (name : String) :
    Answers (columnFault table.names name)
      (Shows table.rows fun row => rowCell table row name) (columnOf table name) := by
  unfold columnFault columnOf
  cases found : table.column? name with
  | none =>
      have absent : name ∉ table.names := by
        rw [← Table.column?_isSome_iff, found]
        simp
      simp only [if_neg absent]
      rfl
  | some column =>
      have listed : name ∈ table.names := by
        rw [← Table.column?_isSome_iff, found]
        rfl
      simp only [if_pos listed]
      exact .ok (shows_column wellFormed found)

/-- Taken as a predicate, an operand is refused exactly when it is a literal
other than a truth value. -/
theorem predicate_answers {filter : Filter} {operand : Operand}
    (stands : operand.StandsFor table filter) :
    Answers (filter.literalFault clause)
      (Shows table.rows fun row => filter.operandCell table row (filter.meaning table row))
      (operand.predicate clause table.rows) := by
  cases operand with
  | column shown =>
      obtain ⟨notLiteral, shows⟩ := stands
      cases filter with
      | literal constant => exact absurd rfl (notLiteral constant)
      | column | member | both | either | compare => exact .ok shows
  | cell constant =>
      have isLiteral : filter = .literal constant := stands
      subst isLiteral
      cases constant with
      | bool truth => exact .ok (shows_replicate (some truth))
      | missing | int | float | time | text | list => rfl

/-- Two operands are compared row by row in the order in which they were
written, also where the columns are compared by the reversed operator. -/
theorem compareOperands_answers {left right : Filter} {leftOperand rightOperand : Operand}
    (operator : Comparison) (leftStands : leftOperand.StandsFor table left)
    (rightStands : rightOperand.StandsFor table right) :
    Answers none
      (Shows table.rows fun row =>
        .ofTruth (operator.apply (left.operandCell table row (left.meaning table row))
          (right.operandCell table row (right.meaning table row))))
      (compareOperands table.rows operator leftOperand rightOperand) := by
  cases leftOperand with
  | column leftColumn =>
      obtain ⟨-, leftShows⟩ := leftStands
      cases rightOperand with
      | column rightColumn =>
          obtain ⟨-, rightShows⟩ := rightStands
          obtain ⟨truths, compared, shows⟩ :=
            shows_zipTruths operator.apply leftShows rightShows
          exact ⟨truths, Except.mapError_eq_ok_iff.mpr compared, shows⟩
      | cell constant =>
          have isLiteral : right = .literal constant := rightStands
          subst isLiteral
          exact .ok (shows_compareCell operator constant leftShows)
  | cell constant =>
      have isLiteral : left = .literal constant := leftStands
      subst isLiteral
      cases rightOperand with
      | column rightColumn =>
          obtain ⟨-, rightShows⟩ := rightStands
          have shows := shows_compareCell operator.reversed constant rightShows
          simp only [Comparison.apply_reversed] at shows
          exact .ok shows
      | cell other =>
          have isLiteral : right = .literal other := rightStands
          subst isLiteral
          exact .ok (shows_replicate (operator.apply constant other))

/-- Two predicates are joined row by row.  The left one is evaluated and
checked before the right one, so its faults come first. -/
theorem joinPredicates_answers {left right : Filter}
    (combine : Option Bool → Option Bool → Option Bool)
    (leftAnswers : Answers (left.operandFault clause table.names)
      (fun operand => operand.StandsFor table left) (evaluate clause table left))
    (rightAnswers : Answers (right.operandFault clause table.names)
      (fun operand => operand.StandsFor table right) (evaluate clause table right)) :
    Answers ((left.fault clause table.names).or (right.fault clause table.names))
      (fun operand : Operand => ∃ shown, operand = .column shown ∧
        Shows table.rows
          (fun row => .ofTruth (combine (left.meaning table row) (right.meaning table row)))
          shown)
      (do
        let left ← evaluate clause table left
        let left ← left.predicate clause table.rows
        let right ← evaluate clause table right
        let right ← right.predicate clause table.rows
        let truths ← (Column.zipTruths (fun left right => combine left.truth right.truth)
          left right).mapError .column
        pure (.column truths)) := by
  rw [fault, fault, Option.or_assoc]
  refine leftAnswers.bind fun leftOperand leftStands => ?_
  refine (predicate_answers clause leftStands).bind fun leftColumn leftShows => ?_
  rw [← Option.or_none (o := right.literalFault clause)]
  refine rightAnswers.bind fun rightOperand rightStands => ?_
  refine (predicate_answers clause rightStands).bind fun rightColumn rightShows => ?_
  obtain ⟨truths, joined, shows⟩ :=
    shows_zipTruths (fun left right => combine left.truth right.truth) leftShows rightShows
  simp only [truth_operandCell] at shows
  rw [Except.mapError_eq_ok_iff.mpr joined]
  exact .ok ⟨truths, rfl, shows⟩

/-- Evaluating a filter fails exactly with the fault that its column names
foretell, and otherwise gives an operand that stands for the filter. -/
theorem evaluate_answers (wellFormed : table.WellFormed) (filter : Filter) :
    Answers (filter.operandFault clause table.names)
      (fun operand => operand.StandsFor table filter) (evaluate clause table filter) := by
  induction filter with
  | column name =>
      refine (columnOf_answers wellFormed name).map fun column shows => ?_
      exact ⟨by simp, shows⟩
  | literal constant => exact .ok rfl
  | member field values =>
      refine (columnOf_answers wellFormed field).map fun column shows => ?_
      exact ⟨by simp, shows_isIn values shows⟩
  | both left right leftAnswers rightAnswers =>
      refine (joinPredicates_answers clause kleeneAnd leftAnswers rightAnswers).imp ?_
      rintro operand ⟨shown, rfl, shows⟩
      exact ⟨by simp, shows⟩
  | either left right leftAnswers rightAnswers =>
      refine (joinPredicates_answers clause kleeneOr leftAnswers rightAnswers).imp ?_
      rintro operand ⟨shown, rfl, shows⟩
      exact ⟨by simp, shows⟩
  | compare operator left right leftAnswers rightAnswers =>
      refine leftAnswers.bind fun leftOperand leftStands => ?_
      rw [← Option.or_none (o := right.operandFault clause table.names)]
      refine rightAnswers.bind fun rightOperand rightStands => ?_
      refine (compareOperands_answers operator leftStands rightStands).map fun truths shows => ?_
      exact ⟨by simp, shows⟩

/-- The truth column of a filter shows its meaning in each row. -/
theorem truths_answers (wellFormed : table.WellFormed) (filter : Filter) :
    Answers (filter.fault clause table.names)
      (Shows table.rows fun row => filter.operandCell table row (filter.meaning table row))
      (truths clause table filter) :=
  (evaluate_answers clause wellFormed filter).bind fun _operand stands =>
    predicate_answers clause stands

end Evaluation

end LogPipe.Filter

namespace LogPipe.FilterClause

open LogPipe.Filter

/-- The mask of a filter has one entry per row, which says whether the filter means true in
that row. -/
theorem mask_answers {table : Table} (wellFormed : table.WellFormed) (text : String)
    (filter : Filter) :
    Answers (filter.fault text table.names)
      (fun kept => kept = (List.range table.rows).map fun row =>
        decide (filter.meaning table row = some true))
      ((⟨text, some filter⟩ : FilterClause).mask table) := by
  have answers := truths_answers text wellFormed filter
  unfold mask
  cases foretold : filter.fault text table.names with
  | some error =>
      rw [foretold] at answers
      have failed : filter.truths text table = .error error := answers
      simp only [failed]
      rfl
  | none =>
      rw [foretold] at answers
      obtain ⟨column, succeeded, shows⟩ := answers
      have cellsEq : column.cells = (List.range table.rows).map
          fun row => filter.operandCell table row (filter.meaning table row) := shows
      simp only [succeeded]
      refine .ok ?_
      simp only [Column.mask, cellsEq, List.map_map, Function.comp_def,
        Cell.isTruthy_eq_decide_truth, truth_operandCell]

/-- Applying a filter to a well-formed table fails exactly with the fault that
the filter and the column names foretell.  Otherwise the mask has one entry per
row, which says whether the filter means true in that row. -/
theorem mask_eq_meaning {table : Table} (wellFormed : table.WellFormed)
    (text : String) (filter : Filter) :
    (⟨text, some filter⟩ : FilterClause).mask table =
      match filter.fault text table.names with
      | some error => .error error
      | none =>
          .ok ((List.range table.rows).map fun row =>
            decide (filter.meaning table row = some true)) := by
  have answers := mask_answers wellFormed text filter
  cases foretold : filter.fault text table.names with
  | some error =>
      rw [foretold] at answers
      exact answers
  | none =>
      rw [foretold] at answers
      obtain ⟨kept, succeeded, rfl⟩ := answers
      exact succeeded

/-- A table with a missing status in its second and its last row. -/
def sampleTable : Table :=
  ⟨4, [("status", ⟨.int, [.int 200, .null, .int 404, .null]⟩),
    ("host", ⟨.text, [.text "b", .text "b", .text "b", .text "a"]⟩)]⟩

/-- The filter `400 <= status OR host IN ("a")`, with the literal on the left. -/
def sampleFilter : Filter :=
  .either (.compare .le (.literal (.int 400)) (.column "status"))
    (.member "host" [.text "a"])

theorem mask_eq_meaning_sample :
    sampleTable.WellFormed ∧
      (⟨"400 <= status OR host IN (a)", some sampleFilter⟩ : FilterClause).mask sampleTable =
        .ok [false, false, true, true] := by
  have wellFormed : sampleTable.WellFormed := by decide
  exact ⟨wellFormed, (mask_eq_meaning wellFormed _ sampleFilter).trans rfl⟩

end LogPipe.FilterClause
