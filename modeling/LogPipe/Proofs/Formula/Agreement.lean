import LogPipe.Formula.Evaluate
import LogPipe.Proofs.Column.Constant
import LogPipe.Proofs.Except
import LogPipe.Proofs.Formula.Drawing
import Mathlib.Data.List.Forall2

/-!
# Single cells and constant columns

A literal stays a single cell until it meets a column.  A column that repeats the cell is
computed row by row instead, and comes to the same: operators, functions and lists make
of both the same cells or fail with the same error, as long as there is a row and nothing
is drawn.
-/

namespace LogPipe

namespace Formula

section Agreement

variable {α β γ δ : Type}

/-- Two results that are the same error, or values that are the same in some sense. -/
inductive Agree (same : α → β → Prop) : Except FormulaError α → Except FormulaError β → Prop
  | error (error : FormulaError) : Agree same (.error error) (.error error)
  | ok {left : α} {right : β} (shown : same left right) : Agree same (.ok left) (.ok right)

theorem Agree.refl {same : α → α → Prop} (reflexive : ∀ value, same value value)
    (result : Except FormulaError α) : Agree same result result := by
  cases result with
  | error error => exact .error error
  | ok value => exact .ok (reflexive value)

/-- Two computations that draw nothing and have results that agree. -/
def Drawing.Agree (same : α → β → Prop) (first : Drawing α) (second : Drawing β) : Prop :=
  ∃ left right, first = Drawing.fixed left ∧ second = Drawing.fixed right ∧
    Formula.Agree same left right

namespace Drawing.Agree

variable {same : α → β → Prop} {final : γ → δ → Prop}

theorem fixed {left : Except FormulaError α} {right : Except FormulaError β}
    (agree : Formula.Agree same left right) :
    Drawing.Agree same (Drawing.fixed left) (Drawing.fixed right) :=
  ⟨left, right, rfl, rfl, agree⟩

theorem value {left : α} {right : β} (shown : same left right) :
    Drawing.Agree same (pure left) (pure right) :=
  fixed (.ok shown)

theorem bind {first : Drawing α} {second : Drawing β} {later : α → Drawing γ}
    {other : β → Drawing δ} (agree : Drawing.Agree same first second)
    (laterAgree : ∀ left right, same left right → Drawing.Agree final (later left) (other right)) :
    Drawing.Agree final (first >>= later) (second >>= other) := by
  obtain ⟨left, right, rfl, rfl, agreed⟩ := agree
  cases agreed with
  | error error => exact fixed (.error error)
  | ok shown => exact laterAgree _ _ shown

end Drawing.Agree

end Agreement

namespace Value

/-- What a value may become when literals take the place of constant columns. -/
inductive Same (rows : Nat) : Value → Value → Prop
  | cell (cell : Cell) : Same rows (.cell cell) (.cell cell)
  | column {column other : Column} (cells : column.cells = other.cells) :
      Same rows (.column column) (.column other)
  | constant {column : Column} {cell : Cell}
      (repeats : column.cells = List.replicate rows cell) :
      Same rows (.column column) (.cell cell)

variable {rows : Nat} {value other left right otherLeft otherRight : Value}

theorem Same.refl (value : Value) : Same rows value value := by
  cases value with
  | cell cell => exact .cell cell
  | column column => exact .column rfl

theorem Same.toColumn_cells (same : Same rows value other) :
    (value.toColumn rows).cells = (other.toColumn rows).cells := by
  cases same with
  | cell cell => rfl
  | column cells => exact cells
  | constant repeats => exact repeats.trans (Column.cells_replicate _ _).symm

theorem Same.cellAt (same : Same rows value other) {row : Nat} (inside : row < rows) :
    value.cellAt row = other.cellAt row := by
  cases same with
  | cell cell => rfl
  | column cells => simp only [Value.cellAt, Column.get?, cells]
  | constant repeats =>
      simp only [Value.cellAt, Column.get?_of_cells_eq_replicate repeats inside,
        Option.getD_some]

theorem Same.isCell (same : Same rows value other) (single : value.isCell = true) :
    other = value := by
  cases same with
  | cell cell => rfl
  | column cells => cases single
  | constant repeats => cases single

theorem Same.invert (same : Same rows value other) :
    Same rows value.invert other.invert := by
  cases same with
  | cell cell => exact .refl _
  | column cells => exact .column (congrArg Column.cells (Column.not_cells_congr cells))
  | constant repeats => exact .constant (Column.not_of_repeats repeats)

theorem exists_cell (single : value.isCell = true) : ∃ cell, value = .cell cell := by
  cases value with
  | cell cell => exact ⟨cell, rfl⟩
  | column column => cases single

/-- Beside a column a single cell stands for a column. -/
theorem combine_of_not_cells {operation : Column → Column → Except ColumnError Column}
    (mixed : (left.isCell && right.isCell) = false) :
    combine rows operation left right =
      match operation (left.toColumn rows) (right.toColumn rows) with
      | .ok result => .ok (.column result)
      | .error error => .error (.column error) := by
  cases left with
  | column left => rfl
  | cell left =>
      cases right with
      | column right => rfl
      | cell right => cases mixed

/-- On constant columns an operation repeats what it makes of their cells. -/
theorem combine_constant_agree {operation : Column → Column → Except ColumnError Column}
    (rowByRow : Column.RowByRow operation) (someRow : 0 < rows) {leftColumn rightColumn : Column}
    {a b : Cell} (leftRepeats : leftColumn.cells = List.replicate rows a)
    (rightRepeats : rightColumn.cells = List.replicate rows b) :
    Agree (Same rows)
      (match operation leftColumn rightColumn with
        | .ok result => .ok (.column result)
        | .error error => .error (.column error))
      (combine rows operation (.cell a) (.cell b)) := by
  obtain ⟨result, repeated⟩ := rowByRow.repeats a b
  have many := repeated someRow leftRepeats rightRepeats
  have one : (operation (Column.lossy [a]) (Column.lossy [b])).map Column.cells =
      result.map (List.replicate 1) :=
    repeated Nat.one_pos (Column.cells_lossy_replicate 1 a) (Column.cells_lossy_replicate 1 b)
  rw [combine]
  cases result with
  | error error =>
      rw [Except.map_eq_error_iff.mp many, Except.map_eq_error_iff.mp one]
      exact .error _
  | ok cell =>
      obtain ⟨shown, isMany, manyCells⟩ := Except.map_eq_ok_iff.mp many
      obtain ⟨single, isOne, oneCells⟩ := Except.map_eq_ok_iff.mp one
      have first : single.get? 0 = some cell :=
        Column.get?_of_cells_eq_replicate oneCells Nat.one_pos
      rw [isMany, isOne]
      simp only [first, Option.getD_some]
      exact .ok (.constant manyCells)

/-- Operations that work row by row do not tell a constant column from its cell. -/
theorem combine_agree {operation : Column → Column → Except ColumnError Column}
    (rowByRow : Column.RowByRow operation) (someRow : 0 < rows)
    (leftSame : Same rows left otherLeft) (rightSame : Same rows right otherRight) :
    Agree (Same rows) (combine rows operation left right)
      (combine rows operation otherLeft otherRight) := by
  by_cases single : (left.isCell && right.isCell) = true
  · rw [Bool.and_eq_true] at single
    rw [leftSame.isCell single.1, rightSame.isCell single.2]
    exact .refl Same.refl _
  · rw [Bool.not_eq_true] at single
    rw [combine_of_not_cells single]
    by_cases otherSingle : (otherLeft.isCell && otherRight.isCell) = true
    · obtain ⟨leftSingle, rightSingle⟩ := Bool.and_eq_true_iff.mp otherSingle
      obtain ⟨a, rfl⟩ := exists_cell leftSingle
      obtain ⟨b, rfl⟩ := exists_cell rightSingle
      exact combine_constant_agree rowByRow someRow
        (leftSame.toColumn_cells.trans (Column.cells_replicate rows a))
        (rightSame.toColumn_cells.trans (Column.cells_replicate rows b))
    · rw [Bool.not_eq_true] at otherSingle
      rw [combine_of_not_cells otherSingle,
        rowByRow.congr leftSame.toColumn_cells rightSame.toColumn_cells]
      exact .refl Same.refl _

section Rows

variable {values others : List Value}

theorem all_isCell (same : List.Forall₂ (Same rows) values others)
    (single : values.all isCell = true) : others = values := by
  induction same with
  | nil => rfl
  | cons head tail induction =>
      rw [List.all_cons, Bool.and_eq_true] at single
      rw [head.isCell single.1, induction single.2]

theorem map_cellAt (same : List.Forall₂ (Same rows) values others) {row : Nat}
    (inside : row < rows) : values.map (cellAt row) = others.map (cellAt row) := by
  induction same with
  | nil => rfl
  | cons head tail induction =>
      rw [List.map_cons, List.map_cons, head.cellAt inside, induction]

/-- Single cells are the same in every row. -/
theorem map_cellAt_of_cells (single : values.all isCell = true) (row other : Nat) :
    values.map (cellAt row) = values.map (cellAt other) := by
  apply List.map_congr_left
  intro value member
  obtain ⟨cell, rfl⟩ := exists_cell (List.all_eq_true.mp single value member)
  rfl

/-- What functions and lists make of their parts: one cell of single cells, and otherwise
a cell in every row. -/
def inRows (rows : Nat) (result : List Cell → Except FormulaError Cell) (values : List Value) :
    Except FormulaError Value :=
  if values.all isCell then (result (values.map (cellAt 0))).map .cell
  else
    ((List.range rows).mapM fun row => result (values.map (cellAt row))).map
      fun cells => .column (Column.lossy cells)

theorem list_eq_inRows (rows : Nat) (items : List Value) :
    .ok (list rows items) = inRows rows (fun cells => .ok (.list cells)) items := by
  rw [list, inRows]
  split
  · rfl
  · have listed : ((List.range rows).mapM fun row =>
        (.ok (.list (items.map (cellAt row))) : Except FormulaError Cell)) =
        .ok ((List.range rows).map fun row => .list (items.map (cellAt row))) :=
      List.mapM_pure
    rw [listed]
    rfl

theorem mapM_congr {first second : Nat → Except FormulaError Cell} {positions : List Nat}
    (same : ∀ row ∈ positions, first row = second row) :
    positions.mapM first = positions.mapM second := by
  induction positions with
  | nil => rfl
  | cons row positions induction =>
      have rest := induction fun other member => same other (List.mem_cons_of_mem row member)
      rw [List.mapM_cons, List.mapM_cons, same row List.mem_cons_self, rest]

/-- The same result in every row is repeated, as long as there is a row. -/
theorem mapM_constant {result : Except FormulaError Cell} {step : Nat → Except FormulaError Cell}
    {positions : List Nat} (somewhere : positions ≠ [])
    (same : ∀ row ∈ positions, step row = result) :
    positions.mapM step = result.map (List.replicate positions.length) := by
  induction positions with
  | nil => exact absurd rfl somewhere
  | cons row positions induction =>
      rw [List.mapM_cons, same row List.mem_cons_self]
      cases result with
      | error error => rfl
      | ok cell =>
          cases positions with
          | nil => rfl
          | cons next positions =>
              have rest := induction (List.cons_ne_nil next positions) fun other member =>
                same other (List.mem_cons_of_mem row member)
              rw [rest]
              rfl

/-- What works on the cells of a row does not tell a constant column from its cell. -/
theorem inRows_agree (someRow : 0 < rows) (result : List Cell → Except FormulaError Cell)
    (same : List.Forall₂ (Same rows) values others) :
    Agree (Same rows) (inRows rows result values) (inRows rows result others) := by
  by_cases single : values.all isCell = true
  · rw [all_isCell same single]
    exact .refl Same.refl _
  · by_cases otherSingle : others.all isCell = true
    · -- Every row of the columns has the cells that are used once on the other side.
      have constant : ∀ row ∈ List.range rows,
          result (values.map (cellAt row)) = result (others.map (cellAt 0)) := by
        intro row member
        rw [map_cellAt same (List.mem_range.mp member),
          map_cellAt_of_cells otherSingle row 0]
      have somewhere : List.range rows ≠ [] :=
        List.ne_nil_of_mem (List.mem_range.mpr someRow)
      rw [inRows, inRows, if_neg single, if_pos otherSingle, mapM_constant somewhere constant,
        List.length_range]
      cases result (others.map (cellAt 0)) with
      | error error => exact .error error
      | ok cell => exact .ok (.constant (Column.cells_lossy_replicate rows cell))
    · have inEach : ((List.range rows).mapM fun row => result (values.map (cellAt row))) =
          (List.range rows).mapM fun row => result (others.map (cellAt row)) := by
        apply mapM_congr
        intro row member
        rw [map_cellAt same (List.mem_range.mp member)]
      rw [inRows, inRows, if_neg single, if_neg otherSingle, inEach]
      exact .refl Same.refl _

end Rows

end Value

section Calls

variable {rows : Nat} {function : Builtin} {arguments others : List Value}

/-- Only `randomize` draws. -/
theorem onCells_eq_fixed (undrawn : function ≠ .randomize) (cells : List Cell) :
    function.onCells cells = Drawing.fixed (resultOf function cells) := by
  rw [Builtin.onCells, if_neg]
  simpa using undrawn

theorem resultsInRows_eq_fixed (undrawn : function ≠ .randomize) (arguments : List Value)
    (positions : List Nat) :
    resultsInRows function arguments positions =
      Drawing.fixed (positions.mapM fun row =>
        resultOf function (arguments.map (Value.cellAt row))) := by
  induction positions with
  | nil => rfl
  | cons row positions induction =>
      rw [resultsInRows, onCells_eq_fixed undrawn, induction, List.mapM_cons]
      cases resultOf function (arguments.map (Value.cellAt row)) with
      | error error => rfl
      | ok cell =>
          cases positions.mapM fun row => resultOf function (arguments.map (Value.cellAt row)) with
          | error error => rfl
          | ok cells => rfl

theorem inEveryRow_eq_fixed (undrawn : function ≠ .randomize) (arguments : List Value) :
    inEveryRow rows function arguments =
      Drawing.fixed (Value.inRows rows (resultOf function) arguments) := by
  rw [inEveryRow, Value.inRows]
  split
  · rw [onCells_eq_fixed undrawn]
    cases resultOf function (arguments.map (Value.cellAt 0)) with
    | error error => rfl
    | ok cell => rfl
  · rw [resultsInRows_eq_fixed undrawn]
    cases (List.range rows).mapM fun row =>
        resultOf function (arguments.map (Value.cellAt row)) with
    | error error => rfl
    | ok cells => rfl

/-- Keyword arguments under the same keywords whose values are the same. -/
def SameKeywords (rows : Nat) (left right : List (String × Value)) : Prop :=
  List.Forall₂ (fun keyword other => keyword.1 = other.1 ∧ Value.Same rows keyword.2 other.2)
    left right

theorem SameKeywords.checkKeywords {keywords otherKeywords : List (String × Value)}
    (same : SameKeywords rows keywords otherKeywords) :
    Formula.checkKeywords function keywords = Formula.checkKeywords function otherKeywords := by
  induction same with
  | nil => rfl
  | cons head tail induction => rw [Formula.checkKeywords, Formula.checkKeywords, head.1, induction]

theorem SameKeywords.values {keywords otherKeywords : List (String × Value)}
    (same : SameKeywords rows keywords otherKeywords) :
    List.Forall₂ (Value.Same rows) (keywords.map Prod.snd) (otherKeywords.map Prod.snd) := by
  induction same with
  | nil => exact .nil
  | cons head tail induction => exact .cons head.2 induction

/-- A call that draws nothing does not tell a constant column from its cell. -/
theorem callResult_agree (someRow : 0 < rows) (undrawn : function ≠ .randomize)
    {keywords otherKeywords : List (String × Value)}
    (same : List.Forall₂ (Value.Same rows) arguments others)
    (sameKeywords : SameKeywords rows keywords otherKeywords) :
    Drawing.Agree (Value.Same rows) (callResult rows function arguments keywords)
      (callResult rows function others otherKeywords) := by
  have together : List.Forall₂ (Value.Same rows) (arguments ++ keywords.map Prod.snd)
      (others ++ otherKeywords.map Prod.snd) :=
    List.rel_append same sameKeywords.values
  have counted := together.length_eq
  rw [callResult, callResult, sameKeywords.checkKeywords]
  apply (Drawing.Agree.fixed (.refl (fun _ => rfl) _)).bind
  intro _ _ _
  simp only [counted]
  split
  · rw [inEveryRow_eq_fixed undrawn, inEveryRow_eq_fixed undrawn]
    exact .fixed (Value.inRows_agree someRow _ together)
  · exact .fixed (.error _)

end Calls

end Formula

end LogPipe
