import LogPipe.Formula.Assignment
import LogPipe.Proofs.Formula.Refusal
import LogPipe.Proofs.Table.Preservation

/-!
# Formulas over well-formed tables

The value of every part of a formula is one cell, or a column that suits the table.  So the
operands of an operator have one length, and the column of the whole formula can be put into
the table that it was evaluated over.
-/

namespace LogPipe

instance : MayMismatch FormulaError where
  isMismatch
    | .column error => isMismatch error
    | .table error => isMismatch error
    | _ => false

namespace Column

/-- An operation on columns of one length that gives a column of that length. -/
def KeepsLength (operation : Column → Column → Except ColumnError Column) : Prop :=
  ∀ rows left right, left.size = rows → right.size = rows →
    Keeps (Suits rows) (operation left right)

theorem zipTruths_keepsLength (f : Cell → Cell → Option Bool) : KeepsLength (zipTruths f) := by
  intro rows left right leftSize rightSize
  have same : (left.size != right.size) = false := by simp [leftSize, rightSize]
  rw [zipTruths, same]
  refine .ok ⟨?_, uniform_ofTruths _⟩
  rw [size] at leftSize rightSize
  rw [size_ofTruths, List.length_zipWith, leftSize, rightSize, Nat.min_self]

theorem arithmeticCell_keeps (operator : Arithmetic) (left right : Cell) :
    Keeps (fun _ => True) (operator.apply left right) := by
  rw [Arithmetic.apply.eq_def]
  split
  · exact .ok trivial
  · split
    · exact .ok trivial
    · split
      · exact .error rfl
      · exact .wrapped fun _ => rfl

theorem arithmeticCells_keeps (operator : Arithmetic) {rows : Nat} {left right : List Cell}
    (leftLength : left.length = rows) (rightLength : right.length = rows) :
    Keeps (fun cells => cells.length = rows) (arithmeticCells operator left right) := by
  induction left generalizing right rows with
  | nil => exact .ok leftLength
  | cons cell left induction =>
      cases right with
      | nil => simp [← leftLength] at rightLength
      | cons other right =>
          subst leftLength
          have later := induction rfl (Nat.succ.inj rightLength)
          have first := arithmeticCell_keeps operator cell other
          rw [arithmeticCells]
          split
          · next failed => exact .error (first.of_eq_error failed)
          · split
            · next failed => exact .error (later.of_eq_error failed)
            · next cells done => exact .ok (congrArg Nat.succ (later.of_eq_ok done))

theorem arithmetic_keepsLength (operator : Arithmetic) : KeepsLength (arithmetic operator) := by
  intro rows left right leftSize rightSize
  have same : (left.size != right.size) = false := by simp [leftSize, rightSize]
  rw [arithmetic, same]
  exact (arithmeticCells_keeps operator leftSize rightSize).map fun cells length =>
    suits_lossy length

theorem suits_not {rows : Nat} {column : Column} (suits : column.Suits rows) :
    column.not.Suits rows := by
  refine ⟨?_, uniform_ofTruths _⟩
  rw [not, size_ofTruths, List.length_map]
  exact suits.size_eq

end Column

namespace Formula

theorem OverCells.fine {error : FormulaError} (overCells : OverCells error) :
    isMismatch error = false := by
  cases error with
  | invalidArgument | cell => rfl
  | _ => cases overCells

theorem Refuses.fine {error : FormulaError} (refuses : Refuses error) :
    isMismatch error = false := by
  cases error with
  | unknownName | disallowed => rfl
  | _ => cases refuses

theorem FailsOnly.keeps {α : Type} {kind : FormulaError → Prop} {result : Except FormulaError α}
    (fails : FailsOnly kind result) (fine : ∀ error, kind error → isMismatch error = false) :
    Keeps (fun _ => True) result := by
  cases result with
  | error failure => exact .error (fine failure (fails failure rfl))
  | ok value => exact .ok trivial

namespace Drawing

variable {α β : Type}

/-- A computation whose result, whatever it draws, has a property or is an error that is no
length mismatch. -/
def Keeps (property : α → Prop) (computation : Drawing α) : Prop :=
  ∀ generator, LogPipe.Keeps property (computation.run generator).1

namespace Keeps

variable {property : α → Prop} {final : β → Prop}

theorem fixed {result : Except FormulaError α} (keeps : LogPipe.Keeps property result) :
    Keeps property (Drawing.fixed result) :=
  fun _ => keeps

theorem value {value : α} (holds : property value) : Keeps property (pure value) :=
  fun _ => .ok holds

theorem failure {error : FormulaError} (fine : isMismatch error = false) :
    Keeps property (throw error) :=
  fun _ => .error fine

theorem bind {first : Drawing α} {later : α → Drawing β} (firstKeeps : Keeps property first)
    (laterKeeps : ∀ value, property value → Keeps final (later value)) :
    Keeps final (first >>= later) := by
  intro generator
  have here := firstKeeps generator
  rw [run_bind]
  rcases ran : first.run generator with ⟨result, left⟩
  rw [ran] at here
  cases here with
  | error fine => exact .error fine
  | ok holds => exact laterKeeps _ holds left

end Keeps

theorem FailsOnly.keeps {kind : FormulaError → Prop} {computation : Drawing α}
    (fails : FailsOnly kind computation) (fine : ∀ error, kind error → isMismatch error = false) :
    Keeps (fun _ => True) computation :=
  fun generator => (fails generator).keeps fine

end Drawing

open Drawing (fixed)

/-- A value that can be made a column of a table with a number of rows. -/
def Value.Suits (rows : Nat) : Value → Prop
  | .cell _ => True
  | .column values => values.Suits rows

section Values

variable {rows : Nat} {left right : Value}

theorem Value.Suits.toColumn {value : Value} (suits : value.Suits rows) :
    (value.toColumn rows).Suits rows := by
  cases value with
  | cell cell => exact ⟨Column.size_replicate rows cell, Column.uniform_replicate rows cell⟩
  | column column => exact suits

/-- The operands of an operator always have one length: both are single cells, or both are
taken as columns of the table. -/
theorem combine_keeps {operation : Column → Column → Except ColumnError Column}
    (keepsLength : Column.KeepsLength operation) (leftSuits : left.Suits rows)
    (rightSuits : right.Suits rows) :
    Keeps (Value.Suits rows) (Value.combine rows operation left right) := by
  have single (cell : Cell) : (Column.lossy [cell]).size = 1 := Column.size_lossy [cell]
  have columns := keepsLength rows _ _ leftSuits.toColumn.size_eq rightSuits.toColumn.size_eq
  rw [Value.combine.eq_def]
  split
  · next a b =>
      have cells := keepsLength 1 _ _ (single a) (single b)
      split
      · exact .ok trivial
      · next failed => exact .error (cells.of_eq_error failed)
  · split
    · next done => exact .ok (columns.of_eq_ok done)
    · next failed => exact .error (columns.of_eq_error failed)

theorem Value.Suits.invert {value : Value} (suits : value.Suits rows) :
    value.invert.Suits rows := by
  cases value with
  | cell cell => exact trivial
  | column column => exact Column.suits_not suits

theorem suits_list (rows : Nat) (items : List Value) : (Value.list rows items).Suits rows := by
  rw [Value.list]
  split
  · exact trivial
  · exact Column.suits_lossy ((List.length_map _).trans List.length_range)

end Values

section Calls

variable (rows : Nat) (function : Builtin)

theorem onCells_keeps (cells : List Cell) :
    Drawing.Keeps (fun _ => True) (function.onCells cells) :=
  (onCells_overCells function cells).keeps fun _ => OverCells.fine

theorem resultsInRows_keeps (arguments : List Value) (rows : List Nat) :
    Drawing.Keeps (fun cells => cells.length = rows.length)
      (resultsInRows function arguments rows) := by
  induction rows with
  | nil => exact .value rfl
  | cons row rows induction =>
      exact (onCells_keeps function _).bind fun _ _ =>
        induction.bind fun _ length => .value (congrArg Nat.succ length)

theorem inEveryRow_keeps (arguments : List Value) :
    Drawing.Keeps (Value.Suits rows) (inEveryRow rows function arguments) := by
  rw [inEveryRow]
  split
  · exact (onCells_keeps function _).bind fun _ _ => .value trivial
  · exact (resultsInRows_keeps function arguments _).bind fun cells length =>
      .value (Column.suits_lossy (length.trans List.length_range))

theorem checkKeywords_keeps (keywords : List (String × Value)) :
    Keeps (fun _ => True) (checkKeywords function keywords) := by
  induction keywords with
  | nil => exact .ok trivial
  | cons keyword keywords induction =>
      rw [checkKeywords]
      split
      · exact induction
      · exact .error rfl

theorem callResult_keeps (positional : List Value) (keywords : List (String × Value)) :
    Drawing.Keeps (Value.Suits rows) (callResult rows function positional keywords) := by
  apply (Drawing.Keeps.fixed (checkKeywords_keeps function keywords)).bind
  intro _ _
  simp only
  split
  · exact inEveryRow_keeps rows function _
  · exact .failure rfl

end Calls

section Evaluation

variable {table : Table}

mutual

/-- The value of a part of a formula suits the table. -/
theorem valueOf_keeps (wellFormed : table.WellFormed) (formula : Formula) :
    Drawing.Keeps (Value.Suits table.rows) (valueOf table formula) := by
  cases formula with
  | literal value => exact .value trivial
  | name id =>
      rw [valueOf]
      cases shown : table.column? id with
      | none => exact .failure rfl
      | some column => exact .value (wellFormed.suits shown)
  | negate operand =>
      exact (valueOf_keeps wellFormed operand).bind fun _ suits =>
        .fixed (combine_keeps (Column.arithmetic_keepsLength .sub) trivial suits)
  | invert operand =>
      exact (valueOf_keeps wellFormed operand).bind fun _ suits => .value suits.invert
  | arithmetic operator left right =>
      exact (valueOf_keeps wellFormed left).bind fun _ leftSuits =>
        (valueOf_keeps wellFormed right).bind fun _ rightSuits =>
          .fixed (combine_keeps (Column.arithmetic_keepsLength operator) leftSuits rightSuits)
  | compare operator left right =>
      exact (valueOf_keeps wellFormed left).bind fun _ leftSuits =>
        (valueOf_keeps wellFormed right).bind fun _ rightSuits =>
          .fixed (combine_keeps (Column.zipTruths_keepsLength operator.apply) leftSuits rightSuits)
  | both left right | either left right =>
      exact (valueOf_keeps wellFormed left).bind fun _ leftSuits =>
        (valueOf_keeps wellFormed right).bind fun _ rightSuits =>
          .fixed (combine_keeps (Column.zipTruths_keepsLength _) leftSuits rightSuits)
  | call callee arguments keywords =>
      refine (Drawing.Keeps.fixed
        ((calledFunction_refuses callee).keeps fun _ => Refuses.fine)).bind fun function _ => ?_
      exact (valuesOf_keeps wellFormed arguments).bind fun _ _ =>
        (keywordValuesOf_keeps wellFormed keywords).bind fun _ _ => callResult_keeps _ _ _ _
  | member value id => exact .failure rfl
  | subscript value index => exact .failure rfl
  | list items =>
      exact (valuesOf_keeps wellFormed items).bind fun values _ =>
        .value (suits_list table.rows values)

theorem valuesOf_keeps (wellFormed : table.WellFormed) (formulas : List Formula) :
    Drawing.Keeps (fun _ => True) (valuesOf table formulas) := by
  cases formulas with
  | nil => exact .value trivial
  | cons formula formulas =>
      exact (valueOf_keeps wellFormed formula).bind fun _ _ =>
        (valuesOf_keeps wellFormed formulas).bind fun _ _ => .value trivial

theorem keywordValuesOf_keeps (wellFormed : table.WellFormed)
    (keywords : List (String × Formula)) :
    Drawing.Keeps (fun _ => True) (keywordValuesOf table keywords) := by
  match keywords with
  | [] => exact .value trivial
  | (keyword, value) :: keywords =>
      exact (valueOf_keeps wellFormed value).bind fun _ _ =>
        (keywordValuesOf_keeps wellFormed keywords).bind fun _ _ => .value trivial

end

theorem evaluate_keeps (wellFormed : table.WellFormed) (formula : Formula) :
    Drawing.Keeps (Column.Suits table.rows) (evaluate table formula) := by
  refine (Drawing.Keeps.fixed ((permit_refuses table formula).keeps fun _ => Refuses.fine)).bind
    fun _ _ => ?_
  exact (valueOf_keeps wellFormed formula).bind fun _ suits => .value suits.toColumn

end Evaluation

end Formula

namespace Assignment

open LogPipe.Formula

theorem ofText_keeps (text : String) : Keeps (fun _ => True) (ofText text) := by
  rw [ofText]
  split
  · exact .error rfl
  · simp only
    split
    · exact .error rfl
    · split
      · exact .error rfl
      · exact .ok trivial

theorem ofTexts_keeps (texts : List String) : Keeps (fun _ => True) (ofTexts texts) := by
  induction texts with
  | nil => exact .ok trivial
  | cons text texts induction =>
      rw [ofTexts]
      split
      · next failed => exact .error ((ofText_keeps text).of_eq_error failed)
      · split
        · next failed => exact .error (induction.of_eq_error failed)
        · exact .ok trivial

theorem ofClause_keeps (text : String) : Keeps (fun _ => True) (ofClause text) := by
  rw [ofClause.eq_def]
  split
  · exact .error rfl
  · exact .error rfl
  · exact ofTexts_keeps _

/-- Each assignment leaves a well-formed table for the next one. -/
theorem applyAll_keeps {table : Table} (wellFormed : table.WellFormed)
    (assignments : List Assignment) :
    Drawing.Keeps Table.WellFormed (applyAll table assignments) := by
  induction assignments generalizing table with
  | nil => exact .value wellFormed
  | cons assignment assignments induction =>
      refine (evaluate_keeps wellFormed assignment.formula).bind fun column suits => ?_
      have added := Table.withColumn_keeps wellFormed assignment.field suits
      exact (Drawing.Keeps.fixed (added.mapError _ fun _ => rfl)).bind fun next follows =>
        induction follows.1

theorem applyClause_keeps {table : Table} (wellFormed : table.WellFormed) (text : String)
    (seed : Nat) : Keeps Table.WellFormed (applyClause table text seed) := by
  rw [applyClause]
  split
  · next failed => exact .error ((ofClause_keeps text).of_eq_error failed)
  · exact applyAll_keeps wellFormed _ _

end Assignment

end LogPipe
