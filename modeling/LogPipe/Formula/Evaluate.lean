import LogPipe.Formula.Apply
import LogPipe.Formula.Basic
import LogPipe.Formula.Reading

/-!
# Evaluating formulas

A formula has a value over a table: one cell when no column is involved, and otherwise a
column with a cell per row. A single cell beside a column stands for a column that repeats
it. The value of a whole formula is always a column.
-/

namespace LogPipe.Formula

/-- The value of a part of a formula. -/
inductive Value where
  | cell (cell : Cell)
  | column (column : Column)
deriving DecidableEq, Repr

namespace Value

/-- Whether a value is a single cell. -/
def isCell : Value → Bool
  | .cell _ => true
  | .column _ => false

/-- The cell of a value in a row. -/
def cellAt (row : Nat) : Value → Cell
  | .cell value => value
  | .column values => (values.get? row).getD .null

/-- The value as a column of a table with the given number of rows. -/
def toColumn (rows : Nat) : Value → Column
  | .cell value => Column.replicate rows value
  | .column values => values

/-- Combines two values by an operation on columns. Two single cells give a single cell. -/
def combine (rows : Nat) (operation : Column → Column → Except ColumnError Column)
    (left right : Value) : Except FormulaError Value :=
  match left, right with
  | .cell a, .cell b =>
      match operation (Column.lossy [a]) (Column.lossy [b]) with
      | .ok result => .ok (.cell ((result.get? 0).getD .null))
      | .error error => .error (.column error)
  | _, _ =>
      match operation (left.toColumn rows) (right.toColumn rows) with
      | .ok result => .ok (.column result)
      | .error error => .error (.column error)

/-- The logical negation of a value. -/
def invert : Value → Value
  | .cell value => .cell (Cell.ofTruth (value.truth.map fun truth => !truth))
  | .column values => .column values.not

/-- The list of some values, row by row. -/
def list (rows : Nat) (items : List Value) : Value :=
  if items.all isCell then .cell (.list (items.map (cellAt 0)))
  else
    .column (Column.lossy ((List.range rows).map fun row => .list (items.map (cellAt row))))

end Value

/-- The results of a function in each of the given rows, from the first to the last. -/
def resultsInRows (function : Builtin) (arguments : List Value) : List Nat → Drawing (List Cell)
  | [] => pure []
  | row :: rest => do
      let cell ← function.onCells (arguments.map (Value.cellAt row))
      let cells ← resultsInRows function arguments rest
      pure (cell :: cells)

/-- Applies a function once when its arguments are single cells, and else in every row. -/
def inEveryRow (rows : Nat) (function : Builtin) (arguments : List Value) : Drawing Value :=
  if arguments.all Value.isCell then do
    let cell ← function.onCells (arguments.map (Value.cellAt 0))
    pure (.cell cell)
  else do
    let cells ← resultsInRows function arguments (List.range rows)
    pure (.column (Column.lossy cells))

/-- Checks that every keyword is one of the function's. -/
def checkKeywords (function : Builtin) : List (String × Value) → Except FormulaError Unit
  | [] => .ok ()
  | (keyword, _) :: keywords =>
      if function.keyword? == some keyword then checkKeywords function keywords
      else .error (.unexpectedKeyword function keyword)

/-- Calls a function. Keyword arguments follow the positional ones. -/
def callResult (rows : Nat) (function : Builtin) (positional : List Value)
    (keywords : List (String × Value)) : Drawing Value := do
  Drawing.fixed (checkKeywords function keywords)
  let arguments := positional ++ keywords.map Prod.snd
  if function.arity.admits arguments.length then inEveryRow rows function arguments
  else throw (.arity function arguments.length)

mutual

/-- The value of a part of a formula. Operands are evaluated from left to right, both of
them also where the first decides. -/
def valueOf (table : Table) : Formula → Drawing Value
  | .literal value => pure (.cell value)
  | .name id =>
      match table.column? id with
      | some values => pure (.column values)
      | none => throw (.unknownName id)
  | .negate operand => do
      let operand ← valueOf table operand
      Drawing.fixed (Value.combine table.rows (Column.arithmetic .sub) (.cell (.int 0)) operand)
  | .invert operand => do
      let operand ← valueOf table operand
      pure operand.invert
  | .arithmetic operator left right => do
      let left ← valueOf table left
      let right ← valueOf table right
      Drawing.fixed (Value.combine table.rows (Column.arithmetic operator) left right)
  | .compare operator left right => do
      let left ← valueOf table left
      let right ← valueOf table right
      Drawing.fixed (Value.combine table.rows (Column.compare operator) left right)
  | .both left right => do
      let left ← valueOf table left
      let right ← valueOf table right
      Drawing.fixed (Value.combine table.rows Column.and left right)
  | .either left right => do
      let left ← valueOf table left
      let right ← valueOf table right
      Drawing.fixed (Value.combine table.rows Column.or left right)
  | .call callee arguments keywords => do
      let function ← Drawing.fixed (calledFunction callee)
      let arguments ← valuesOf table arguments
      let keywords ← keywordValuesOf table keywords
      callResult table.rows function arguments keywords
  | .member _ id => throw (.disallowed (.member id))
  | .subscript _ _ => throw (.disallowed .subscript)
  | .list items => do
      let items ← valuesOf table items
      pure (Value.list table.rows items)

/-- The values of formulas, from left to right. -/
def valuesOf (table : Table) : List Formula → Drawing (List Value)
  | [] => pure []
  | formula :: formulas => do
      let value ← valueOf table formula
      let values ← valuesOf table formulas
      pure (value :: values)

/-- The values of keyword arguments, from left to right. -/
def keywordValuesOf (table : Table) : List (String × Formula) → Drawing (List (String × Value))
  | [] => pure []
  | (keyword, formula) :: keywords => do
      let value ← valueOf table formula
      let values ← keywordValuesOf table keywords
      pure ((keyword, value) :: values)

end

/-- The column of a formula over a table. All of the formula is checked before any of it is
evaluated. -/
def evaluate (table : Table) (formula : Formula) : Drawing Column := do
  Drawing.fixed (permit table formula)
  let value ← valueOf table formula
  pure (value.toColumn table.rows)

/-- Reads a text as a formula and evaluates it with a fresh generator. -/
def evaluateText (table : Table) (text : String) (seed : Nat) : Except FormulaError Column :=
  match ofText text with
  | .error fault => .error (.malformed text fault)
  | .ok formula => ((evaluate table formula).run (Generator.ofSeed seed)).1

end LogPipe.Formula
