import LogPipe.Cell.Arithmetic

/-!
# Columns

A column is a list of cells of one kind, any of which may be missing. A column is built
strictly, from cells that have a common kind, or always, by writing unlike cells as texts
and wrapping single cells beside lists.
-/

namespace LogPipe

/-- A list of cells of one kind. -/
structure Column where
  kind : Kind
  cells : List Cell
deriving DecidableEq, Repr

namespace Column

/-- A cell made to fit a column: one of the column's kind is kept as it is. -/
def fit (kind : Kind) (cell : Cell) : Except CellError Cell :=
  if cell.kind == kind then .ok cell else cell.cast kind

/-- Fits cells one after the other, stopping at the first that does not fit. -/
def fitAll (kind : Kind) : List Cell → Except CellError (List Cell)
  | [] => .ok []
  | cell :: cells =>
      match fit kind cell with
      | .error error => .error error
      | .ok fitted =>
          match fitAll kind cells with
          | .error error => .error error
          | .ok rest => .ok (fitted :: rest)

/-- The column of a given kind with the given cells. -/
def ofKind (kind : Kind) (cells : List Cell) : Except CellError Column :=
  (fitAll kind cells).map fun fitted => ⟨kind, fitted⟩

/-- The column of cells that have a common kind. -/
def ofCells (cells : List Cell) : Except CellError Column :=
  match Kind.infer cells with
  | .ok kind => ofKind kind cells
  | .error error => .error error

/-- A cell as an item list, for a column of lists. -/
def wrap (cell : Cell) : Cell :=
  match cell with
  | .list _ => cell
  | _ => if cell.isMissing then .null else .list [cell]

/-- A cell as text, for a column of cells without a common kind. -/
def asText (cell : Cell) : Cell :=
  match cell with
  | .text _ => cell
  | _ => if cell.isMissing then .null else .text cell.written

/-- The column of any cells: of lists when there is a list, of their common kind when they
have one, and otherwise of texts. -/
def lossy (cells : List Cell) : Column :=
  if cells.any fun cell => cell.kind == .list then
    ⟨.list, cells.map wrap⟩
  else
    match ofCells cells with
    | .ok column => column
    | .error _ => ⟨.text, cells.map asText⟩

/-- The column that repeats one cell. -/
def replicate (count : Nat) (cell : Cell) : Column :=
  lossy (List.replicate count cell)

/-- The column of missing cells. -/
def nulls (count : Nat) : Column :=
  replicate count .null

/-- The number of cells. -/
def size (column : Column) : Nat :=
  column.cells.length

/-- The cell at a position. -/
def get? (column : Column) (position : Nat) : Option Cell :=
  column.cells[position]?

/-- The cell at a position, missing outside the column. -/
def cellAt (column : Column) (position : Nat) : Cell :=
  (column.get? position).getD (Cell.missingFor column.kind)

/-- The cells at the given positions. -/
def take (column : Column) (positions : List Nat) : Column :=
  ⟨column.kind, positions.map column.cellAt⟩

/-- The cells at the given positions, missing where there is no position. Missing cells
take the marker of the column's kind. -/
def reindex (column : Column) (positions : List (Option Nat)) : Except CellError Column :=
  ofKind column.kind (positions.map fun position =>
    match position with
    | some position => column.cellAt position
    | none => Cell.missingFor column.kind)

/-- The positions at which a mask is true. -/
def keptPositions (mask : List Bool) : List Nat :=
  mask.zipIdx.filterMap fun (keep, position) => if keep then some position else none

/-- The cells at which a mask is true. -/
def filter (column : Column) (mask : List Bool) : Except ColumnError Column :=
  if mask.length != column.size then .error (.lengthMismatch column.size mask.length)
  else .ok (column.take (keptPositions mask))

/-- One column below another. -/
def append (column other : Column) : Column :=
  lossy (column.cells ++ other.cells)

/-- Whether each row counts as true. -/
def mask (column : Column) : List Bool :=
  column.cells.map Cell.isTruthy

/-- The column of truth values that may be unknown. -/
def ofTruths (values : List (Option Bool)) : Column :=
  ⟨.bool, values.map fun value =>
    match value with
    | some value => .bool value
    | none => .null⟩

/-- Combines two columns of the same size row by row. -/
def zipTruths (f : Cell → Cell → Option Bool) (left right : Column) :
    Except ColumnError Column :=
  if left.size != right.size then .error (.lengthMismatch left.size right.size)
  else .ok (ofTruths (List.zipWith f left.cells right.cells))

/-- Applies an operator row by row, stopping at the first row it refuses. -/
def arithmeticCells (operator : Arithmetic) : List Cell → List Cell →
    Except ColumnError (List Cell)
  | left :: lefts, right :: rights =>
      match operator.apply left right with
      | .error error => .error error
      | .ok cell =>
          match arithmeticCells operator lefts rights with
          | .error error => .error error
          | .ok cells => .ok (cell :: cells)
  | _, _ => .ok []

/-- Arithmetic on two columns of the same size. -/
def arithmetic (operator : Arithmetic) (left right : Column) : Except ColumnError Column :=
  if left.size != right.size then .error (.lengthMismatch left.size right.size)
  else (arithmeticCells operator left.cells right.cells).map lossy

/-- Compares two columns of the same size; a missing operand leaves a row unknown. -/
def compare (operator : Comparison) (left right : Column) : Except ColumnError Column :=
  zipTruths operator.apply left right

/-- Compares every row with one cell. -/
def compareCell (operator : Comparison) (column : Column) (cell : Cell) : Column :=
  ofTruths (column.cells.map fun left => operator.apply left cell)

/-- Whether a cell equals one of the candidates; a missing cell equals none. -/
def isMember (candidates : List Cell) (cell : Cell) : Bool :=
  candidates.any fun candidate => Comparison.eq.apply cell candidate == some true

/-- Membership of every row in a list of candidates. -/
def isIn (column : Column) (candidates : List Cell) : Column :=
  ofTruths (column.cells.map fun cell => some (isMember candidates cell))

end Column

/-- Conjunction of truth values that may be unknown: false decides. -/
def kleeneAnd : Option Bool → Option Bool → Option Bool
  | some false, _ => some false
  | _, some false => some false
  | some true, some true => some true
  | _, _ => none

/-- Disjunction of truth values that may be unknown: true decides. -/
def kleeneOr : Option Bool → Option Bool → Option Bool
  | some true, _ => some true
  | _, some true => some true
  | some false, some false => some false
  | _, _ => none

namespace Column

/-- Conjunction of two columns of the same size. -/
def and (left right : Column) : Except ColumnError Column :=
  zipTruths (fun a b => kleeneAnd a.truth b.truth) left right

/-- Disjunction of two columns of the same size. -/
def or (left right : Column) : Except ColumnError Column :=
  zipTruths (fun a b => kleeneOr a.truth b.truth) left right

/-- Negation row by row; unknown rows stay unknown. -/
def not (column : Column) : Column :=
  ofTruths (column.cells.map fun cell => cell.truth.map fun value => !value)

end Column

end LogPipe
