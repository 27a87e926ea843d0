import LogPipe.Cell.Order
import LogPipe.Text.Visible

/-!
# Kinds of mixed cells and conversion between kinds

Two kinds that can share a column have a common kind. A cell is cast to a kind only when
nothing is lost: floats become integers only when they are whole, and numbers become truth
values only when they are zero or one.
-/

namespace LogPipe

open LogPipe.Calendar LogPipe.Decimal LogPipe.Text

/-- Why cells have no common kind, or a cell has no value of a kind. -/
inductive CellError where
  | incompatible (left right : Kind)
  | invalidCast (source target : Kind)
  | lossyFloat (value : Float)
  | invalidBoolInt (value : Int64)
  | invalidBoolFloat (value : Float)
  | notNumeric (value : String) (kind : Kind)
  | invalidNumber (value : String)
  | invalidTime (value : String)
  | missing (marker : Marker)
deriving DecidableEq, Repr

/-- The text of the error. -/
def CellError.message : CellError → String
  | .incompatible left right =>
      left.label ++ " and " ++ right.label ++ " values cannot share a column"
  | .invalidCast source target => "no conversion from " ++ source.label ++ " to " ++ target.label
  | .lossyFloat value => Layout.plain.write value ++ " is not a whole number"
  | .invalidBoolInt value => "integer " ++ toString value.toInt ++ " is not a boolean (0 or 1)"
  | .invalidBoolFloat value =>
      "float " ++ Layout.plain.write value ++ " is not a boolean (0.0 or 1.0)"
  | .notNumeric value kind => quoted value ++ " (" ++ kind.label ++ ") is not numeric"
  | .invalidNumber value => "value " ++ quoted value ++ " cannot be parsed as a number"
  | .invalidTime value => "value " ++ quoted value ++ " cannot be parsed as a timestamp"
  | .missing marker => "missing value (" ++ marker.label ++ ")"

namespace Kind

/-- The kind that cells of two kinds share. A list kind absorbs every other, and truth
values become numbers beside numbers. -/
def common (left right : Kind) : Except CellError Kind :=
  if left == right then .ok left
  else
    match left, right with
    | .null, other => .ok other
    | other, .null => .ok other
    | .list, _ => .ok .list
    | _, .list => .ok .list
    | .bool, .int => .ok .int
    | .int, .bool => .ok .int
    | .bool, .float => .ok .float
    | .float, .bool => .ok .float
    | .int, .float => .ok .float
    | .float, .int => .ok .float
    | _, _ => .error (.incompatible left right)

/-- The common kind of a kind and all cells of a list, from left to right. -/
def commonFrom (kind : Kind) : List Cell → Except CellError Kind
  | [] => .ok kind
  | cell :: cells =>
      match common kind cell.kind with
      | .ok next => commonFrom next cells
      | .error error => .error error

/-- The common kind of a list of cells. -/
def infer (cells : List Cell) : Except CellError Kind :=
  commonFrom .null cells

end Kind

namespace Cell

/-- The float of a cell that is or reads as a plain number. -/
def toFloat : Cell → Except CellError Float
  | .bool value => .ok (floatOfBool value)
  | .int value => .ok (floatOfInt value)
  | .float x => .ok x
  | .time millis => .ok (floatOfInt millis)
  | .missing marker => .error (.missing marker)
  | .text value => .error (.notNumeric value .text)
  | .list items => .error (.notNumeric (written (.list items)) .list)

/-- The integer of a whole float below `2 ^ 63` in magnitude. -/
def wholeFloat? (x : Float) : Option Int64 :=
  if isWhole x && x.abs < 9223372036854775808.0 then some (saturate x) else none

/-- Casts a present cell to a kind other than its own. -/
def castTo (target : Kind) (cell : Cell) : Except CellError Cell :=
  match target, cell with
  | .null, _ => .ok .null
  | .bool, .int value =>
      if value == 0 then .ok (.bool false)
      else if value == 1 then .ok (.bool true)
      else .error (.invalidBoolInt value)
  | .bool, .float x =>
      if x == 0.0 || x == 1.0 then .ok (.bool (x == 1.0)) else .error (.invalidBoolFloat x)
  | .int, .bool value => .ok (.int (if value then 1 else 0))
  | .int, .float x =>
      match wholeFloat? x with
      | some value => .ok (.int value)
      | none => .error (.lossyFloat x)
  | .float, .bool value => .ok (.float (floatOfBool value))
  | .float, .int value => .ok (.float (floatOfInt value))
  | .time, .text value =>
      match readTime? value with
      | some millis => .ok (.time (Int64.ofInt millis))
      | none => .error (.invalidTime value)
  | .list, _ => .ok (.list [cell])
  | _, _ => .error (.invalidCast cell.kind target)

/-- Casts a cell to a kind. A missing marker becomes the marker of that kind. -/
def cast (target : Kind) (cell : Cell) : Except CellError Cell :=
  match cell with
  | .missing _ => .ok (missingFor target)
  | _ => if cell.kind == target then .ok cell else castTo target cell

end Cell

end LogPipe
