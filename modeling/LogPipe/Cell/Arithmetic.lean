import LogPipe.Cell.Cast

/-!
# Arithmetic on cells

Integers and truth values are computed exactly as long as the result is a 64-bit integer;
everything else is computed on floats. A missing operand makes the result missing.
-/

namespace LogPipe

open LogPipe.Decimal

/-- The arithmetic operators. -/
inductive Arithmetic where
  | add
  | sub
  | mul
  | div
  | mod
  | pow
deriving DecidableEq, Repr

/-- The name of an operator in messages. -/
def Arithmetic.label : Arithmetic → String
  | .add => "Add"
  | .sub => "Sub"
  | .mul => "Mul"
  | .div => "Div"
  | .mod => "Mod"
  | .pow => "Pow"

/-- Why columns cannot be built or combined. -/
inductive ColumnError where
  | lengthMismatch (left right : Nat)
  | unsupported (operator : Arithmetic) (left right : Kind)
  | cell (error : CellError)
deriving DecidableEq, Repr

/-- The text of the error. -/
def ColumnError.message : ColumnError → String
  | .lengthMismatch left right =>
      "columns disagree on row count (" ++ toString left ++ " vs " ++ toString right ++ ")"
  | .unsupported operator left right =>
      "operator " ++ operator.label ++ " is not defined for " ++ left.label ++ " and "
        ++ right.label
  | .cell error => error.message

namespace Arithmetic

/-- The exact power of integers, when it is a 64-bit integer and the exponent is a natural
number below `2 ^ 32`. -/
def powInt? (base exponent : Int) : Option Int64 :=
  if exponent < 0 || twoTo 32 ≤ exponent then none
  else if base == 0 then some (if exponent == 0 then 1 else 0)
  else if base == 1 then some 1
  else if base == -1 then some (if exponent % 2 == 0 then 1 else -1)
  else if 64 ≤ exponent then none
  else int64? (Int.pow base exponent.toNat)

/-- The exact result on integers, when there is one. Division is never exact, and the
remainder takes the sign of the divisor. -/
def exactly? (operator : Arithmetic) (a b : Int) : Option Int64 :=
  match operator with
  | .add => int64? (a + b)
  | .sub => int64? (a - b)
  | .mul => int64? (a * b)
  | .div => none
  | .mod =>
      if a == Int64.minValue.toInt && b == -1 then none else int64? (Int.fmod a b)
  | .pow => powInt? a b

/-- The result on floats. -/
def onFloats (operator : Arithmetic) (a b : Float) : Cell :=
  match operator with
  | .add => .float (a + b)
  | .sub => .float (a - b)
  | .mul => .float (a * b)
  | .div => .float (a / b)
  | .mod => if b == 0.0 then .missing .nan else .float (a - b * (a / b).floor)
  | .pow => .float (a.pow b)

/-- The integer an operand stands for. -/
def integer? : Cell → Option Int
  | .int value => some value.toInt
  | .bool value => some (if value then 1 else 0)
  | _ => none

/-- Whether arithmetic on numbers refuses a cell. -/
def refuses : Cell → Bool
  | .text _ => true
  | .list _ => true
  | .time _ => true
  | _ => false

/-- Applies an operator to numbers and truth values. -/
def onNumbers (operator : Arithmetic) (left right : Cell) : Except CellError Cell := do
  let floats : Except CellError Cell := do
    let a ← left.toFloat
    let b ← right.toFloat
    pure (operator.onFloats a b)
  match integer? left, integer? right with
  | some a, some b =>
      if operator == .mod && b == 0 then pure .null
      else
        match operator.exactly? a b with
        | some value => pure (.int value)
        | none => floats
  | _, _ => floats

/-- Applies an operator to two cells. Texts can only be added to texts. -/
def apply (operator : Arithmetic) (left right : Cell) : Except ColumnError Cell :=
  if left.isMissing || right.isMissing then
    .ok (.missing (if left.isNaN || right.isNaN then .nan else .null))
  else
    match operator, left, right with
    | .add, .text a, .text b => .ok (.text (a ++ b))
    | _, _, _ =>
        if refuses left || refuses right then
          .error (.unsupported operator left.kind right.kind)
        else
          (operator.onNumbers left right).mapError .cell

end Arithmetic

end LogPipe
