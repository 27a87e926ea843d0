import LogPipe.Calendar.Civil
import LogPipe.Cell.Basic
import LogPipe.Decimal.Layout
import LogPipe.Decimal.Reading

/-!
# Cells as text

Every cell has a written form, empty for a missing one. In the other direction a text is
taken for an integer, a float, a truth value or itself, whichever fits first.
-/

namespace LogPipe.Cell

open LogPipe.Calendar LogPipe.Decimal LogPipe.Text

/-- The written form of a float cell; the empty text when it is not a number. -/
def writeFloat (x : Float) : String :=
  if x.isNaN then "" else Layout.cell.write x

mutual

/-- The written form of a cell. Items of a list are joined by spaces. -/
def written : Cell → String
  | .missing _ => ""
  | .bool value => if value then "true" else "false"
  | .int value => toString value.toInt
  | .float x => writeFloat x
  | .time millis => writeTime millis.toInt
  | .text value => value
  | .list items => " ".intercalate (writtenList items)

/-- The written forms of the items of a list. -/
def writtenList : List Cell → List String
  | [] => []
  | item :: items => item.written :: writtenList items

end

/-- The cell that a text without blanks at its ends stands for. A float needs a digit, so
that words such as `nan` and `inf` stay texts. -/
def ofTrimmed (text : List Char) : Cell :=
  match readInt64? text with
  | some value => .int value
  | none =>
      match (if text.any isDigit then readFloat? text else none) with
      | some value => .float value
      | none =>
          if text == ['t', 'r', 'u', 'e'] then .bool true
          else if text == ['f', 'a', 'l', 's', 'e'] then .bool false
          else .text (String.ofList text)

/-- The cell that a text stands for; a blank text is missing. -/
def infer (text : String) : Cell :=
  let trimmed := trim text.toList
  if trimmed.isEmpty then .null else ofTrimmed trimmed

/-- The number a cell stands for in comparisons: numbers and truth values as they are, and
texts that read as a number. -/
def numericValue : Cell → Option Float
  | .int value => some (floatOfInt value)
  | .float x => if x.isNaN then none else some x
  | .bool value => some (floatOfBool value)
  | .text value =>
      match infer value with
      | .int value => some (floatOfInt value)
      | .float x => some x
      | _ => none
  | _ => none

end LogPipe.Cell
