import LogPipe.Cell.Key
import LogPipe.Cell.Written

/-!
# Cells with several values

A list is a multivalue. Any other cell counts as a multivalue of one element, and a
missing cell as one without elements.
-/

namespace LogPipe.Cell

/-- The elements of a cell. -/
def elements (cell : Cell) : List Cell :=
  match cell with
  | .list items => items
  | _ => if cell.isMissing then [] else [cell]

/-- The cell with the given elements; missing when there are none. -/
def ofElements (items : List Cell) : Cell :=
  if items.isEmpty then .null else .list items

/-- Changes the items of a list; any other cell is kept. -/
def mapItems (change : List Cell → Cell) : Cell → Cell
  | .list items => change items
  | cell => cell

/-- The items of a list written with a separator between them. -/
def joinItems (separator : String) : Cell → Cell :=
  mapItems fun items => .text (separator.intercalate (items.map written))

/-- The items of a list from the last to the first. -/
def reverseItems : Cell → Cell :=
  mapItems fun items => .list items.reverse

/-- The items that have no equal item before them. -/
def distinct (seen : List Key) : List Cell → List Cell
  | [] => []
  | item :: items =>
      if seen.contains item.key then distinct seen items
      else item :: distinct (item.key :: seen) items

/-- The distinct items of a list, each at its first place. -/
def distinctItems : Cell → Cell :=
  mapItems fun items => .list (distinct [] items)

/-- The items of a list that are written as a given text. -/
def keepItems (wanted : String) : Cell → Cell :=
  mapItems fun items => .list (items.filter fun item => item.written == wanted)

/-- The element at an index; a negative one counts from the end. -/
def elementAt? (items : List Cell) (index : Int) : Option Cell :=
  let position := if index < 0 then items.length + index else index
  if position < 0 then none else items[position.toNat]?

/-- The elements at several indexes. One index picks an element, several make a multivalue of
those that exist. -/
def pick (indexes : List Int) (cell : Cell) : Cell :=
  match indexes with
  | [index] => (elementAt? cell.elements index).getD .null
  | _ => ofElements (indexes.filterMap (elementAt? cell.elements))

/-- The number of elements. -/
def elementCount (cell : Cell) : Cell :=
  .int (Int64.ofInt cell.elements.length)

/-- The number of distinct elements that are not missing. -/
def distinctElementCount (cell : Cell) : Cell :=
  let present := cell.elements.filter fun item => !item.isMissing
  .int (Int64.ofInt (distinct [] present).length)

/-- The position of the first element whose written form passes a test, or -1. -/
def findElement (test : String → Bool) (cell : Cell) : Cell :=
  match cell.elements.findIdx? fun item => test item.written with
  | some position => .int (Int64.ofInt position)
  | none => .int (-1)

/-- The elements of two cells written in pairs. -/
def zipElements (separator : String) (left right : Cell) : Cell :=
  ofElements (List.zipWith (fun a b => .text (a.written ++ separator ++ b.written))
    left.elements right.elements)

/-- The elements of several cells as one multivalue. -/
def appendElements (cells : List Cell) : Cell :=
  ofElements (cells.flatMap elements)

end LogPipe.Cell
