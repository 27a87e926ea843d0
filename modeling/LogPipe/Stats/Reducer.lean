import LogPipe.Cell.Cast
import LogPipe.Cell.Key
import LogPipe.Text.Case

/-!
# Reducers

A reducer turns the cells of a group into one cell and ignores missing cells. Integers stay
exact until a sum or a difference leaves the 64-bit range.
-/

namespace LogPipe

open LogPipe.Decimal

/-- A number that stays an integer as long as it can. -/
inductive Number where
  | int (value : Int64)
  | float (value : Float)
deriving DecidableEq, Repr

namespace Number

/-- The number of a cell; a text has to read as one. -/
def ofCell : Cell → Except CellError Number
  | .int value => .ok (.int value)
  | .bool value => .ok (.int (if value then 1 else 0))
  | .float x => .ok (.float x)
  | .time millis => .ok (.int millis)
  | .text value =>
      match Cell.infer value with
      | .int value => .ok (.int value)
      | .float x => .ok (.float x)
      | _ => .error (.notNumeric value .text)
  | .missing marker => .error (.missing marker)
  | .list items => .error (.notNumeric (Cell.written (.list items)) .list)

/-- The nearest float. -/
def toFloat : Number → Float
  | .int value => Cell.floatOfInt value
  | .float x => x

/-- The sum, exact on integers unless it leaves their range. -/
def add : Number → Number → Number
  | .int a, .int b =>
      match int64? (a.toInt + b.toInt) with
      | some value => .int value
      | none => .float (Cell.floatOfInt a + Cell.floatOfInt b)
  | a, b => .float (a.toFloat + b.toFloat)

/-- The difference, exact on integers unless it leaves their range. -/
def sub : Number → Number → Number
  | .int a, .int b =>
      match int64? (a.toInt - b.toInt) with
      | some value => .int value
      | none => .float (Cell.floatOfInt a - Cell.floatOfInt b)
  | a, b => .float (a.toFloat - b.toFloat)

/-- The cell of a number. -/
def toCell : Number → Cell
  | .int value => .int value
  | .float x => .float x

/-- The numbers of cells, stopping at the first that is none. -/
def ofCells : List Cell → Except CellError (List Number)
  | [] => .ok []
  | cell :: cells =>
      match ofCell cell with
      | .error error => .error error
      | .ok number =>
          match ofCells cells with
          | .error error => .error error
          | .ok numbers => .ok (number :: numbers)

end Number

/-- A distinct value among cells: its first occurrence and how often it occurs. -/
structure Tally where
  key : Key
  cell : Cell
  count : Nat
deriving DecidableEq, Repr

namespace Tally

/-- Counts one more cell. -/
def insert (tallies : List Tally) (cell : Cell) : List Tally :=
  if tallies.any fun entry => entry.key == cell.key then
    tallies.map fun entry =>
      if entry.key == cell.key then { entry with count := entry.count + 1 } else entry
  else
    tallies ++ [⟨cell.key, cell, 1⟩]

/-- The distinct values of cells in first-seen order. -/
def ofCells (cells : List Cell) : List Tally :=
  cells.foldl insert []

end Tally

/-- How often a value occurs among cells, and the position at which it occurs first. -/
structure Occurrence where
  count : Nat
  first : Nat
deriving DecidableEq, Repr

namespace Occurrence

/-- Counts the cell at a position in a map from keys. -/
def record (entries : List (Key × Occurrence)) (cell : Cell) (position : Nat) :
    List (Key × Occurrence) :=
  if entries.any fun entry => entry.1 == cell.key then
    entries.map fun (key, occurrence) =>
      (key, if key == cell.key then { occurrence with count := occurrence.count + 1 }
        else occurrence)
  else
    entries ++ [(cell.key, ⟨1, position⟩)]

/-- The occurrences of the values of cells, listed by key in first-seen order. -/
def ofCells (cells : List Cell) : List (Key × Occurrence) :=
  cells.zipIdx.foldl (fun entries (cell, position) => record entries cell position) []

/-- Frequent values come after rare ones, and of equally frequent ones the earlier comes last. -/
def order (left right : Occurrence) : Ordering :=
  (compare left.count right.count).then (compare right.first left.first)

/-- The later of two occurrences in their order, the second when neither is later. -/
def later (left right : Occurrence) : Occurrence :=
  if left.order right == .gt then left else right

/-- The occurrence that comes last in the order. -/
def last? : List Occurrence → Option Occurrence
  | [] => none
  | occurrence :: occurrences => some (occurrences.foldl later occurrence)

end Occurrence

namespace Reducer

/-- The cells that are not missing. -/
def present (cells : List Cell) : List Cell :=
  cells.filter fun cell => !cell.isMissing

/-- The numbers of the present cells. -/
def numbers (cells : List Cell) : Except CellError (List Number) :=
  Number.ofCells (present cells)

/-- The cell of a natural number. -/
def countCell (count : Nat) : Cell :=
  .int (Int64.ofInt count)

/-- The number of present cells. -/
def count (cells : List Cell) : Cell :=
  countCell (present cells).length

/-- The sum from left to right; missing when there is no number. -/
def sum (cells : List Cell) : Except CellError Cell :=
  (numbers cells).map fun
    | [] => .null
    | first :: rest => (rest.foldl Number.add first).toCell

/-- The float sum from left to right. The sum of nothing is a negative zero, so that it
changes no first summand. -/
def floatSum (xs : List Float) : Float :=
  xs.foldl (fun total x => total + x) (-0.0)

/-- The average; missing when there is no number. -/
def mean (cells : List Cell) : Except CellError Cell :=
  (numbers cells).map fun
    | [] => .null
    | found =>
        .float (floatSum (found.map Number.toFloat) / Float.ofNat found.length)

/-- The middle number in ascending order, or the average of the two in the middle. -/
def medianOf (found : List Number) : Cell :=
  let sorted := found.mergeSort fun a b =>
    Cell.compareFloats a.toFloat b.toFloat != .gt
  let middle := found.length / 2
  if found.length % 2 == 1 then
    ((sorted[middle]?).map Number.toCell).getD .null
  else
    match sorted[middle - 1]?, sorted[middle]? with
    | some a, some b => .float ((a.toFloat + b.toFloat) / 2.0)
    | _, _ => .null

/-- The median; missing when there is no number. -/
def median (cells : List Cell) : Except CellError Cell :=
  (numbers cells).map fun found => if found.isEmpty then .null else medianOf found

/-- The cell at the first position of the most frequent value; of several such values it is the
one that comes first.  The occurrences may be listed in any order. -/
def modeOf (entries : List (Key × Occurrence)) (found : List Cell) : Cell :=
  match Occurrence.last? (entries.map Prod.snd) with
  | some occurrence => (found[occurrence.first]?).getD .null
  | none => .null

/-- The most frequent value; of several the one that comes first. -/
def mode (cells : List Cell) : Cell :=
  modeOf (Occurrence.ofCells (present cells)) (present cells)

/-- The number of distinct values. -/
def distinctCount (cells : List Cell) : Cell :=
  countCell (Tally.ofCells (present cells)).length

/-- The earliest cell that no other one surpasses in the wanted direction. -/
def extreme (wanted : Ordering) (cells : List Cell) : Cell :=
  match present cells with
  | [] => .null
  | first :: rest =>
      rest.foldl (fun best cell => if cell.totalCompare best == wanted then cell else best) first

/-- The least cell in the total order. -/
def min (cells : List Cell) : Cell :=
  extreme .lt cells

/-- The greatest cell in the total order. -/
def max (cells : List Cell) : Cell :=
  extreme .gt cells

/-- Widens a range of numbers by one more number. -/
def widen (bounds : Number × Number) (number : Number) : Number × Number :=
  (if number.toFloat < bounds.1.toFloat then number else bounds.1,
    if bounds.2.toFloat < number.toFloat then number else bounds.2)

/-- The difference of the greatest and the least number. -/
def range (cells : List Cell) : Except CellError Cell :=
  (numbers cells).map fun
    | [] => .null
    | first :: rest =>
        let bounds := rest.foldl widen (first, first)
        (bounds.2.sub bounds.1).toCell

/-- The distinct values in first-seen order; missing when there is none. -/
def values (cells : List Cell) : Cell :=
  match Tally.ofCells (present cells) with
  | [] => .null
  | tallies => .list (tallies.map Tally.cell)

/-- The first present cell. -/
def first (cells : List Cell) : Cell :=
  ((present cells).head?).getD .null

/-- The last present cell. -/
def last (cells : List Cell) : Cell :=
  ((present cells).getLast?).getD .null

end Reducer

/-- The aggregation functions. -/
inductive AggregateFunction where
  | count
  | sum
  | mean
  | min
  | max
  | median
  | mode
  | distinctCount
  | values
  | first
  | last
  | range
deriving DecidableEq, Repr

namespace AggregateFunction

/-- The function with a given name in lower case. -/
def ofLowerName? : String → Option AggregateFunction
  | "count" => some .count
  | "sum" => some .sum
  | "avg" => some .mean
  | "mean" => some .mean
  | "min" => some .min
  | "max" => some .max
  | "median" => some .median
  | "mode" => some .mode
  | "dc" => some .distinctCount
  | "dcount" => some .distinctCount
  | "distinct_count" => some .distinctCount
  | "distinctcount" => some .distinctCount
  | "values" => some .values
  | "earliest" => some .first
  | "first" => some .first
  | "latest" => some .last
  | "last" => some .last
  | "range" => some .range
  | _ => none

/-- The function with a given name in any letter case. -/
def ofName? (name : String) : Option AggregateFunction :=
  ofLowerName? (Text.asciiLower name)

/-- Reduces the cells of a group. -/
def reduce (function : AggregateFunction) (cells : List Cell) : Except CellError Cell :=
  match function with
  | .count => .ok (Reducer.count cells)
  | .sum => Reducer.sum cells
  | .mean => Reducer.mean cells
  | .min => .ok (Reducer.min cells)
  | .max => .ok (Reducer.max cells)
  | .median => Reducer.median cells
  | .mode => .ok (Reducer.mode cells)
  | .distinctCount => .ok (Reducer.distinctCount cells)
  | .values => .ok (Reducer.values cells)
  | .first => .ok (Reducer.first cells)
  | .last => .ok (Reducer.last cells)
  | .range => Reducer.range cells

end AggregateFunction

end LogPipe
