import LogPipe.Calendar.Reading
import LogPipe.Cell.Written

/-!
# Comparing cells

Two orders are kept apart. The comparison operators use a partial order, which looks for
the number or the time behind a text and leaves missing and unlike cells unordered.
Sorting uses a total preorder, in which cells of different ranks are ordered by rank.
-/

namespace LogPipe.Cell

open LogPipe.Calendar LogPipe.Decimal

/-- The numeric order of floats, undefined when one is not a number. -/
def compareFloats? (a b : Float) : Option Ordering :=
  if a < b then some .lt
  else if a == b then some .eq
  else if b < a then some .gt
  else none

/-- The place of a float in the total order of floats: by sign, then by magnitude, so that
a negative zero comes just before the positive one. -/
def floatRank (x : Float) : Int :=
  let bits : Nat := x.toBits.toNat
  if bits < twoTo 63 then bits else -((bits - twoTo 63 : Nat) : Int) - 1

/-- The total order of floats. -/
def compareFloats (a b : Float) : Ordering :=
  compare (floatRank a) (floatRank b)

/-- The order of 64-bit integers. -/
def compareInts (a b : Int64) : Ordering :=
  compare a.toInt b.toInt

/-- The place of a cell's kind in the total order; a missing cell comes first. -/
def rank (cell : Cell) : Nat :=
  if cell.isMissing then 0
  else
    match cell with
    | .missing _ => 0
    | .bool _ => 1
    | .int _ => 2
    | .float _ => 2
    | .time _ => 3
    | .text _ => 4
    | .list _ => 5

mutual

/-- The total preorder used for sorting, extremes and the order of groups. -/
def totalCompare (left right : Cell) : Ordering :=
  if left.rank != right.rank then compare left.rank right.rank
  else
    match left, right with
    | .bool a, .bool b => compare a b
    | .int a, .int b => compareInts a b
    | .int a, .float b => compareFloats (floatOfInt a) b
    | .float a, .int b => compareFloats a (floatOfInt b)
    | .float a, .float b => compareFloats a b
    | .time a, .time b => compareInts a b
    | .text a, .text b => compare a b
    | .list as, .list bs => compareLists as bs
    | _, _ => .eq

/-- Lists are compared item by item; of two equal beginnings the shorter comes first. -/
def compareLists : List Cell → List Cell → Ordering
  | [], [] => .eq
  | [], _ :: _ => .lt
  | _ :: _, [] => .gt
  | a :: as, b :: bs =>
      match totalCompare a b with
      | .eq => compareLists as bs
      | decided => decided

end

/-- The order used by the comparison operators. Texts compare as texts, times also with
texts that read as a time, lists with lists, and all else by the numbers it stands for. -/
def compare? (left right : Cell) : Option Ordering :=
  if left.isMissing || right.isMissing then none
  else
    match left, right with
    | .int a, .int b => some (compareInts a b)
    | .text a, .text b => some (compare a b)
    | .bool a, .bool b => some (compare a b)
    | .time a, .time b => some (compareInts a b)
    | .time a, .text b => (readTime? b).map fun b => compare a.toInt b
    | .text a, .time b => (readTime? a).map fun a => compare a b.toInt
    | .list as, .list bs => some (compareLists as bs)
    | .list _, _ => none
    | _, .list _ => none
    | _, _ =>
        match left.numericValue, right.numericValue with
        | some a, some b => compareFloats? a b
        | _, _ => none

mutual

/-- Equality of cells up to the spelling of missing values: all markers and floats that are
not numbers are one value, and zeros of both signs are equal. -/
def semanticEq : Cell → Cell → Bool
  | .float a, .float b => (a.isNaN && b.isNaN) || a == b
  | .missing _, .float b => b.isNaN
  | .float a, .missing _ => a.isNaN
  | .missing _, .missing _ => true
  | .bool a, .bool b => a == b
  | .int a, .int b => a == b
  | .time a, .time b => a == b
  | .text a, .text b => a == b
  | .list as, .list bs => semanticEqLists as bs
  | _, _ => false

/-- Lists are equal when they have the same length and equal items. -/
def semanticEqLists : List Cell → List Cell → Bool
  | [], [] => true
  | a :: as, b :: bs => semanticEq a b && semanticEqLists as bs
  | _, _ => false

end

end LogPipe.Cell

namespace LogPipe

/-- The comparison operators. -/
inductive Comparison where
  | eq
  | ne
  | lt
  | le
  | gt
  | ge
deriving DecidableEq, Repr

namespace Comparison

/-- The operator with its operands exchanged. -/
def reversed : Comparison → Comparison
  | .eq => .eq
  | .ne => .ne
  | .lt => .gt
  | .le => .ge
  | .gt => .lt
  | .ge => .le

/-- Whether an ordering satisfies the operator. -/
def holds : Comparison → Ordering → Bool
  | .eq, ordering => ordering == .eq
  | .ne, ordering => ordering != .eq
  | .lt, ordering => ordering == .lt
  | .le, ordering => ordering != .gt
  | .gt, ordering => ordering == .gt
  | .ge, ordering => ordering != .lt

/-- Compares two cells: unknown when one is missing, and unequal and unordered when they
cannot be compared. -/
def apply (operator : Comparison) (left right : Cell) : Option Bool :=
  if left.isMissing || right.isMissing then none
  else
    match left.compare? right with
    | some ordering => some (operator.holds ordering)
    | none => some (operator == .ne)

end Comparison

end LogPipe
