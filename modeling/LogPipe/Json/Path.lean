import LogPipe.Decimal.Reading
import LogPipe.Json.Cells

/-!
# Paths into JSON values

A path is a sequence of steps between dots: a member name, or a number for an item of an
array, each followed by any number of item numbers in square brackets.
-/

namespace LogPipe.Json

open LogPipe.Decimal

/-- The item of an array. -/
def item? (index : Nat) : Json → Option Json
  | .array items => items[index]?
  | _ => none

/-- The value that one name leads to. -/
def named? (name : List Char) : Json → Option Json
  | .object members => members.lookup (String.ofList name)
  | .array items => (readNat? name).bind fun index => items[index]?
  | _ => none

/-- The number of an index, whose opening bracket has been taken off. -/
def indexOf? (index : List Char) : Option Nat :=
  if index.getLast? == some ']' then readNat? index.dropLast else none

/-- The value that a step leads to. -/
def step? (step : List Char) (json : Json) : Option Json :=
  let name := step.takeWhile fun c => c != '['
  let indexes := ((step.dropWhile fun c => c != '[').splitOn '[').filter fun index =>
    !index.isEmpty
  let start := if name.isEmpty then some json else named? name json
  indexes.foldl (fun value index => do
    let value ← value
    let index ← indexOf? index
    item? index value) start

/-- The value that a path leads to. -/
def path? (path : String) (json : Json) : Option Json :=
  ((path.toList.splitOn '.').filter fun step => !step.isEmpty).foldl
    (fun value step => value.bind (step? step)) (some json)

/-- The member names of all objects among values, each at its first occurrence. -/
def memberNames (values : List (Option Json)) : List String :=
  values.foldl (fun names value =>
    match value with
    | some (.object members) =>
        members.foldl (fun names entry =>
          if names.contains entry.1 then names else names ++ [entry.1]) names
    | _ => names) []

/-- The cell of a value that may be absent. -/
def cellOf (value : Option Json) : Cell :=
  (value.map Cell.ofJson).getD .null

/-- The cells of a member in each of some values. -/
def memberCells (values : List (Option Json)) (name : String) : List Cell :=
  values.map fun value =>
    match value with
    | some (.object members) => cellOf (members.lookup name)
    | _ => .null

end LogPipe.Json
