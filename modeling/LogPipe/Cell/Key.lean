import LogPipe.Cell.Order
import LogPipe.Decimal.Binary

/-!
# Keys of cells

The key of a cell is its identity in grouping, joining and removing duplicates. A whole
float below `9 * 10 ^ 15` has the key of the equal integer, and all missing cells have
one key.
-/

namespace LogPipe

/-- The identity of a cell. -/
inductive Key where
  | missing
  | bool (value : Bool)
  | int (value : Int64)
  | float (value : Float)
  | time (millis : Int64)
  | text (value : String)
  | list (items : List Key)
deriving Repr

namespace Key

mutual

/-- Keys are compared part by part; floats by their bits. -/
def decEq : (left right : Key) → Decidable (left = right)
  | .missing, .missing => isTrue rfl
  | .bool a, .bool b =>
      if h : a = b then isTrue (by rw [h]) else isFalse (by simpa using h)
  | .int a, .int b =>
      if h : a = b then isTrue (by rw [h]) else isFalse (by simpa using h)
  | .float a, .float b =>
      if h : a = b then isTrue (by rw [h]) else isFalse (by simpa using h)
  | .time a, .time b =>
      if h : a = b then isTrue (by rw [h]) else isFalse (by simpa using h)
  | .text a, .text b =>
      if h : a = b then isTrue (by rw [h]) else isFalse (by simpa using h)
  | .list a, .list b =>
      match decEqList a b with
      | isTrue h => isTrue (by rw [h])
      | isFalse h => isFalse (by simpa using h)
  | .missing, .bool _ | .missing, .int _ | .missing, .float _ | .missing, .time _
  | .missing, .text _ | .missing, .list _
  | .bool _, .missing | .bool _, .int _ | .bool _, .float _ | .bool _, .time _
  | .bool _, .text _ | .bool _, .list _
  | .int _, .missing | .int _, .bool _ | .int _, .float _ | .int _, .time _
  | .int _, .text _ | .int _, .list _
  | .float _, .missing | .float _, .bool _ | .float _, .int _ | .float _, .time _
  | .float _, .text _ | .float _, .list _
  | .time _, .missing | .time _, .bool _ | .time _, .int _ | .time _, .float _
  | .time _, .text _ | .time _, .list _
  | .text _, .missing | .text _, .bool _ | .text _, .int _ | .text _, .float _
  | .text _, .time _ | .text _, .list _
  | .list _, .missing | .list _, .bool _ | .list _, .int _ | .list _, .float _
  | .list _, .time _ | .list _, .text _ => isFalse (by simp)

/-- Lists of keys are compared item by item. -/
def decEqList : (left right : List Key) → Decidable (left = right)
  | [], [] => isTrue rfl
  | [], _ :: _ => isFalse (by simp)
  | _ :: _, [] => isFalse (by simp)
  | a :: as, b :: bs =>
      match decEq a b, decEqList as bs with
      | isTrue h, isTrue t => isTrue (by rw [h, t])
      | isFalse h, _ => isFalse (by simp [h])
      | _, isFalse t => isFalse (by simp [t])

end

instance : DecidableEq Key := decEq

end Key

namespace Cell

open LogPipe.Decimal

/-- The key of a present float. -/
def floatKey (x : Float) : Key :=
  if x.abs < 9.0e15 then
    match (Binary.ofFloat x).toInt? with
    | some value => .int (Int64.ofInt value)
    | none => .float x
  else
    .float x

mutual

/-- The key of a cell. -/
def key : Cell → Key
  | .missing _ => .missing
  | .bool value => .bool value
  | .int value => .int value
  | .float x => if x.isNaN then .missing else floatKey x
  | .time millis => .time millis
  | .text value => .text value
  | .list items => .list (keyList items)

/-- The keys of the items of a list. -/
def keyList : List Cell → List Key
  | [] => []
  | item :: items => item.key :: keyList items

end

end Cell

end LogPipe
