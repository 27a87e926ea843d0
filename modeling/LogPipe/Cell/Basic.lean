/-!
# Cells

A cell is one value of a table: a missing marker, a truth value, a 64-bit integer, a
64-bit float, a time, a text, or a list of cells. The kind of a cell says which of these
it is. A float that is not a number counts as missing, like the markers.
-/

namespace LogPipe

/-- The kinds of cells, which are also the kinds of columns. -/
inductive Kind where
  | null
  | bool
  | int
  | float
  | time
  | text
  | list
deriving DecidableEq, Repr

namespace Kind

/-- The name of a kind in stored data. -/
def name : Kind → String
  | .null => "null"
  | .bool => "bool"
  | .int => "int64"
  | .float => "float64"
  | .time => "datetime"
  | .text => "utf8"
  | .list => "list"

/-- The name of a kind in messages. -/
def label : Kind → String
  | .null => "Null"
  | .bool => "Bool"
  | .int => "Int64"
  | .float => "Float64"
  | .time => "Datetime"
  | .text => "Utf8"
  | .list => "List"

/-- The kind with a given name. -/
def ofName? (name : String) : Option Kind :=
  [Kind.null, .bool, .int, .float, .time, .text, .list].find? fun kind => kind.name == name

end Kind

/-- The markers of a missing cell: in general, where a number was expected, and where a
time was expected. -/
inductive Marker where
  | null
  | nan
  | nat
deriving DecidableEq, Repr

/-- The name of a marker in messages. -/
def Marker.label : Marker → String
  | .null => "Null"
  | .nan => "NaN"
  | .nat => "NaT"

/-- One value of a table. A time is a number of milliseconds since 1970-01-01 UTC. -/
inductive Cell where
  | missing (marker : Marker)
  | bool (value : Bool)
  | int (value : Int64)
  | float (value : Float)
  | time (millis : Int64)
  | text (value : String)
  | list (items : List Cell)
deriving Repr, Inhabited

namespace Cell

/-- The general missing cell. -/
def null : Cell := .missing .null

mutual

/-- Cells are compared part by part; floats by their bits. -/
def decEq : (left right : Cell) → Decidable (left = right)
  | .missing a, .missing b =>
      if h : a = b then isTrue (by rw [h]) else isFalse (by simpa using h)
  | .bool a, .bool b =>
      if h : a = b then isTrue (by rw [h]) else isFalse (by simpa using h)
  | .int a, .int b =>
      if h : a = b then isTrue (by rw [h]) else isFalse (by simpa using h)
  | .float a, .float b =>
      if h : a = b then isTrue (by rw [h]) else isFalse (by simpa using h)
  | .time a, .time b =>
      if h : a = b then isTrue (by rw [h]) else isFalse (by simpa using h)
  | .text a, .text b =>
      if h : a = b then isTrue (by rw [h]) else isFalse (by simpa using h)
  | .list a, .list b =>
      match decEqList a b with
      | isTrue h => isTrue (by rw [h])
      | isFalse h => isFalse (by simpa using h)
  | .missing _, .bool _ | .missing _, .int _ | .missing _, .float _ | .missing _, .time _
  | .missing _, .text _ | .missing _, .list _
  | .bool _, .missing _ | .bool _, .int _ | .bool _, .float _ | .bool _, .time _
  | .bool _, .text _ | .bool _, .list _
  | .int _, .missing _ | .int _, .bool _ | .int _, .float _ | .int _, .time _
  | .int _, .text _ | .int _, .list _
  | .float _, .missing _ | .float _, .bool _ | .float _, .int _ | .float _, .time _
  | .float _, .text _ | .float _, .list _
  | .time _, .missing _ | .time _, .bool _ | .time _, .int _ | .time _, .float _
  | .time _, .text _ | .time _, .list _
  | .text _, .missing _ | .text _, .bool _ | .text _, .int _ | .text _, .float _
  | .text _, .time _ | .text _, .list _
  | .list _, .missing _ | .list _, .bool _ | .list _, .int _ | .list _, .float _
  | .list _, .time _ | .list _, .text _ => isFalse (by simp)

/-- Lists of cells are compared item by item. -/
def decEqList : (left right : List Cell) → Decidable (left = right)
  | [], [] => isTrue rfl
  | [], _ :: _ => isFalse (by simp)
  | _ :: _, [] => isFalse (by simp)
  | a :: as, b :: bs =>
      match decEq a b, decEqList as bs with
      | isTrue h, isTrue t => isTrue (by rw [h, t])
      | isFalse h, _ => isFalse (by simp [h])
      | _, isFalse t => isFalse (by simp [t])

end

instance : DecidableEq Cell := decEq

/-- The kind of a cell. -/
def kind : Cell → Kind
  | .missing _ => .null
  | .bool _ => .bool
  | .int _ => .int
  | .float _ => .float
  | .time _ => .time
  | .text _ => .text
  | .list _ => .list

/-- Whether a cell counts as missing. -/
def isMissing : Cell → Bool
  | .missing _ => true
  | .float x => x.isNaN
  | _ => false

/-- Whether a cell is missing where a number was expected. -/
def isNaN : Cell → Bool
  | .missing .nan => true
  | .float x => x.isNaN
  | _ => false

/-- Whether a cell is a present number. -/
def isNumeric : Cell → Bool
  | .int _ => true
  | .float x => !x.isNaN
  | _ => false

/-- The marker of a missing cell in a column of the given kind. -/
def missingFor : Kind → Cell
  | .float => .missing .nan
  | .time => .missing .nat
  | _ => .missing .null

/-- Whether a cell counts as true: missing cells, false, zeros and empty texts and lists do
not. -/
def isTruthy : Cell → Bool
  | .missing _ => false
  | .bool value => value
  | .int value => value != 0
  | .float x => !x.isNaN && x != 0.0
  | .time _ => true
  | .text value => !value.isEmpty
  | .list items => !items.isEmpty

/-- The text of a text cell. -/
def asText? : Cell → Option String
  | .text value => some value
  | _ => none

/-- The truth value of a cell, unknown when it is missing. -/
def truth (cell : Cell) : Option Bool :=
  if cell.isMissing then none else some cell.isTruthy

/-- The cell of a truth value that may be unknown. -/
def ofTruth : Option Bool → Cell
  | some value => .bool value
  | none => .null

/-- The nearest float to a 64-bit integer. -/
def floatOfInt (value : Int64) : Float :=
  Float.ofInt value.toInt

/-- The float of a truth value. -/
def floatOfBool (value : Bool) : Float :=
  if value then 1.0 else 0.0

end Cell

end LogPipe
