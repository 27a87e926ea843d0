import LogPipe.Decimal.Binary
import LogPipe.Formula.Basic
import LogPipe.Stats.Reducer
import LogPipe.Text.Base64

/-!
# Applying functions to cells

Each function maps the cells of its arguments in one row to a cell. Functions of one value
go into lists item by item and leave missing cells missing. Only `randomize` draws from the
generator.
-/

/-!
## A seeded generator

Draws are a function of a 64-bit state, so that a run can be repeated from its seed. Every
draw steps the state by a fixed odd number and mixes the bits of the new state.
-/

namespace LogPipe

open LogPipe.Decimal

/-- The state of a generator. -/
structure Generator where
  state : UInt64
deriving DecidableEq, Repr

namespace Generator

/-- The generator of a seed. -/
def ofSeed (seed : Nat) : Generator :=
  ⟨seed.toUInt64⟩

/-- Mixes the bits of a state. -/
def mix (state : UInt64) : UInt64 :=
  let state := (state ^^^ (state >>> 30)) * 0xbf58476d1ce4e5b9
  let state := (state ^^^ (state >>> 27)) * 0x94d049bb133111eb
  state ^^^ (state >>> 31)

/-- Draws 64 bits. -/
def next (generator : Generator) : Nat × Generator :=
  let state := generator.state + 0x9e3779b97f4a7c15
  ((mix state).toNat, ⟨state⟩)

/-- Draws an integer between `-bound` and `bound`. -/
def integer (bound : Nat) (generator : Generator) : Int × Generator :=
  let (bits, generator) := generator.next
  ((bits % (2 * bound + 1) : Nat) - bound, generator)

/-- Draws a float between `-bound` and `bound`. -/
def float (bound : Float) (generator : Generator) : Float × Generator :=
  let (bits, generator) := generator.next
  let fraction := Float.ofNat (bits / twoTo 11) / 9007199254740992.0
  (fraction * (bound + bound) + -bound, generator)

end Generator

end LogPipe

/-! ## Functions -/

namespace LogPipe.Formula

open LogPipe.Decimal LogPipe.Text

/-- A computation that may fail and may draw from a generator. Draws made before a failure
stay made. -/
abbrev Drawing := ExceptT FormulaError (StateM Generator)

namespace Drawing

/-- A computation that draws nothing. -/
def fixed {α : Type} (result : Except FormulaError α) : Drawing α :=
  ExceptT.mk (pure result)

/-- A single draw. -/
def draw {α : Type} (next : Generator → α × Generator) : Drawing α :=
  ExceptT.mk fun generator =>
    let (value, generator) := next generator
    (.ok value, generator)

end Drawing

mutual

/-- Maps a cell, going into lists. Missing cells become general missing cells. -/
def mapPresent {m : Type → Type} [Monad m] (f : Cell → m Cell) : Cell → m Cell
  | .list items => do
      let items ← mapItems f items
      pure (.list items)
  | cell => if cell.isMissing then pure .null else f cell

/-- Maps the items of a list from left to right. -/
def mapItems {m : Type → Type} [Monad m] (f : Cell → m Cell) : List Cell → m (List Cell)
  | [] => pure []
  | item :: items => do
      let item ← mapPresent f item
      let items ← mapItems f items
      pure (item :: items)

end

mutual

/-- The cells inside nested lists, in order; a cell that is no list is its only one. -/
def leaves : Cell → List Cell
  | .list items => leavesOfItems items
  | cell => [cell]

/-- The cells inside the items of a list. -/
def leavesOfItems : List Cell → List Cell
  | [] => []
  | item :: items => leaves item ++ leavesOfItems items

end

/-- The integer of an argument; a float has to be whole. -/
def integerArgument (function : Builtin) (cell : Cell) : Except FormulaError Int64 :=
  match cell with
  | .int value => .ok value
  | .float x =>
      if isWhole x then .ok (saturate x)
      else .error (.invalidArgument function (.notInteger cell.written))
  | _ => .error (.invalidArgument function (.notInteger cell.written))

/-- The number an argument stands for. -/
def numericArgument (function : Builtin) (cell : Cell) : Except FormulaError Float :=
  match cell.numericValue with
  | some x => .ok x
  | none => .error (.invalidArgument function (.notNumber cell.written))

/-- The first result whose condition holds, of alternating conditions and results; a last
cell without a partner is the result when none holds. -/
def caseOf : List Cell → Cell
  | [] => .null
  | [fallback] => fallback
  | condition :: result :: rest => if condition.isTruthy then result else caseOf rest

/-- The value of a digit in bases up to 36, in either letter case. -/
def digitValue? (c : Char) : Option Nat :=
  if '0' ≤ c && c ≤ '9' then some (c.toNat - 48)
  else if 'a' ≤ c && c ≤ 'z' then some (c.toNat - 87)
  else if 'A' ≤ c && c ≤ 'Z' then some (c.toNat - 55)
  else none

/-- The natural number written by digits of a base after those already read. -/
def readDigits? (base : Nat) (value : Nat) : List Char → Option Nat
  | [] => some value
  | c :: rest =>
      match digitValue? c with
      | some digit => if digit < base then readDigits? base (base * value + digit) rest else none
      | none => none

/-- The 64-bit integer written in a base, with an optional sign. -/
def readInBase? (base : Nat) (text : List Char) : Option Int64 :=
  let (negative, digits) := readSign text
  if digits.isEmpty then none
  else (readDigits? base 0 digits).bind fun value => int64? (Binary.signed negative value)

/-- The number of a text. Outside base ten only integers in bases 2 to 36 are read. -/
def numberOfText? (base : Option Int64) (text : String) : Option Cell :=
  match base with
  | some base =>
      if base == 10 then inferred
      else if 2 ≤ base && base ≤ 36 then
        (readInBase? base.toInt.toNat (Text.trim text.toList)).map Cell.int
      else none
  | none => inferred
where
  inferred : Option Cell :=
    match Cell.infer text with
    | .int value => some (.int value)
    | .float x => some (.float x)
    | _ => none

/-- The number of a present cell that is no list. -/
def toNumber (base : Option Int64) (cell : Cell) : Except FormulaError Cell :=
  match cell with
  | .bool value => .ok (.int (if value then 1 else 0))
  | .time millis => .ok (.int millis)
  | .text value =>
      match numberOfText? base value with
      | some number => .ok number
      | none => .error (.cell (.invalidNumber value))
  | _ => .ok cell

/-- Drops characters of a set from both ends, or from the ends that the function names.
Without a set, blanks are dropped. -/
def trimWith (function : Builtin) (chars : Option String) (text : String) : String :=
  let inSet : Char → Bool :=
    match chars with
    | some chars => fun c => chars.toList.contains c
    | none => isBlank
  let left := if function == .trimRight then text.toList else text.toList.dropWhile inSet
  String.ofList
    (if function == .trimLeft then left else (left.reverse.dropWhile inSet).reverse)

/-- A power with a natural exponent by repeated squaring, in at most `rounds` squarings. -/
def powerFrom (result base : Float) (exponent : Nat) : Nat → Float
  | 0 => result
  | rounds + 1 =>
      let result := if exponent % 2 == 1 then result * base else result
      if exponent / 2 == 0 then result
      else powerFrom result (base * base) (exponent / 2) rounds

/-- A power of ten. A negative exponent inverts the power of its absolute value. -/
def powerOfTen (exponent : Int) : Float :=
  let power := powerFrom 1.0 10.0 exponent.natAbs 32
  if exponent < 0 then 1.0 / power else power

/-- Rounds at a number of decimal places, halves to even. A value is kept when the scale is
out of range. -/
def roundAt (x : Float) (places : Int) : Float :=
  let scale := powerOfTen places
  if scale.isFinite && scale != 0.0 then roundHalfEven (x * scale) / scale else x

/-- Rounds a present cell that is no list. Integers stay integers. -/
def roundCell (places : Int) (cell : Cell) : Except FormulaError Cell :=
  match cell with
  | .int value =>
      if 0 ≤ places then .ok cell
      else .ok (.int (saturate (roundAt (Cell.floatOfInt value) places)))
  | .bool value => .ok (.int (if value then 1 else 0))
  | _ => (numericArgument .round cell).map fun x => .float (roundAt x places)

/-- The number of decimal places of an argument. -/
def placesArgument (cell : Cell) : Except FormulaError Int := do
  let places ← integerArgument .round cell
  if -(twoTo 31 : Int) ≤ places.toInt && places.toInt < twoTo 31 then .ok places.toInt
  else .error (.invalidArgument .round .precisionRange)

/-- The absolute value; the least integer has none and becomes a float. -/
def absolute (cell : Cell) : Except FormulaError Cell :=
  match cell with
  | .int value =>
      match int64? value.toInt.natAbs with
      | some value => .ok (.int value)
      | none => .ok (.float (Cell.floatOfInt value).abs)
  | _ => (numericArgument .absolute cell).map fun x => .float x.abs

/-- The number of items or characters. -/
def lengthOf (cell : Cell) : Cell :=
  if cell.isMissing then .null
  else
    match cell with
    | .list items => Reducer.countCell items.length
    | _ => Reducer.countCell cell.written.length

/-- The text whose Base64 form the cell is. -/
def decodeBase64 (cell : Cell) : Except FormulaError Cell :=
  if cell.isMissing then .ok .null
  else
    match Base64.decode? (Text.trim cell.written.toList) with
    | some text => .ok (.text text)
    | none => .error (.invalidArgument .decodeBase64 .notBase64)

/-- The number of decimal places a number is written with. -/
def writtenPlaces (text : String) : Nat :=
  match text.toList.dropWhile (· != '.') with
  | _ :: fraction => (fraction.takeWhile isDigit).length
  | [] => 0

/-- Draws a float between minus and plus a bound, rounded to decimal places. -/
def drawFloat (bound : Float) (places : Nat) : Drawing Float :=
  if bound.isFinite && bound ≤ 8.988465674311579e307 then do
    let x ← Drawing.draw (Generator.float bound)
    pure (roundAt x places)
  else
    throw (.invalidArgument .randomize (.floatRange bound))

/-- Draws a number between minus and plus the given one, at the precision it is written
with. -/
def drawNumber (cell : Cell) : Drawing Cell :=
  match cell with
  | .int value =>
      match int64? value.toInt.natAbs with
      | some bound => do
          let drawn ← Drawing.draw (Generator.integer bound.toInt.toNat)
          pure (.int (Int64.ofInt drawn))
      | none => throw (.invalidArgument .randomize (.intRange value))
  | .float x => do
      let drawn ← drawFloat x.abs (writtenPlaces (Layout.plain.write x))
      pure (.float drawn)
  | .text text =>
      match Cell.infer text with
      | .int value => do
          let drawn ← drawFloat (Cell.floatOfInt value).abs 0
          pure (.int (saturate drawn))
      | .float x => do
          let drawn ← drawFloat x.abs (writtenPlaces text)
          pure (.float drawn)
      | _ => throw (.invalidArgument .randomize (.notNumber text))
  | _ => throw (.invalidArgument .randomize (.notNumber cell.written))

/-- The cell at a position, missing when there is none. -/
def argument (cells : List Cell) (position : Nat) : Cell :=
  (cells[position]?).getD .null

/-- The result of a function that draws nothing, on the cells of one row. -/
def resultOf (function : Builtin) (cells : List Cell) : Except FormulaError Cell :=
  let cell := argument cells 0
  let reduced (reduce : List Cell → Except CellError Cell) : Except FormulaError Cell :=
    (reduce (leavesOfItems cells)).mapError .cell
  match function with
  | .choose => .ok (if cell.isTruthy then argument cells 1 else argument cells 2)
  | .case => .ok (caseOf cells)
  | .toNumber => do
      let base ← (cells[1]?).mapM (integerArgument function)
      mapPresent (toNumber base) cell
  | .toText => mapPresent (fun cell => .ok (.text cell.written)) cell
  | .lower => mapPresent (fun cell => .ok (.text (Text.lower cell.written))) cell
  | .upper => mapPresent (fun cell => .ok (.text (Text.upper cell.written))) cell
  | .trim | .trimLeft | .trimRight =>
      let chars := (cells[1]?).map Cell.written
      mapPresent (fun cell => .ok (.text (trimWith function chars cell.written))) cell
  | .round => do
      let places ← (cells[1]?).mapM placesArgument
      mapPresent (roundCell (places.getD 0)) cell
  | .concat => .ok (.text (String.join (cells.map Cell.written)))
  | .coalesce => .ok ((cells.find? fun cell => !cell.isMissing).getD .null)
  | .isNull => .ok (.bool cell.isMissing)
  | .isNotNull => .ok (.bool !cell.isMissing)
  | .encodeBase64 =>
      .ok (if cell.isMissing then .null else .text (Base64.encode cell.written))
  | .decodeBase64 => decodeBase64 cell
  | .squareRoot =>
      mapPresent (fun cell => (numericArgument function cell).map fun x => .float x.sqrt) cell
  | .absolute => mapPresent absolute cell
  | .length => .ok (lengthOf cell)
  | .average => reduced Reducer.mean
  | .min => reduced fun cells => .ok (Reducer.min cells)
  | .max => reduced fun cells => .ok (Reducer.max cells)
  | .sum => reduced Reducer.sum
  | .median => reduced Reducer.median
  | .mode => reduced fun cells => .ok (Reducer.mode cells)
  | .distinctCount => reduced fun cells => .ok (Reducer.distinctCount cells)
  | .range => reduced Reducer.range
  | .randomize => .ok cell

/-- The result of a function on the cells of one row. -/
def Builtin.onCells (function : Builtin) (cells : List Cell) : Drawing Cell :=
  if function == .randomize then mapPresent drawNumber (argument cells 0)
  else Drawing.fixed (resultOf function cells)

end LogPipe.Formula
