import LogPipe.Decimal.Binary
import LogPipe.Text.Blank

/-!
# Numbers read from text

Whole numbers are an optional sign and decimal digits. Floats also take a point with
digits on at least one side, an exponent, and the words for infinity and NaN. A text is
a number only when all of it is used.
-/

namespace LogPipe.Decimal

/-- Whether a character is one of the digits 0 to 9. -/
def isDigit (c : Char) : Bool :=
  '0' ≤ c && c ≤ '9'

/-- The value of a run of decimal digits. -/
def digitsValue (digits : List Char) : Nat :=
  digits.foldl (fun value c => 10 * value + (c.toNat - 48)) 0

/-- Splits an optional sign from the front; true means minus. -/
def readSign : List Char → Bool × List Char
  | '+' :: rest => (false, rest)
  | '-' :: rest => (true, rest)
  | rest => (false, rest)

/-- The whole number written by an optional sign and at least one digit. -/
def readInt? (text : List Char) : Option Int :=
  let (negative, digits) := readSign text
  if digits.isEmpty || !digits.all isDigit then none
  else
    let value : Int := digitsValue digits
    some (if negative then -value else value)

/-- The 64-bit integer with this value, when there is one. -/
def int64? (value : Int) : Option Int64 :=
  if Int64.minValue.toInt ≤ value && value ≤ Int64.maxValue.toInt then
    some (Int64.ofInt value)
  else
    none

/-- The 64-bit integer written by a text. -/
def readInt64? (text : List Char) : Option Int64 :=
  (readInt? text).bind int64?

/-- The natural number below `2 ^ 64` written by digits after an optional plus sign. -/
def readNat? (text : List Char) : Option Nat :=
  let digits :=
    match text with
    | '+' :: rest => rest
    | rest => rest
  if digits.isEmpty || !digits.all isDigit then none
  else if digitsValue digits < twoTo 64 then some (digitsValue digits)
  else none

/-- The exponent part of a float: nothing, or a mark, an optional sign and digits. -/
def readExponent? : List Char → Option Int
  | [] => some 0
  | mark :: rest => if mark == 'e' || mark == 'E' then readInt? rest else none

/-- The value `digits * 10 ^ exponent` as the nearest float. -/
def floatOfDecimal (digits : Nat) (exponent : Int) : Float :=
  Float.ofScientific digits (exponent < 0) exponent.natAbs

/-- A nonnegative float without sign: digits, a point, digits, an exponent. -/
def readMagnitude? (text : List Char) : Option Float :=
  let whole := text.takeWhile isDigit
  let afterWhole := text.dropWhile isDigit
  let (fraction, rest) :=
    match afterWhole with
    | '.' :: tail => (tail.takeWhile isDigit, tail.dropWhile isDigit)
    | tail => ([], tail)
  if whole.isEmpty && fraction.isEmpty then none
  else
    (readExponent? rest).map fun exponent =>
      floatOfDecimal (digitsValue (whole ++ fraction)) (exponent - fraction.length)

/-- The words for values that have no digits, in any letter case. -/
def readSpecial? (text : List Char) : Option Float :=
  let lower := String.ofList (text.map Char.toLower)
  if lower == "inf" || lower == "infinity" then some (1.0 / 0.0)
  else if lower == "nan" then some (0.0 / 0.0)
  else none

/-- The float written by a text. -/
def readFloat? (text : List Char) : Option Float :=
  let (negative, body) := readSign text
  let magnitude := (readMagnitude? body).or (readSpecial? body)
  magnitude.map fun value => if negative then -value else value

end LogPipe.Decimal
