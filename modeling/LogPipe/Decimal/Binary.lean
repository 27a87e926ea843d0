/-!
# Binary floating-point values as exact integers

A finite 64-bit float is a sign and a natural significand times a power of two.
Every exact decision about floats in this library (their digits, their whole
parts, the integer they denote) is made on this form by integer arithmetic.
The bounds of machine words are powers of two, and the grids of decimal numbers are powers
of ten.
-/

namespace LogPipe.Decimal

/-- Two to the power of an exponent. -/
def twoTo (exponent : Nat) : Nat :=
  Nat.pow 2 exponent

/-- Ten to the power of an exponent. -/
def tenTo (exponent : Nat) : Nat :=
  Nat.pow 10 exponent

/-- One more than the greatest 64-bit word. -/
example : twoTo 64 = 18446744073709551616 := rfl

/-- What the bits of a float say. -/
inductive Binary where
  | nan
  | infinite (negative : Bool)
  /-- The value `significand * 2 ^ exponent`, negated when `negative`. -/
  | finite (negative : Bool) (significand : Nat) (exponent : Int)
deriving DecidableEq, Repr

namespace Binary

/-- The exact content of a float, read from its bits. -/
def ofFloat (x : Float) : Binary :=
  let bits := x.toBits.toNat
  let negative := bits / twoTo 63 == 1
  let biased : Nat := bits / twoTo 52 % twoTo 11
  let fraction : Nat := bits % twoTo 52
  if biased == twoTo 11 - 1 then
    if fraction == 0 then .infinite negative else .nan
  else if biased == 0 then
    .finite negative fraction (-1074)
  else
    .finite negative (twoTo 52 + fraction) ((biased : Int) - 1075)

/-- Sign applied to a natural number. -/
def signed (negative : Bool) (magnitude : Nat) : Int :=
  if negative then -(magnitude : Int) else magnitude

/-- The integer a finite value denotes, when it is whole. -/
def toInt? : Binary → Option Int
  | .nan => none
  | .infinite _ => none
  | .finite negative significand exponent =>
      if 0 ≤ exponent then
        some (signed negative (significand * twoTo exponent.toNat))
      else
        let scale := twoTo (-exponent).toNat
        if significand % scale == 0 then
          some (signed negative (significand / scale))
        else
          none

/-- The finite value with its fraction dropped. -/
def truncate? : Binary → Option Int
  | .nan => none
  | .infinite _ => none
  | .finite negative significand exponent =>
      if 0 ≤ exponent then
        some (signed negative (significand * twoTo exponent.toNat))
      else
        some (signed negative (significand / twoTo (-exponent).toNat))

/-- The nearest integer to a finite value; a half goes to the even neighbour. -/
def roundHalfEven? : Binary → Option Int
  | .nan => none
  | .infinite _ => none
  | .finite negative significand exponent =>
      if 0 ≤ exponent then
        some (signed negative (significand * twoTo exponent.toNat))
      else
        let scale := twoTo (-exponent).toNat
        let whole := significand / scale
        let twice := 2 * (significand % scale)
        let up := scale < twice || (scale == twice && whole % 2 == 1)
        some (signed negative (if up then whole + 1 else whole))

end Binary

/-- Whether a float is a whole number; infinities and NaN are not. -/
def isWhole (x : Float) : Bool :=
  (Binary.ofFloat x).toInt?.isSome

/-- The sign bit of a float. -/
def isNegative (x : Float) : Bool :=
  x.toBits.toNat / twoTo 63 == 1

/-- The nearest float to a whole number of the given sign; a zero keeps the sign. -/
def floatOfSigned (negative : Bool) (value : Int) : Float :=
  if value == 0 && negative then -0.0 else Float.ofInt value

/-- Rounds a float to a whole float, halves to even; what is not finite is kept. -/
def roundHalfEven (x : Float) : Float :=
  match (Binary.ofFloat x).roundHalfEven? with
  | some value => floatOfSigned (isNegative x) value
  | none => x

/-- A float moved into the range of 64-bit integers: the fraction is dropped, values
out of range go to the nearer end, and NaN goes to zero. -/
def saturate (x : Float) : Int64 :=
  match Binary.ofFloat x with
  | .nan => 0
  | .infinite negative => if negative then Int64.minValue else Int64.maxValue
  | finite =>
      let value := finite.truncate?.getD 0
      if value < Int64.minValue.toInt then Int64.minValue
      else if Int64.maxValue.toInt < value then Int64.maxValue
      else Int64.ofInt value

end LogPipe.Decimal
