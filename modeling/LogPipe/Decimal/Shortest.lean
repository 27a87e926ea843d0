import LogPipe.Decimal.Binary

/-!
# The fewest decimal digits that read back

The reals that round to a given float form an interval around it. The shortest
decimal of a float is found on the coarsest power-of-ten grid that has a point in
that interval, and is the point of that grid nearest to the float.
-/

namespace LogPipe.Decimal

/-- The decimal number `digits * 10 ^ exponent`. -/
structure Scientific where
  digits : Nat
  exponent : Int
deriving DecidableEq, Repr

/-- Compares `a * 10 ^ i` with `n * 2 ^ j` exactly. -/
def compareScaled (a : Nat) (i : Int) (n : Nat) (j : Int) : Ordering :=
  compare (a * tenTo i.toNat * twoTo (-j).toNat) (n * twoTo j.toNat * tenTo (-i).toNat)

/-- Whether a decimal rounds to the positive float `significand * 2 ^ exponent`:
it lies between the midpoints to the two neighbours, ends included exactly when the
significand is even. -/
def readsBack (significand : Nat) (exponent : Int) (decimal : Scientific) : Bool :=
  let narrow := significand == twoTo 52 && -1074 < exponent
  let low := if narrow then 4 * significand - 1 else 4 * significand - 2
  let high := 4 * significand + 2
  let closed := significand % 2 == 0
  let atLow := compareScaled decimal.digits decimal.exponent low (exponent - 2)
  let atHigh := compareScaled decimal.digits decimal.exponent high (exponent - 2)
  (atLow == .gt || (closed && atLow == .eq)) && (atHigh == .lt || (closed && atHigh == .eq))

/-- The multiple of `10 ^ grid` at or just below `significand * 2 ^ exponent`. -/
def floorOnGrid (significand : Nat) (exponent grid : Int) : Nat :=
  (significand * twoTo exponent.toNat * tenTo (-grid).toNat) /
    (twoTo (-exponent).toNat * tenTo grid.toNat)

/-- Which of two decimals that are equally near is taken. -/
inductive Tie where
  /-- The greater one. -/
  | up
  /-- The one whose last digit is even. -/
  | toEven
deriving DecidableEq, Repr

/-- Whether a tie goes down to the given digits. -/
def Tie.goesDown (tie : Tie) (below : Nat) : Bool :=
  tie == .toEven && below % 2 == 0

/-- The point of a grid that reads back, the nearer one when both neighbours do. -/
def onGrid? (tie : Tie) (significand : Nat) (exponent grid : Int) : Option Scientific :=
  let below := floorOnGrid significand exponent grid
  let low : Scientific := ⟨below, grid⟩
  let high : Scientific := ⟨below + 1, grid⟩
  match readsBack significand exponent low, readsBack significand exponent high with
  | true, false => some low
  | false, true => some high
  | false, false => none
  | true, true =>
      match compareScaled (2 * below + 1) grid (2 * significand) exponent with
      | .gt => some low
      | .eq => some (if tie.goesDown below then low else high)
      | .lt => some high

/-- The exponent of the leading decimal digit of a positive float. -/
def leadingExponent (significand : Nat) (exponent : Int) : Int :=
  let estimate : Int :=
    if 0 ≤ exponent then
      ((Nat.toDigits 10 (significand * twoTo exponent.toNat)).length : Int) - 1
    else
      ((Nat.toDigits 10 (significand * Nat.pow 5 (-exponent).toNat)).length : Int) - 1 + exponent
  estimate

/-- Tries grids from coarse to fine, at most `fuel` of them. -/
def searchGrids (tie : Tie) (significand : Nat) (exponent grid : Int) :
    Nat → Option Scientific
  | 0 => none
  | fuel + 1 =>
      match onGrid? tie significand exponent grid with
      | some decimal => some decimal
      | none => searchGrids tie significand exponent (grid - 1) fuel

/-- The shortest decimal of the positive float `significand * 2 ^ exponent`. A grid one
step above the leading digit is tried first, since a float just below a power of ten may
read back from that power; seventeen digits always suffice. -/
def shortest (tie : Tie) (significand : Nat) (exponent : Int) : Scientific :=
  (searchGrids tie significand exponent (leadingExponent significand exponent + 1) 20).getD
    ⟨significand, exponent⟩

/-- The decimal with its trailing zeros moved into the exponent, at most `fuel` of them. -/
def Scientific.strip : Nat → Scientific → Scientific
  | 0, decimal => decimal
  | fuel + 1, decimal =>
      if decimal.digits % 10 == 0 && decimal.digits != 0 then
        Scientific.strip fuel ⟨decimal.digits / 10, decimal.exponent + 1⟩
      else
        decimal

end LogPipe.Decimal
