import LogPipe.Decimal.Shortest

/-!
# Written forms of floats

A written form takes the shortest digits of a float and decides where the point goes,
which magnitudes use an exponent, and whether whole numbers keep a trailing `.0`.
-/

namespace LogPipe.Decimal

/-- How the digits of a finite float are laid out. The exponent spoken of is the power
of ten of the leading digit. -/
structure Layout where
  /-- Whether a number with this exponent is written with its digits in place. -/
  positional : Int → Bool
  /-- Whether a whole number with this exponent ends in `.0`. -/
  wholeMark : Int → Bool
  /-- Whether a nonnegative written exponent has a plus sign. -/
  plusSign : Bool := false
  /-- Which of two shortest decimals is taken when they are equally near. -/
  tie : Tie := .up

namespace Layout

/-- Digits in place for every magnitude, whole numbers without a point. -/
def plain : Layout where
  positional := fun _ => true
  wholeMark := fun _ => false

/-- The form of a float cell: digits in place, `.0` on whole numbers below `10 ^ 16`. -/
def cell : Layout where
  positional := fun _ => true
  wholeMark := fun exponent => exponent < 16

/-- The form of a float literal: an exponent below `10 ^ -4` and from `10 ^ 16`. -/
def literal : Layout where
  positional := fun exponent => -4 ≤ exponent && exponent < 16
  wholeMark := fun _ => true

/-- The form of a number in JSON text: an exponent below `10 ^ -5` and from `10 ^ 16`, with
its sign. -/
def json : Layout where
  positional := fun exponent => -5 ≤ exponent && exponent < 16
  wholeMark := fun _ => true
  plusSign := true
  tie := .toEven

end Layout

/-- The digits with the point in place. -/
def positionalText (digits : List Char) (point : Int) (wholeMark : Bool) : String :=
  let count : Int := digits.length
  if count ≤ point then
    String.ofList (digits ++ List.replicate (point - count).toNat '0') ++
      (if wholeMark then ".0" else "")
  else if 0 < point then
    String.ofList (digits.take point.toNat) ++ "." ++ String.ofList (digits.drop point.toNat)
  else
    "0." ++ String.ofList (List.replicate (-point).toNat '0' ++ digits)

/-- The digits with an exponent. -/
def exponentText (digits : List Char) (exponent : Int) (plusSign : Bool) : String :=
  let mantissa :=
    match digits with
    | [] => "0"
    | [digit] => String.ofList [digit]
    | digit :: rest => String.ofList (digit :: '.' :: rest)
  let sign := if exponent < 0 then "-" else if plusSign then "+" else ""
  mantissa ++ "e" ++ sign ++ toString exponent.natAbs

/-- The written form of a nonnegative finite value. -/
def Layout.magnitude (layout : Layout) (significand : Nat) (exponent : Int) : String :=
  if significand == 0 then
    if layout.wholeMark 0 then "0.0" else "0"
  else
    let decimal := (shortest layout.tie significand exponent).strip 20
    let digits := Nat.toDigits 10 decimal.digits
    let leading := decimal.exponent + digits.length - 1
    if layout.positional leading then
      positionalText digits (leading + 1) (layout.wholeMark leading)
    else
      exponentText digits leading layout.plusSign

/-- The written form of a float; a negative zero keeps its sign. -/
def Layout.write (layout : Layout) (x : Float) : String :=
  match Binary.ofFloat x with
  | .nan => "NaN"
  | .infinite negative => if negative then "-inf" else "inf"
  | .finite negative significand exponent =>
      (if negative then "-" else "") ++ layout.magnitude significand exponent

end LogPipe.Decimal
