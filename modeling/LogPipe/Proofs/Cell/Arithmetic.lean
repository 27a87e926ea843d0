import LogPipe.Proofs.Column.Lossy
import LogPipe.Proofs.Decimal.Numerals
import Mathlib

/-!
# Arithmetic on integers

On two integers an operator gives the exact result when that is a 64-bit integer.  It misses two
kinds of results that are: the remainder of the least integer by minus one, whose quotient is
too large, and powers to an exponent of more than 32 bits.  These are computed on floats, like
everything that is too large, so that no operator refuses two integers.
-/

namespace LogPipe

namespace Arithmetic

open LogPipe.Decimal

/-- The exact results on integers.  A remainder is what a multiple of the divisor leaves; it is
zero or has the sign of the divisor, and is less than it in magnitude. -/
inductive Exact : Arithmetic → Int → Int → Int → Prop where
  | add (a b : Int) : Exact .add a b (a + b)
  | sub (a b : Int) : Exact .sub a b (a - b)
  | mul (a b : Int) : Exact .mul a b (a * b)
  | mod {a b rest quotient : Int} (divided : a = b * quotient + rest)
      (remains : 0 ≤ rest ∧ rest < b ∨ b < rest ∧ rest ≤ 0) : Exact .mod a b rest
  | pow (a : Int) (exponent : Nat) : Exact .pow a exponent (a ^ exponent)

/-- The integers on which an operator misses exact results that are in range. -/
def Misses (operator : Arithmetic) (a b : Int) : Prop :=
  operator = .mod ∧ a = -2 ^ 63 ∧ b = -1 ∨ operator = .pow ∧ 2 ^ 32 ≤ b

instance (operator : Arithmetic) (a b : Int) : Decidable (operator.Misses a b) :=
  inferInstanceAs (Decidable (_ ∨ _))

variable {operator : Arithmetic} {a b value : Int}

theorem inRange_iff : InRange value ↔ -2 ^ 63 ≤ value ∧ value < 2 ^ 63 := by
  have least : Int64.minValue.toInt = -2 ^ 63 := by decide
  have greatest : Int64.maxValue.toInt = 2 ^ 63 - 1 := by decide
  rw [InRange, least, greatest]
  omega

section Remainders

theorem fmod_remains (someDivisor : b ≠ 0) :
    0 ≤ a.fmod b ∧ a.fmod b < b ∨ b < a.fmod b ∧ a.fmod b ≤ 0 := by
  obtain negative | positive := Int.lt_or_gt_of_ne someDivisor
  · have opposite : 0 < -b := by omega
    have low := Int.fmod_nonneg_of_pos (-a) opposite
    have high := Int.fmod_lt_of_pos (-a) opposite
    rw [Int.neg_fmod_neg] at low high
    exact .inr ⟨by omega, by omega⟩
  · exact .inl ⟨Int.fmod_nonneg_of_pos a positive, Int.fmod_lt_of_pos a positive⟩

theorem exact_fmod (someDivisor : b ≠ 0) : Exact .mod a b (a.fmod b) :=
  .mod (Int.mul_fdiv_add_fmod a b).symm (fmod_remains someDivisor)

theorem fmod_eq {rest quotient : Int} (divided : a = b * quotient + rest)
    (remains : 0 ≤ rest ∧ rest < b ∨ b < rest ∧ rest ≤ 0) : a.fmod b = rest := by
  rw [divided, Int.mul_add_fmod_self_left]
  obtain ⟨low, high⟩ | ⟨low, high⟩ := remains
  · exact Int.fmod_eq_of_lt low high
  · have opposite : (-rest).fmod (-b) = -rest := Int.fmod_eq_of_lt (by omega) (by omega)
    rw [Int.neg_fmod_neg] at opposite
    omega

theorem inRange_fmod (someDivisor : b ≠ 0) (inRange : InRange b) : InRange (a.fmod b) := by
  have remains := @fmod_remains a b someDivisor
  rw [inRange_iff] at *
  omega

end Remainders

section Powers

theorem not_inRange_pow {exponent : Nat} (large : 64 ≤ exponent) (base : 2 ≤ a.natAbs) :
    ¬InRange (a ^ exponent) := by
  have magnitude : 2 ^ 64 ≤ (a ^ exponent).natAbs := by
    rw [Int.natAbs_pow]
    calc
      2 ^ 64 ≤ 2 ^ exponent := Nat.pow_le_pow_right (by decide) large
      _ ≤ a.natAbs ^ exponent := Nat.pow_le_pow_left base exponent
  rw [inRange_iff]
  omega

/-- Powers of small bases are told apart because they are in range for all exponents. -/
theorem powInt?_eq {exponent : Nat} (small : exponent < 2 ^ 32) :
    powInt? a exponent = int64? (a ^ exponent) := by
  have inside : ((exponent : Int) < 0 || (twoTo 32 : Int) ≤ exponent) = false := by
    have word : twoTo 32 = 2 ^ 32 := rfl
    rw [Bool.or_eq_false_iff, decide_eq_false_iff_not, decide_eq_false_iff_not, word]
    omega
  rw [powInt?, inside, if_neg Bool.false_ne_true]
  by_cases zero : a = 0
  · subst zero
    cases exponent with
    | zero => rfl
    | succ exponent =>
        have nothing : (0 : Int) ^ (exponent + 1) = 0 := Int.zero_pow (Nat.succ_ne_zero exponent)
        rw [nothing]
        rfl
  by_cases one : a = 1
  · subst one
    rw [Int.one_pow]
    rfl
  by_cases minusOne : a = -1
  · subst minusOne
    obtain even | odd := Nat.even_or_odd exponent
    · have rest : (exponent : Int) % 2 = 0 := by exact_mod_cast Nat.even_iff.mp even
      rw [even.neg_one_pow, rest]
      rfl
    · have rest : (exponent : Int) % 2 = 1 := by exact_mod_cast Nat.odd_iff.mp odd
      rw [odd.neg_one_pow, rest]
      rfl
  simp only [beq_iff_eq, zero, one, minusOne, if_false]
  split
  · next large => exact (int64?_of_not_inRange (not_inRange_pow (by omega) (by omega))).symm
  · rfl

theorem powInt?_of_le (large : 2 ^ 32 ≤ b) : powInt? a b = none := by
  have outside : (b < 0 || (twoTo 32 : Int) ≤ b) = true := by
    have word : twoTo 32 = 2 ^ 32 := rfl
    rw [Bool.or_eq_true, decide_eq_true_eq, decide_eq_true_eq, word]
    omega
  rw [powInt?, if_pos outside]

end Powers

/-- Where it misses nothing, an operator finds the exact result if that is in range. -/
theorem exactly?_of_exact (exact : Exact operator a b value) (hits : ¬operator.Misses a b) :
    operator.exactly? a b = int64? value := by
  cases exact with
  | add | sub | mul => rfl
  | mod divided remains =>
      have least : Int64.minValue.toInt = -2 ^ 63 := by decide
      have quotientFits : ¬(a == Int64.minValue.toInt && b == -1) = true := by
        rw [Bool.and_eq_true, beq_iff_eq, beq_iff_eq, least]
        exact fun misses => hits (.inl ⟨rfl, misses⟩)
      rw [exactly?, if_neg quotientFits, fmod_eq divided remains]
  | pow a exponent =>
      refine powInt?_eq (Nat.lt_of_not_le fun large => hits (.inr ⟨rfl, ?_⟩))
      exact_mod_cast large

theorem exactly?_of_misses (misses : operator.Misses a b) : operator.exactly? a b = none := by
  obtain ⟨rfl, rfl, rfl⟩ | ⟨rfl, large⟩ := misses
  · decide
  · exact powInt?_of_le large

section Cells

variable {a b : Int64}

/-- What an operator makes of two integers. -/
def onIntegers (operator : Arithmetic) (a b : Int64) : Cell :=
  if operator = .mod ∧ b = 0 then .null
  else
    match operator.exactly? a.toInt b.toInt with
    | some value => .int value
    | none => operator.onFloats (Cell.floatOfInt a) (Cell.floatOfInt b)

theorem apply_integers (operator : Arithmetic) (a b : Int64) :
    operator.apply (.int a) (.int b) = .ok (operator.onIntegers a b) := by
  have applied : operator.apply (.int a) (.int b) =
      (operator.onNumbers (.int a) (.int b)).mapError .cell := by
    cases operator <;> rfl
  have noDivisor : (operator == .mod && b.toInt == 0) = true ↔ operator = .mod ∧ b = 0 := by
    rw [Bool.and_eq_true, beq_iff_eq, beq_iff_eq, ← Int64.toInt_inj]
    rfl
  rw [applied, onNumbers, onIntegers]
  simp only [integer?, noDivisor]
  split
  · rfl
  · cases operator.exactly? a.toInt b.toInt <;> rfl

theorem onIntegers_of_exact (exact : Exact operator a.toInt b.toInt value) (inRange : InRange value)
    (hits : ¬operator.Misses a.toInt b.toInt) :
    operator.onIntegers a b = .int (Int64.ofInt value) := by
  have someDivisor : ¬(operator = .mod ∧ b = 0) := by
    rintro ⟨rfl, rfl⟩
    cases exact with
    | mod _ remains =>
        have zero : (0 : Int64).toInt = 0 := rfl
        omega
  rw [onIntegers, if_neg someDivisor, exactly?_of_exact exact hits, int64?_of_inRange inRange]

/-- What is missed is a float. -/
theorem exists_float_of_misses (misses : operator.Misses a.toInt b.toInt) :
    ∃ x, operator.onIntegers a b = .float x := by
  have someDivisor : ¬(operator = .mod ∧ b = 0) := by
    rintro ⟨rfl, rfl⟩
    obtain ⟨-, -, minusOne⟩ | ⟨⟨⟩, -⟩ := misses
    exact absurd minusOne (by decide)
  rw [onIntegers, if_neg someDivisor, exactly?_of_misses misses]
  obtain ⟨rfl, -, minusOne⟩ | ⟨rfl, -⟩ := misses
  · obtain rfl : b = -1 := Int64.toInt_inj.mp minusOne
    have nonzero : ¬(Cell.floatOfInt (-1) == 0.0) = true := by decide +kernel
    simp only [onFloats, if_neg nonzero]
    exact ⟨_, rfl⟩
  · exact ⟨_, rfl⟩

/-- On single cells a column operator is the one on cells. -/
theorem arithmetic_singletons {operator : Arithmetic} {left right result : Cell}
    {leftKind rightKind : Kind} (applied : operator.apply left right = .ok result) :
    Column.arithmetic operator ⟨leftKind, [left]⟩ ⟨rightKind, [right]⟩ =
      .ok ⟨result.kind, [result]⟩ := by
  rw [← Column.lossy_singleton]
  simp only [Column.arithmetic, Column.size, Column.arithmeticCells, applied]
  rfl

def single (value : Int64) : Column :=
  ⟨.int, [.int value]⟩

theorem arithmetic_single (operator : Arithmetic) (a b : Int64) :
    Column.arithmetic operator (single a) (single b) =
      .ok ⟨(operator.onIntegers a b).kind, [operator.onIntegers a b]⟩ :=
  arithmetic_singletons (apply_integers operator a b)

/-- Arithmetic on integers is exact.  An exact result that is a 64-bit integer is found, except
where the operator misses it, and there a float stands in its place.  Remainders always fit, and
only one by zero is missing.  No operator refuses integers. -/
theorem integers_exact (a b : Int64) :
    (∀ operator value, Exact operator a.toInt b.toInt value → InRange value →
      ¬operator.Misses a.toInt b.toInt →
      Column.arithmetic operator (single a) (single b) = .ok (single (Int64.ofInt value))) ∧
    (∀ operator, operator.Misses a.toInt b.toInt →
      ∃ x, Column.arithmetic operator (single a) (single b) = .ok ⟨.float, [.float x]⟩) ∧
    (b ≠ 0 → ∃ rest, Exact .mod a.toInt b.toInt rest ∧ InRange rest) ∧
    (b = 0 → Column.arithmetic .mod (single a) (single b) = .ok ⟨.null, [.null]⟩) ∧
    ∀ operator, ∃ column, Column.arithmetic operator (single a) (single b) = .ok column := by
  refine ⟨?_, ?_, ?_, ?_, ?_⟩
  · intro operator value exact inRange hits
    rw [arithmetic_single, onIntegers_of_exact exact inRange hits]
    rfl
  · intro operator misses
    obtain ⟨x, isFloat⟩ := exists_float_of_misses misses
    exact ⟨x, by rw [arithmetic_single, isFloat]; rfl⟩
  · intro nonzero
    have someDivisor : b.toInt ≠ 0 := fun zero => nonzero (Int64.toInt_inj.mp zero)
    exact ⟨_, exact_fmod someDivisor, inRange_fmod someDivisor (inRange_toInt b)⟩
  · rintro rfl
    rw [arithmetic_single]
    rfl
  · exact fun operator => ⟨_, arithmetic_single operator a b⟩

end Cells

/-- The least integer is a power and has remainders, but none by minus one. -/
theorem integers_exact_least :
    Column.arithmetic .pow (single (-2)) (single 63) = .ok (single Int64.minValue) ∧
      Column.arithmetic .mod (single Int64.minValue) (single 3) = .ok (single 1) ∧
      ∃ x, Column.arithmetic .mod (single Int64.minValue) (single (-1)) =
        .ok ⟨.float, [.float x]⟩ := by
  have divided : Exact .mod Int64.minValue.toInt (3 : Int64).toInt 1 :=
    .mod (show Int64.minValue.toInt = (3 : Int64).toInt * -3074457345618258603 + 1 by decide)
      (by decide)
  have base : (-2 : Int64).toInt = -2 := by decide
  have least : (-2 : Int) ^ 63 = -2 ^ 63 := by decide
  have power : Exact .pow (-2 : Int64).toInt (63 : Int64).toInt (-2 ^ 63) :=
    base ▸ least ▸ .pow (-2) 63
  exact ⟨(integers_exact (-2) 63).1 .pow _ power (by decide) (by decide),
    (integers_exact Int64.minValue 3).1 .mod 1 divided (by decide) (by decide),
    (integers_exact Int64.minValue (-1)).2.1 .mod (by decide)⟩

/-- The remainder of the least integer by minus one is zero, and one to the power `2 ^ 32` is
one, but neither is found. -/
theorem exact_results_missed :
    (Exact .mod Int64.minValue.toInt (-1 : Int64).toInt 0 ∧
      ∀ value, Column.arithmetic .mod (single Int64.minValue) (single (-1)) ≠
        .ok (single value)) ∧
    Exact .pow (1 : Int64).toInt (4294967296 : Int64).toInt 1 ∧
      ∀ value, Column.arithmetic .pow (single 1) (single 4294967296) ≠ .ok (single value) := by
  have float {operator : Arithmetic} {a b : Int64} (misses : operator.Misses a.toInt b.toInt)
      (value : Int64) : Column.arithmetic operator (single a) (single b) ≠ .ok (single value) := by
    obtain ⟨x, isFloat⟩ := exists_float_of_misses misses
    rw [arithmetic_single, isFloat]
    exact fun same => nomatch congrArg Column.kind (Except.ok.inj same)
  have power : Exact .pow 1 (4294967296 : Nat) (1 ^ 4294967296) := .pow 1 4294967296
  rw [Int.one_pow] at power
  have divided : Int64.minValue.toInt = (-1 : Int64).toInt * 9223372036854775808 + 0 := by decide
  exact ⟨⟨.mod divided (by decide), float (by decide)⟩, power, float (by decide)⟩

end Arithmetic

end LogPipe
