import LogPipe.Proofs.Cell.Rounding

/-!
# Integers that floats are

The float nearest to an integer is followed down to the number that its bits stand for.  It is
the integer itself exactly when 53 bits are enough for that: when the integer is at most
`2 ^ 53` in magnitude or such a number times a power of two.
-/

namespace LogPipe

open LogPipe.Decimal

namespace Decimal.Binary

/-- The number that the bits of a finite float stand for. -/
def value? : Binary → Option ℚ
  | .finite negative significand exponent => some (signed negative significand * 2 ^ exponent)
  | _ => none

theorem signed_cast (negative : Bool) (magnitude : Nat) :
    (signed negative magnitude : ℚ) = if negative then -(magnitude : ℚ) else magnitude := by
  cases negative <;> simp [signed]

end Decimal.Binary

namespace Cell

open Float.Model Float.Model.UnpackedFloat

def number? : Cell → Option ℚ
  | .int value => some value.toInt
  | .float x => (Binary.ofFloat x).value?
  | _ => none

/-- An integer for which 53 bits and an exponent are enough. -/
def Short (value : Int) : Prop :=
  ∃ (mantissa : Int) (exponent : Nat), value = mantissa * 2 ^ exponent ∧ mantissa.natAbs ≤ 2 ^ 53

section Significands

variable {number : Nat}

/-- Shifted by as much as does not fit into 53 bits, a number is rounded. -/
theorem significand_of_dvd {quotient : Nat} (large : 52 ≤ number.log2)
    (divided : number = quotient * 2 ^ (number.log2 - 52)) : significand number = quotient := by
  have shape : number * 2 ^ 53 = quotient * 2 ^ (number.log2 + 1) := by
    calc
      number * 2 ^ 53 = quotient * 2 ^ (number.log2 - 52) * 2 ^ 53 := by rw [← divided]
      _ = quotient * 2 ^ (number.log2 + 1) := by
        rw [Nat.mul_assoc, ← Nat.pow_add]
        congr 2
        omega
  rw [significand, shape, shiftRight_exact]
  rfl

theorem log2_sub_le {mantissa exponent : Nat} (positive : 0 < number)
    (divided : number = mantissa * 2 ^ exponent) (small : mantissa < 2 ^ 53) :
    number.log2 - 52 ≤ exponent := by
  have below : number < 2 ^ (53 + exponent) := by
    rw [divided, Nat.pow_add]
    exact Nat.mul_lt_mul_of_pos_right small (Nat.two_pow_pos exponent)
  have log2 := (Nat.log2_lt (Nat.ne_of_gt positive)).mpr below
  omega

/-- Rounding changes nothing exactly when 53 bits are enough. -/
theorem significand_exact_iff (positive : 0 < number) :
    (significand number : ℚ) * 2 ^ ((number.log2 : ℤ) - 52) = number ↔
      ∃ mantissa exponent, number = mantissa * 2 ^ exponent ∧ mantissa ≤ 2 ^ 53 := by
  have some : (2 : ℚ) ≠ 0 := two_ne_zero
  obtain small | large := le_or_gt number.log2 52
  · have below : number < 2 ^ 53 := (Nat.log2_lt (Nat.ne_of_gt positive)).mp (by omega)
    refine iff_of_true ?_ ⟨number, 0, (Nat.mul_one number).symm, Nat.le_of_lt below⟩
    rw [significand_of_log2_le small]
    push_cast
    rw [mul_assoc, ← zpow_natCast, ← zpow_add₀ some, Nat.cast_sub small]
    simp
  · have lifted : (2 : ℚ) ^ ((number.log2 : ℤ) - 52) = ((2 ^ (number.log2 - 52) : ℕ) : ℚ) := by
      push_cast
      rw [← zpow_natCast, Nat.cast_sub (Nat.le_of_lt large)]
      rfl
    rw [lifted, ← Nat.cast_mul, Nat.cast_inj]
    constructor
    · intro same
      exact ⟨_, _, same.symm, (significand_bounds positive).2⟩
    · rintro ⟨mantissa, exponent, divided, le⟩
      obtain ⟨mantissa, exponent, divided, lt⟩ : ∃ mantissa exponent,
          number = mantissa * 2 ^ exponent ∧ mantissa < 2 ^ 53 := by
        obtain rfl | lt := Nat.eq_or_lt_of_le le
        · -- one bit more, but a power of two
          exact ⟨1, 53 + exponent, by rw [divided, Nat.pow_add, Nat.one_mul], by decide⟩
        · exact ⟨mantissa, exponent, divided, lt⟩
      have shift := log2_sub_le positive divided lt
      have quotient : number =
          mantissa * 2 ^ (exponent - (number.log2 - 52)) * 2 ^ (number.log2 - 52) := by
        rw [Nat.mul_assoc, ← Nat.pow_add, Nat.sub_add_cancel shift, ← divided]
      rw [significand_of_dvd (Nat.le_of_lt large) quotient]
      exact quotient.symm

end Significands

section Floats

variable {number : Nat} {x : Float} {sign : Sign}

/-- The number that a float in the usual form stands for, from its mantissa and exponent. -/
theorem value?_of_isNormal (positive : 0 < number) (fits : number < 2 ^ 64)
    (isNormal : IsNormal x sign (magnitude number)) :
    (Binary.ofFloat x).value? =
      some ((Binary.signed (sign.toBitVec.toNat == 1) (significand number) : ℚ) *
        2 ^ ((number.log2 : ℤ) - 52)) := by
  have bounds := significand_bounds positive
  have limit := magnitude_lt_limit fits positive
  have stored := isNormal.toBits
  have signBit : sign.toBitVec.toNat < 2 := sign.toBitVec.isLt
  have word : twoTo 63 = 2 ^ 63 := rfl
  have mantissa : twoTo 52 = 2 ^ 52 := rfl
  have exponent : twoTo 11 = 2 ^ 11 := rfl
  have negative : x.toBits.toNat / twoTo 63 = sign.toBitVec.toNat := by
    rw [stored, word]
    omega
  have biased : x.toBits.toNat / twoTo 52 % twoTo 11 = magnitude number / 2 ^ 52 := by
    rw [stored, mantissa, exponent]
    omega
  have fraction : x.toBits.toNat % twoTo 52 = magnitude number % 2 ^ 52 := by
    rw [stored, mantissa]
    omega
  have notAll : (magnitude number / 2 ^ 52 == twoTo 11 - 1) = false := by
    rw [beq_eq_false_iff_ne, exponent]
    omega
  have notZero : (magnitude number / 2 ^ 52 == 0) = false := by
    rw [beq_eq_false_iff_ne, magnitude]
    omega
  have scaled : ((2 ^ 52 + magnitude number % 2 ^ 52 : ℕ) : ℚ) *
      2 ^ ((magnitude number / 2 ^ 52 : ℕ) - 1075 : ℤ) =
        significand number * 2 ^ ((number.log2 : ℤ) - 52) := by
    -- a carry leaves the fraction empty and makes the stored exponent one larger
    obtain carry | noCarry := Nat.eq_or_lt_of_le bounds.2
    · have exponent : magnitude number / 2 ^ 52 = number.log2 + 1024 := by
        rw [magnitude, carry]
        omega
      have rest : magnitude number % 2 ^ 52 = 0 := by
        rw [magnitude, carry]
        omega
      have place : ((number.log2 + 1024 : ℕ) : ℤ) - 1075 = 1 + (number.log2 - 52) := by omega
      rw [exponent, rest, carry, place, zpow_add₀ two_ne_zero, ← mul_assoc]
      norm_num
    · have exponent : magnitude number / 2 ^ 52 = number.log2 + 1023 := by
        rw [magnitude]
        omega
      have rest : 2 ^ 52 + magnitude number % 2 ^ 52 = significand number := by
        rw [magnitude]
        omega
      have place : ((number.log2 + 1023 : ℕ) : ℤ) - 1075 = number.log2 - 52 := by omega
      rw [exponent, rest, place]
  have read : Binary.ofFloat x = .finite (sign.toBitVec.toNat == 1)
      (2 ^ 52 + magnitude number % 2 ^ 52) ((magnitude number / 2 ^ 52 : ℕ) - 1075) := by
    simp only [Binary.ofFloat, negative, biased, fraction, notAll, notZero, Bool.false_eq_true,
      if_false]
    rfl
  rw [read, Binary.value?, Binary.signed_cast, Binary.signed_cast]
  split
  · rw [neg_mul, neg_mul, scaled]
  · rw [scaled]

/-- Signs do not matter for the number of bits. -/
theorem short_iff_natAbs {value : Int} :
    Short value ↔
      ∃ mantissa exponent, value.natAbs = mantissa * 2 ^ exponent ∧ mantissa ≤ 2 ^ 53 := by
  constructor
  · rintro ⟨mantissa, exponent, rfl, small⟩
    refine ⟨mantissa.natAbs, exponent, ?_, small⟩
    rw [Int.natAbs_mul, Int.natAbs_pow]
    rfl
  · rintro ⟨mantissa, exponent, divided, small⟩
    obtain same | opposite := Int.natAbs_eq value
    · refine ⟨mantissa, exponent, ?_, small⟩
      rw [same, divided]
      push_cast
      rfl
    · refine ⟨-mantissa, exponent, ?_, by omega⟩
      rw [opposite, divided]
      push_cast
      ring

/-- The float nearest to an integer is that integer exactly when it is short. -/
theorem number?_floatOfInt_iff (value : Int64) :
    (Cell.float (floatOfInt value)).number? = some (value.toInt : ℚ) ↔ Short value.toInt := by
  have low := value.le_toInt
  have high := value.toInt_lt
  rw [short_iff_natAbs, number?, floatOfInt]
  generalize value.toInt = integer at low high
  cases integer with
  | ofNat number =>
      rw [Int.ofNat_eq_natCast] at high
      cases number with
      | zero => exact iff_of_true (by decide +kernel) ⟨0, 0, rfl, by decide⟩
      | succ number =>
          have positive := Nat.succ_pos number
          rw [Float.ofInt, value?_of_isNormal positive (by omega)
            (isNormal_ofNat positive (by omega)), Option.some_inj]
          exact significand_exact_iff positive
  | negSucc number =>
      have positive := Nat.succ_pos number
      rw [Float.ofInt, value?_of_isNormal positive (by omega)
        (isNormal_ofNat positive (by omega)).neg, Option.some_inj]
      have signed : Sign.negative.toBitVec.toNat = 1 := rfl
      rw [signed, Binary.signed_cast, Int.cast_negSucc, beq_self_eq_true,
        if_pos rfl, neg_mul, neg_inj]
      exact significand_exact_iff positive

end Floats

end Cell

end LogPipe
