import LogPipe.Cell.Cast
import LogPipe.Proofs.Decimal.Binary
import LogPipe.Proofs.Decimal.Numerals

/-!
# Integers and floats cast into each other

A float is cast to the integer that it stands for.  Below `2 ^ 63` in magnitude nothing is
saturated, so the cast is exact there; a float that stands for no integer of this size is refused.
The bound is the same on both sides, and so the float of the least integer is refused, too: all
other integers that floats stand for survive the cast to a float and back.
-/

namespace LogPipe

open LogPipe.Decimal

namespace Decimal

section Whole

variable {x : Float} {content : Binary} {number : Int}

/-- There is no fraction to drop in a whole number. -/
theorem truncate?_of_toInt? (whole : content.toInt? = some number) :
    content.truncate? = some number := by
  cases content with
  | nan => cases whole
  | infinite negative => cases whole
  | finite negative significand exponent =>
      rw [Binary.toInt?] at whole
      rw [Binary.truncate?]
      split at whole
      · next atLeast => rwa [if_pos atLeast]
      · next below =>
          rw [if_neg below]
          dsimp only at whole
          split at whole
          · exact whole
          · cases whole

theorem isWhole_iff :
    isWhole x = true ↔ ∃ number : Int, (Binary.ofFloat x).value? = some (number : ℚ) := by
  rw [isWhole, Option.isSome_iff_exists]
  exact exists_congr fun number => toInt?_eq_some_iff

/-- Nothing is saturated in the range of 64-bit integers, both ends included. -/
theorem saturate_of_value? {integer : Int64}
    (stands : (Binary.ofFloat x).value? = some (integer.toInt : ℚ)) : saturate x = integer := by
  have truncated := truncate?_of_toInt? (toInt?_eq_some_iff.mpr stands)
  obtain ⟨least, most⟩ := inRange_toInt integer
  cases content : Binary.ofFloat x with
  | nan =>
      rw [content] at truncated
      cases truncated
  | infinite negative =>
      rw [content] at truncated
      cases truncated
  | finite negative significand exponent =>
      rw [content] at truncated
      rw [saturate, content]
      simp only [truncated, Option.getD_some]
      rw [if_neg (Int.not_lt.mpr least), if_neg (Int.not_lt.mpr most), Int64.ofInt_toInt]

theorem value?_limit : (Binary.ofFloat 9223372036854775808.0).value? = some (2 ^ 63) := by
  have content : Binary.ofFloat 9223372036854775808.0 = .finite false (2 ^ 52) 11 := by
    decide +kernel
  rw [content, Binary.value?, Binary.signed_cast]
  norm_num

theorem abs_lt_limit_iff (stands : (Binary.ofFloat x).value? = some (number : ℚ)) :
    x.abs < 9223372036854775808.0 ↔ |number| < 2 ^ 63 := by
  rw [lt_iff_of_value? (value?_abs stands) value?_limit]
  norm_cast

/-- Of the 64-bit integers a bound on the magnitude leaves out the least one. -/
theorem abs_toInt_lt_iff {integer : Int64} :
    |integer.toInt| < 2 ^ 63 ↔ integer ≠ Int64.minValue := by
  have low := integer.le_toInt
  have high := integer.toInt_lt
  have least : Int64.minValue.toInt = -2 ^ 63 := by decide
  rw [abs_lt, Ne, ← Int64.toInt_inj, least]
  omega

end Whole

end Decimal

namespace Cell

section Floats

variable {x : Float} {integer : Int64}

/-- A whole float becomes the integer that it stands for. -/
theorem wholeFloat?_eq_some_iff :
    wholeFloat? x = some integer ↔
      (Binary.ofFloat x).value? = some (integer.toInt : ℚ) ∧ integer ≠ Int64.minValue := by
  rw [wholeFloat?]
  constructor
  · intro made
    split at made
    · next guard =>
        rw [Bool.and_eq_true, decide_eq_true_eq] at guard
        obtain ⟨number, stands⟩ := isWhole_iff.mp guard.1
        have below := (abs_lt_limit_iff stands).mp guard.2
        obtain ⟨low, high⟩ := abs_lt.mp below
        have same := Int64.toInt_ofInt_of_le (Int.le_of_lt low) high
        rw [← same] at stands below
        obtain rfl := (saturate_of_value? stands).symm.trans (Option.some.inj made)
        exact ⟨stands, abs_toInt_lt_iff.mp below⟩
    · cases made
  · rintro ⟨stands, notLeast⟩
    have below := (abs_lt_limit_iff stands).mpr (abs_toInt_lt_iff.mpr notLeast)
    rw [if_pos (Bool.and_eq_true_iff.mpr ⟨isWhole_iff.mpr ⟨_, stands⟩, decide_eq_true below⟩),
      saturate_of_value? stands]

theorem wholeFloat?_eq_none_iff :
    wholeFloat? x = none ↔ ∀ integer : Int64, integer ≠ Int64.minValue →
      (Binary.ofFloat x).value? ≠ some (integer.toInt : ℚ) := by
  rw [Option.eq_none_iff_forall_ne_some]
  refine forall_congr' fun integer => ?_
  rw [Ne, wholeFloat?_eq_some_iff, not_and']

theorem cast_float_to_int (x : Float) :
    cast .int (.float x) = (wholeFloat? x).elim (.error (.lossyFloat x)) fun integer =>
      .ok (.int integer) := by
  show castTo .int (.float x) = _
  rw [castTo]
  cases wholeFloat? x <;> rfl

theorem cast_float_to_int_iff :
    cast .int (.float x) = .ok (.int integer) ↔
      (Binary.ofFloat x).value? = some (integer.toInt : ℚ) ∧ integer ≠ Int64.minValue := by
  rw [← wholeFloat?_eq_some_iff, cast_float_to_int]
  cases wholeFloat? x <;> simp

/-- The significand of a float is what an integer needs to be short. -/
theorem short_of_value? {number : Int} (stands : (Binary.ofFloat x).value? = some (number : ℚ)) :
    Short number := by
  obtain ⟨-, -, zero⟩ | ⟨-, significand, exponent, stored, -, magnitude⟩ :=
    (denotes stands).zero_or_finite
  · exact ⟨0, 0, by exact_mod_cast zero, by decide⟩
  · rw [short_iff_natAbs]
    rw [← Int.cast_abs, Int.abs_eq_natAbs, Int.cast_natCast] at magnitude
    obtain ⟨lift, rfl | rfl⟩ := exponent.eq_nat_or_neg
    · exact ⟨significand, lift, by exact_mod_cast magnitude, Nat.le_of_lt stored.small⟩
    · -- without a positive exponent the number is not above its significand
      have power : (0 : ℚ) < 2 ^ lift := by positivity
      rw [zpow_neg, zpow_natCast, ← div_eq_mul_inv, eq_div_iff power.ne'] at magnitude
      have scaled : number.natAbs * 2 ^ lift = significand := by exact_mod_cast magnitude
      have atMost : number.natAbs ≤ significand :=
        scaled ▸ Nat.le_mul_of_pos_right _ (Nat.two_pow_pos lift)
      exact ⟨number.natAbs, 0, (Nat.mul_one _).symm, atMost.trans (Nat.le_of_lt stored.small)⟩

/-- The float nearest to an integer stands for it as soon as any float does. -/
theorem value?_floatOfInt_iff :
    (Binary.ofFloat (floatOfInt integer)).value? = some (integer.toInt : ℚ) ↔
      ∃ y, (Binary.ofFloat y).value? = some (integer.toInt : ℚ) :=
  ⟨fun stands => ⟨_, stands⟩, fun ⟨_, stands⟩ =>
    (number?_floatOfInt_iff integer).mpr (short_of_value? stands)⟩

/-- An integer is cast to a float and back to itself exactly when a float stands for it and it is
not the least integer.  A float is cast to the integer that it stands for unless this is the least
one, and any other float, infinities and NaN among them, is refused as lossy. -/
theorem integers_through_floats (integer : Int64) (x : Float) :
    ((cast .float (.int integer)).bind (cast .int) = .ok (.int integer) ↔
        (∃ y, (Binary.ofFloat y).value? = some (integer.toInt : ℚ)) ∧ integer ≠ Int64.minValue) ∧
      (cast .int (.float x) = .ok (.int integer) ↔
        (Binary.ofFloat x).value? = some (integer.toInt : ℚ) ∧ integer ≠ Int64.minValue) ∧
      (cast .int (.float x) = .error (.lossyFloat x) ↔
        ∀ value : Int64, value ≠ Int64.minValue →
          (Binary.ofFloat x).value? ≠ some (value.toInt : ℚ)) := by
  refine ⟨?_, cast_float_to_int_iff, ?_⟩
  · rw [← value?_floatOfInt_iff]
    exact cast_float_to_int_iff
  · rw [← wholeFloat?_eq_none_iff, cast_float_to_int]
    cases wholeFloat? x <;> simp

/-- The least integer is cast to the float that stands for it, and this float is refused. -/
theorem least_integer_refused :
    cast .float (.int Int64.minValue) = .ok (.float (.ofBits 0xC3E0000000000000)) ∧
      (Binary.ofFloat (.ofBits 0xC3E0000000000000)).value? =
        some (Int64.minValue.toInt : ℚ) ∧
      cast .int (.float (.ofBits 0xC3E0000000000000)) =
        .error (.lossyFloat (.ofBits 0xC3E0000000000000)) := by
  have content : Binary.ofFloat (.ofBits 0xC3E0000000000000) = .finite true (2 ^ 52) 11 := by
    decide +kernel
  have least : Int64.minValue.toInt = -2 ^ 63 := by decide
  refine ⟨by decide +kernel, ?_, by decide +kernel⟩
  rw [content, Binary.value?, Binary.signed_cast, least]
  norm_num

end Floats

end Cell

end LogPipe
