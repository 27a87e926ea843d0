import LogPipe.Cell.Order
import Mathlib

/-!
# Rounding integers to floats

A 64-bit integer beside a float is compared as the float nearest to it.  Here this float is
followed down to its bits: the mantissa is shifted to 53 bits with the bits that are lost
kept as a round bit and a sticky bit, it is rounded to even, and a carry goes into the
exponent.  The bits of positive floats are ordered as the floats are.  So rounding keeps the
order of integers, and up to `2 ^ 53` on both sides of zero it is no rounding at all.
-/

namespace LogPipe.Cell

open Float.Model Float.Model.UnpackedFloat

section Shifting

/-- The place of an extended mantissa among the quarters of mantissas. -/
def quarters (mantissa : ExtendedMantissa) : Nat :=
  4 * mantissa.mantissa + 2 * mantissa.roundBit.toNat + mantissa.stickyBit.toNat

variable {less more : ExtendedMantissa}

theorem shiftRight_zero (mantissa : ExtendedMantissa) : mantissa >>> 0 = mantissa :=
  rfl

theorem shiftRight_succ (mantissa : ExtendedMantissa) (count : Nat) :
    mantissa >>> (count + 1) = (mantissa >>> count).shiftRightOne :=
  rfl

theorem quarters_shiftRightOne (mantissa : ExtendedMantissa) :
    quarters mantissa.shiftRightOne =
      2 * (quarters mantissa / 4) + min 1 (quarters mantissa % 4) := by
  obtain ⟨value, roundBit, stickyBit⟩ := mantissa
  obtain even | odd := Nat.mod_two_eq_zero_or_one value <;> cases roundBit <;> cases stickyBit <;>
    simp [quarters, ExtendedMantissa.shiftRightOne, *] <;> omega

theorem quarters_shiftRight_le (le : quarters less ≤ quarters more) (count : Nat) :
    quarters (less >>> count) ≤ quarters (more >>> count) := by
  induction count with
  | zero => exact le
  | succ count induction =>
      rw [shiftRight_succ, shiftRight_succ, quarters_shiftRightOne, quarters_shiftRightOne]
      omega

theorem roundedMantissa_le (le : quarters less ≤ quarters more) :
    less.roundedMantissa ≤ more.roundedMantissa := by
  obtain ⟨lessValue, lessRound, lessSticky⟩ := less
  obtain ⟨moreValue, moreRound, moreSticky⟩ := more
  cases lessRound <;> cases lessSticky <;> cases moreRound <;> cases moreSticky <;>
    simp [quarters, ExtendedMantissa.roundedMantissa, ExtendedMantissa.accuracy,
      Accuracy.roundToNearestEven] at le ⊢ <;> omega

theorem roundedMantissa_bounds (mantissa : ExtendedMantissa) :
    mantissa.mantissa ≤ mantissa.roundedMantissa ∧
      mantissa.roundedMantissa ≤ mantissa.mantissa + 1 := by
  obtain ⟨value, roundBit, stickyBit⟩ := mantissa
  cases roundBit <;> cases stickyBit <;>
    simp only [ExtendedMantissa.roundedMantissa, ExtendedMantissa.accuracy,
      Accuracy.roundToNearestEven] <;> omega

theorem mantissa_shiftRight (mantissa : ExtendedMantissa) (count : Nat) :
    (mantissa >>> count).mantissa = mantissa.mantissa / 2 ^ count := by
  induction count with
  | zero => simp [shiftRight_zero]
  | succ count induction =>
      rw [shiftRight_succ, ExtendedMantissa.shiftRightOne, induction, Nat.div_div_eq_div_mul,
        Nat.pow_succ]

theorem shiftRight_exact (value count : Nat) :
    (⟨value * 2 ^ count, false, false⟩ : ExtendedMantissa) >>> count = ⟨value, false, false⟩ := by
  induction count generalizing value with
  | zero => simp [shiftRight_zero]
  | succ count induction =>
      have twice : value * 2 ^ (count + 1) = (value * 2) * 2 ^ count := by
        rw [Nat.pow_succ, Nat.mul_comm (2 ^ count), Nat.mul_assoc]
      rw [shiftRight_succ, twice, induction]
      simp [ExtendedMantissa.shiftRightOne]

end Shifting

/-- The significand of the float nearest to a number, with its carry. -/
def significand (number : Nat) : Nat :=
  ((⟨number * 2 ^ 53, false, false⟩ : ExtendedMantissa) >>> (number.log2 + 1)).roundedMantissa

/-- The bits of the float nearest to a positive number.  A carry goes into the exponent. -/
def magnitude (number : Nat) : Nat :=
  (number.log2 + 1022) * 2 ^ 52 + significand number

variable {less more number : Nat}

theorem significand_of_log2_le (small : number.log2 ≤ 52) :
    significand number = number * 2 ^ (52 - number.log2) := by
  have shape : number * 2 ^ 53 = number * 2 ^ (52 - number.log2) * 2 ^ (number.log2 + 1) := by
    rw [Nat.mul_assoc, ← Nat.pow_add]
    congr 2
    omega
  rw [significand, shape, shiftRight_exact]
  rfl

theorem significand_bounds (positive : 0 < number) :
    2 ^ 52 ≤ significand number ∧ significand number ≤ 2 ^ 53 := by
  have rounded := roundedMantissa_bounds
    ((⟨number * 2 ^ 53, false, false⟩ : ExtendedMantissa) >>> (number.log2 + 1))
  rw [mantissa_shiftRight] at rounded
  have low : 2 ^ 52 ≤ number * 2 ^ 53 / 2 ^ (number.log2 + 1) := by
    rw [Nat.le_div_iff_mul_le (Nat.two_pow_pos _), ← Nat.pow_add]
    have shape : 2 ^ (52 + (number.log2 + 1)) = 2 ^ number.log2 * 2 ^ 53 := by
      rw [← Nat.pow_add]
      congr 1
      omega
    rw [shape]
    exact Nat.mul_le_mul_right _ (Nat.log2_self_le (Nat.ne_of_gt positive))
  have high : number * 2 ^ 53 / 2 ^ (number.log2 + 1) < 2 ^ 53 := by
    rw [Nat.div_lt_iff_lt_mul (Nat.two_pow_pos _), Nat.mul_comm (2 ^ 53)]
    exact Nat.mul_lt_mul_of_pos_right Nat.lt_log2_self (Nat.two_pow_pos 53)
  dsimp only at rounded
  rw [significand]
  omega

theorem significand_le (same : less.log2 = more.log2) (le : less ≤ more) :
    significand less ≤ significand more := by
  rw [significand, significand, same]
  refine roundedMantissa_le (quarters_shiftRight_le ?_ _)
  simp only [quarters]
  omega

theorem log2_mono (le : less ≤ more) : less.log2 ≤ more.log2 := by
  rw [Nat.log2_eq_log_two, Nat.log2_eq_log_two]
  exact Nat.log_mono_right le

theorem magnitude_le (positive : 0 < less) (le : less ≤ more) :
    magnitude less ≤ magnitude more := by
  have lessBounds := significand_bounds positive
  have moreBounds := significand_bounds (Nat.lt_of_lt_of_le positive le)
  simp only [magnitude]
  obtain same | lower := Nat.eq_or_lt_of_le (log2_mono le)
  · have ordered := significand_le same le
    omega
  · omega

/-- Numbers up to `2 ^ 53` are not rounded. -/
theorem magnitude_lt (positive : 0 < less) (lt : less < more) (small : more ≤ 2 ^ 53) :
    magnitude less < magnitude more := by
  have lessLog : less.log2 ≤ 52 := by
    have below : less.log2 < 53 := (Nat.log2_lt (Nat.ne_of_gt positive)).mpr (by omega)
    omega
  have moreBounds := significand_bounds (Nat.lt_trans positive lt)
  have lessExact := significand_of_log2_le lessLog
  simp only [magnitude]
  obtain same | lower := Nat.eq_or_lt_of_le (log2_mono (Nat.le_of_lt lt))
  · have moreExact := significand_of_log2_le (same ▸ lessLog)
    have scaled : less * 2 ^ (52 - less.log2) < more * 2 ^ (52 - more.log2) := by
      rw [same]
      exact Nat.mul_lt_mul_of_pos_right lt (Nat.two_pow_pos _)
    omega
  · have noCarry : significand less < 2 ^ 53 := by
      rw [lessExact]
      calc
        less * 2 ^ (52 - less.log2) < 2 ^ (less.log2 + 1) * 2 ^ (52 - less.log2) :=
          Nat.mul_lt_mul_of_pos_right Nat.lt_log2_self (Nat.two_pow_pos _)
        _ = 2 ^ 53 := by
          rw [← Nat.pow_add]
          congr 1
          omega
    omega

section Rounding

/-- Finite floats in their usual form: the highest bit of the mantissa is set, and the
exponent may be stored. -/
structure Normal (mantissa : Nat) (exponent : Int) : Prop where
  low : 2 ^ 52 ≤ mantissa
  high : mantissa < 2 ^ 53
  least : -1074 ≤ exponent
  most : exponent ≤ 971

theorem Normal.positive {mantissa : Nat} {exponent : Int} (normal : Normal mantissa exponent) :
    0 < mantissa :=
  Nat.lt_of_lt_of_le (Nat.two_pow_pos 52) normal.low

theorem Normal.log2 {mantissa : Nat} {exponent : Int} (normal : Normal mantissa exponent) :
    mantissa.log2 = 52 :=
  (Nat.log2_eq_iff (Nat.ne_of_gt normal.positive)).mpr ⟨normal.low, normal.high⟩

theorem shiftToTargetExponent_eq {value shift : Nat} {exponent : Int}
    (target : Format.binary64.targetExponent (totalExponent value exponent) = exponent + shift) :
    shiftToTargetExponent Format.binary64 value exponent .exact =
      ((⟨value, false, false⟩ : ExtendedMantissa) >>> shift, exponent + shift) := by
  have amount : (exponent + shift - exponent).toNat = shift := by omega
  rw [shiftToTargetExponent, target, shiftToExponent, amount]
  rfl

theorem targetExponent_eq {value : Nat} {exponent place : Int}
    (log2 : (value.log2 : Int) + exponent = 52 + place) (low : -1074 ≤ place) :
    Format.binary64.targetExponent (totalExponent value exponent) = place := by
  have bits : (Format.binary64.mantissaBits : Int) = 53 := by decide
  have least : Format.binary64.minExponent = -1074 := by decide
  rw [Format.targetExponent, totalExponent, bits, least]
  omega

/-- A positive number is rounded to a float in the usual form. -/
theorem exists_normal_of_round (sign : Sign) {value shift : Nat} {exponent : Int}
    (log2 : value.log2 = 52 + shift) (low : -1074 ≤ exponent + shift)
    (high : exponent + shift ≤ 970) :
    ∃ mantissa place, ∃ normal : Normal mantissa place,
      roundWithAccuracy Format.binary64 sign value exponent .exact =
        .finite sign mantissa place normal.positive ∧
      (place + 1074) * 2 ^ 52 + mantissa = (exponent + shift + 1074) * 2 ^ 52 +
        ((⟨value, false, false⟩ : ExtendedMantissa) >>> shift).roundedMantissa := by
  have some : value ≠ 0 := by
    rintro rfl
    rw [Nat.log2_zero] at log2
    omega
  have bounds := roundedMantissa_bounds ((⟨value, false, false⟩ : ExtendedMantissa) >>> shift)
  rw [mantissa_shiftRight] at bounds
  have floor : 2 ^ 52 ≤ value / 2 ^ shift ∧ value / 2 ^ shift < 2 ^ 53 := by
    rw [Nat.le_div_iff_mul_le (Nat.two_pow_pos _), Nat.div_lt_iff_lt_mul (Nat.two_pow_pos _),
      ← Nat.pow_add, ← Nat.pow_add]
    have upper : 53 + shift = value.log2 + 1 := by omega
    rw [← log2, upper]
    exact ⟨Nat.log2_self_le some, Nat.lt_log2_self⟩
  have first := @shiftToTargetExponent_eq value shift exponent
    (targetExponent_eq (by omega) low)
  rw [roundWithAccuracy, first]
  dsimp only at bounds ⊢
  generalize ((⟨value, false, false⟩ : ExtendedMantissa) >>> shift).roundedMantissa = rounded
    at bounds ⊢
  obtain carry | noCarry := Nat.eq_or_lt_of_le (show rounded ≤ 2 ^ 53 by omega)
  · subst carry
    have last := @shiftToTargetExponent_eq (2 ^ 53) 1 (exponent + shift)
      (targetExponent_eq (by rw [Nat.log2_two_pow]; omega) (by omega))
    refine ⟨2 ^ 52, exponent + shift + 1, ⟨by omega, by omega, by omega, by omega⟩, ?_, by omega⟩
    rw [last]
    rfl
  · have normal : Normal rounded (exponent + shift) := ⟨by omega, noCarry, low, by omega⟩
    have last := @shiftToTargetExponent_eq rounded 0 (exponent + shift)
      (targetExponent_eq (by rw [normal.log2]; omega) (by omega))
    refine ⟨rounded, exponent + shift, normal, ?_, rfl⟩
    rw [last, shiftRight_zero, dif_neg (Nat.ne_of_gt normal.positive)]
    simp

end Rounding

section Packing

variable {mantissa : Nat} {exponent : Int} (normal : Normal mantissa exponent) (sign : Sign)

/-- The stored form of a float in the usual form. -/
theorem pack_normal :
    UnpackedFloat.pack Format.binary64 (.finite sign mantissa exponent normal.positive) =
      packComponents Format.binary64 sign (BitVec.ofNat 11 (exponent + 1075).toNat)
        (BitVec.ofNat 52 mantissa) := by
  have bias : (Format.binary64.exponentBias : Int) = 1023 := by decide
  have bits : Format.binary64.mantissaBits = 53 := by decide
  have stored : (exponent + 1023 + (52 : Nat)).toNat = (exponent + 1075).toNat := by omega
  have fits : ¬2 ^ 11 ≤ (exponent + 1075).toNat + 1 := by
    have most := normal.most
    omega
  rw [UnpackedFloat.pack]
  simp only [bias, bits, normal.log2, stored]
  rw [if_neg fits, if_pos trivial]

theorem toNat_pack :
    (UnpackedFloat.pack Format.binary64
        (.finite sign mantissa exponent normal.positive)).toNat =
      sign.toBitVec.toNat * 2 ^ 63 + (exponent + 1074).toNat * 2 ^ 52 + mantissa := by
  have least := normal.least
  have most := normal.most
  have low := normal.low
  have high := normal.high
  have part : (BitVec.ofNat 52 mantissa).toNat = mantissa - 2 ^ 52 := by
    rw [BitVec.toNat_ofNat]
    omega
  have stored : (BitVec.ofNat 11 (exponent + 1075).toNat).toNat = (exponent + 1074).toNat + 1 := by
    rw [BitVec.toNat_ofNat]
    omega
  rw [pack_normal normal sign, packComponents, BitVec.toNat_append, BitVec.toNat_append,
    ← Nat.shiftLeft_add_eq_or_of_lt (BitVec.isLt _), ← Nat.shiftLeft_add_eq_or_of_lt
      (BitVec.isLt _), Nat.shiftLeft_eq, Nat.shiftLeft_eq, part, stored]
  omega

theorem unpackSign_packComponents (sign : Sign) (exponent : BitVec 11) (mantissa : BitVec 52) :
    Sign.ofBitVec (unpackSign (packComponents Format.binary64 sign exponent mantissa)) = sign := by
  have same : unpackSign (packComponents Format.binary64 sign exponent mantissa) =
      sign.toBitVec := by
    refine BitVec.eq_of_getLsbD_eq fun i inside => ?_
    obtain rfl : i = 0 := by omega
    simp only [unpackSign, packComponents]
    rw [BitVec.getLsbD_cast, BitVec.getLsbD_extractLsb]
    rw [BitVec.getLsbD_append, BitVec.getLsbD_append]
    simp
  rw [same]
  cases sign <;> rfl

theorem unpack_pack_normal :
    UnpackedFloat.unpack Format.binary64
        (UnpackedFloat.pack Format.binary64
          (.finite sign mantissa exponent normal.positive)) =
      .finite sign mantissa exponent normal.positive := by
  have least := normal.least
  have most := normal.most
  have low := normal.low
  have high := normal.high
  have bias : (Format.binary64.exponentBias : Int) = 1023 := by decide
  have stored : (BitVec.ofNat 11 (exponent + 1075).toNat).toNat = (exponent + 1075).toNat := by
    rw [BitVec.toNat_ofNat]
    omega
  have notAll : BitVec.ofNat 11 (exponent + 1075).toNat ≠ -1#11 := by
    intro all
    have bits := congrArg BitVec.toNat all
    rw [stored] at bits
    simp at bits
    omega
  have notZero : BitVec.ofNat 11 (exponent + 1075).toNat ≠ 0#11 := by
    intro zero
    have bits := congrArg BitVec.toNat zero
    rw [stored] at bits
    simp at bits
    omega
  have whole : (1#1 ++ BitVec.ofNat 52 mantissa).toNat = mantissa := by
    rw [BitVec.toNat_append, ← Nat.shiftLeft_add_eq_or_of_lt (BitVec.isLt _), Nat.shiftLeft_eq,
      BitVec.toNat_ofNat]
    simp
    omega
  have place : ((exponent + 1075).toNat : Int) - (1023 + (52 : Nat)) = exponent := by omega
  rw [pack_normal normal sign, UnpackedFloat.unpack]
  simp only [unpackExponent_packComponents, unpackMantissa_packComponents,
    unpackSign_packComponents, if_neg notAll, if_neg notZero, whole, stored, bias, place]

end Packing

section Numbers

variable {number : Nat}

/-- The float is the one of a mantissa and an exponent in the usual form. -/
def IsNormal (x : Float) (sign : Sign) (bits : Nat) : Prop :=
  ∃ mantissa exponent, ∃ normal : Normal mantissa exponent,
    x.toModel = Float.Model.pack (.finite sign mantissa exponent normal.positive) ∧
      (exponent + 1074) * 2 ^ 52 + mantissa = (bits : Int)

theorem unpack_pack {mantissa : Nat} {exponent : Int} (normal : Normal mantissa exponent)
    (sign : Sign) :
    (Float.Model.pack (.finite sign mantissa exponent normal.positive)).unpack =
      .finite sign mantissa exponent normal.positive :=
  unpack_pack_normal normal sign

theorem log2_mul_two_pow (positive : 0 < number) (count : Nat) :
    (number * 2 ^ count).log2 = number.log2 + count := by
  have some : number * 2 ^ count ≠ 0 :=
    Nat.mul_ne_zero (Nat.ne_of_gt positive) (Nat.ne_of_gt (Nat.two_pow_pos count))
  rw [Nat.log2_eq_iff some, Nat.pow_add, Nat.add_right_comm, Nat.pow_add]
  exact ⟨Nat.mul_le_mul_right _ (Nat.log2_self_le (Nat.ne_of_gt positive)),
    Nat.mul_lt_mul_of_pos_right Nat.lt_log2_self (Nat.two_pow_pos count)⟩

theorem isNormal_toFloat (positive : 0 < number) (small : number < 2 ^ 53) :
    IsNormal number.toUInt64.toFloat .positive (magnitude number) := by
  have log2 : number.log2 ≤ 52 := by
    have below : number.log2 < 53 := (Nat.log2_lt (Nat.ne_of_gt positive)).mpr small
    omega
  have same : number.toUInt64.toNat = number := by
    simp
    omega
  have place : Format.binary64.targetExponent (totalExponent number 0) = number.log2 - 52 :=
    targetExponent_eq (by omega) (by omega)
  have lowered : decreaseExponent number 0 (number.log2 - 52) =
      (number * 2 ^ (52 - number.log2), (number.log2 : Int) - 52) := by
    have amount : ((0 : Int) - (number.log2 - 52)).toNat = 52 - number.log2 := by omega
    simp only [decreaseExponent, amount, Nat.shiftLeft_eq, Prod.mk.injEq, true_and]
    omega
  have positiveInt : compare (number : Int) 0 = .gt := by
    rw [Int.compare_eq_gt]
    omega
  obtain ⟨mantissa, exponent, normal, rounded, bits⟩ := @exists_normal_of_round .positive
    (number * 2 ^ (52 - number.log2)) 0 (number.log2 - 52)
    (by rw [log2_mul_two_pow positive]; omega) (by omega) (by omega)
  refine ⟨mantissa, exponent, normal, ?_, ?_⟩
  · show Float.Model.pack (UnpackedFloat.ofNat Format.binary64 number.toUInt64.toNat) = _
    rw [same, UnpackedFloat.ofNat, UnpackedFloat.ofInt, UnpackedFloat.normalize, positiveInt]
    simp only [Int.toNat_natCast]
    rw [UnpackedFloat.round, place, lowered]
    simp only [rounded]
  · have exact : ((⟨number * 2 ^ (52 - number.log2), false, false⟩ : ExtendedMantissa) >>>
        0).roundedMantissa = significand number := (significand_of_log2_le log2).symm
    rw [bits, exact, magnitude]
    omega

theorem unpack_one : (Float.ofBits 0x3FF0000000000000).toModel.unpack =
    .finite .positive (2 ^ 52) (-52) (Nat.two_pow_pos 52) :=
  rfl

/-- A product is rounded from the product of the mantissas. -/
theorem toModel_mul {x y : Float} {mantissa other : Nat} {exponent place : Int}
    {positive : 0 < mantissa} {otherPositive : 0 < other}
    (first : x.toModel.unpack = .finite .positive mantissa exponent positive)
    (second : y.toModel.unpack = .finite .positive other place otherPositive) :
    (x * y).toModel = Float.Model.pack
      (roundWithAccuracy Format.binary64 .positive (mantissa * other) (exponent + place)
        .exact) := by
  show Float.Model.pack (UnpackedFloat.mul Format.binary64 x.toModel.unpack y.toModel.unpack) = _
  rw [first, second]
  rfl

/-- Multiplying by one changes nothing. -/
theorem IsNormal.mul_one {x : Float} {bits : Nat} (isNormal : IsNormal x .positive bits)
    (fits : bits < 2046 * 2 ^ 52) :
    IsNormal (x * Float.ofBits 0x3FF0000000000000) .positive bits := by
  obtain ⟨mantissa, exponent, normal, packed, same⟩ := isNormal
  have low := normal.low
  have least := normal.least
  have unpacked : x.toModel.unpack = .finite .positive mantissa exponent normal.positive := by
    rw [packed, unpack_pack normal]
  have shifted : exponent + -52 + (52 : Nat) = exponent := by omega
  obtain ⟨other, place, otherNormal, rounded, placed⟩ := @exists_normal_of_round .positive
    (mantissa * 2 ^ 52) 52 (exponent + -52)
    (by rw [log2_mul_two_pow normal.positive, normal.log2]) (by omega) (by omega)
  rw [shiftRight_exact, shifted] at placed
  refine ⟨other, place, otherNormal, ?_, placed.trans same⟩
  rw [toModel_mul unpacked unpack_one, rounded]

theorem ofNat_eq (number : Nat) :
    Float.ofNat number =
      if number < 2 ^ 53 then number.toUInt64.toFloat * Float.ofBits 0x3FF0000000000000
      else .ofModel (Float.Model.ofScientific number 0) := by
  show Float.ofScientific number false 0 = _
  rw [Float.ofScientific]
  by_cases small : number < 2 ^ 53
  · rw [dif_pos ⟨small, by decide⟩, if_pos small]
    rfl
  · rw [dif_neg fun both => small both.1, if_neg small]
    rfl

theorem magnitude_lt_limit (fits : number < 2 ^ 64) (positive : 0 < number) :
    magnitude number < 2046 * 2 ^ 52 := by
  have log2 : number.log2 < 64 := (Nat.log2_lt (Nat.ne_of_gt positive)).mpr fits
  have bounds := significand_bounds positive
  rw [magnitude]
  omega

/-- A number that has to be rounded is rounded from a mantissa with more bits. -/
theorem isNormal_ofScientific (large : 2 ^ 53 ≤ number) (fits : number < 2 ^ 64) :
    IsNormal (.ofModel (Float.Model.ofScientific number 0)) .positive (magnitude number) := by
  have positive : 0 < number := by omega
  have log2 : number.log2 < 64 := (Nat.log2_lt (Nat.ne_of_gt positive)).mpr fits
  have shifted : (-53 : Int) + (number.log2 + 1 : Nat) = number.log2 - 52 := by omega
  obtain ⟨mantissa, exponent, normal, rounded, same⟩ := @exists_normal_of_round .positive
    (number * 2 ^ 53) (number.log2 + 1) (-53)
    (by rw [log2_mul_two_pow positive]; omega) (by omega) (by omega)
  rw [shifted, ← significand] at same
  refine ⟨mantissa, exponent, normal, ?_, by rw [same, magnitude]; omega⟩
  show Float.Model.pack (UnpackedFloat.ofScientific Format.binary64 number 0) = _
  have bits : Format.binary64.mantissaBits = 53 := by decide
  have notLess : ¬(0 : Int) < -((2 ^ 11 : Int) + number.log2) := by omega
  simp only [UnpackedFloat.ofScientific, bits, dif_neg (Nat.ne_of_gt positive), if_neg notLess,
    Nat.shiftLeft_eq]
  rw [if_neg (by decide), if_pos (by decide)]
  show Float.Model.pack
    (roundWithAccuracy Format.binary64 .positive (number * 2 ^ 53 * 1) (-53) .exact) = _
  rw [Nat.mul_one, rounded]

theorem isNormal_ofNat (positive : 0 < number) (fits : number < 2 ^ 64) :
    IsNormal (Float.ofNat number) .positive (magnitude number) := by
  rw [ofNat_eq]
  split
  · next small => exact (isNormal_toFloat positive small).mul_one (magnitude_lt_limit fits positive)
  · next large => exact isNormal_ofScientific (Nat.le_of_not_lt large) fits

theorem IsNormal.neg {x : Float} {bits : Nat} (isNormal : IsNormal x .positive bits) :
    IsNormal (Float.neg x) .negative bits := by
  obtain ⟨mantissa, exponent, normal, packed, same⟩ := isNormal
  refine ⟨mantissa, exponent, normal, ?_, same⟩
  show Float.Model.pack x.toModel.unpack.neg = _
  rw [packed, unpack_pack normal]
  rfl

theorem IsNormal.isNaN {x : Float} {sign : Sign} {bits : Nat} (isNormal : IsNormal x sign bits) :
    x.isNaN = false := by
  obtain ⟨mantissa, exponent, normal, packed, -⟩ := isNormal
  show x.toModel.unpack.isNaN = false
  rw [packed, unpack_pack normal]
  rfl

theorem IsNormal.toBits {x : Float} {sign : Sign} {bits : Nat} (isNormal : IsNormal x sign bits) :
    x.toBits.toNat = sign.toBitVec.toNat * 2 ^ 63 + bits := by
  obtain ⟨mantissa, exponent, normal, packed, same⟩ := isNormal
  have least := normal.least
  have stored : x.toBits.toNat = (UnpackedFloat.pack Format.binary64
      (.finite sign mantissa exponent normal.positive)).toNat := by
    show x.toModel.toBits.toNat = _
    rw [packed]
    rfl
  rw [stored, toNat_pack normal]
  omega

end Numbers

section Ranks

open LogPipe.Decimal

theorem IsNormal.floatRank_positive {x : Float} {bits : Nat} (isNormal : IsNormal x .positive bits)
    (fits : bits < 2 ^ 63) : floatRank x = bits := by
  have stored := isNormal.toBits
  have plain : Sign.positive.toBitVec.toNat = 0 := rfl
  have limit : twoTo 63 = 2 ^ 63 := rfl
  rw [plain, Nat.zero_mul, Nat.zero_add] at stored
  rw [floatRank, stored, limit]
  exact if_pos fits

theorem IsNormal.floatRank_negative {x : Float} {bits : Nat}
    (isNormal : IsNormal x .negative bits) : floatRank x = -(bits : Int) - 1 := by
  have stored := isNormal.toBits
  have signed : Sign.negative.toBitVec.toNat = 1 := rfl
  have limit : twoTo 63 = 2 ^ 63 := rfl
  rw [signed, Nat.one_mul] at stored
  have above : ¬2 ^ 63 + bits < 2 ^ 63 := by omega
  rw [floatRank, stored, limit]
  simp only [if_neg above]
  omega

/-- The place in the total order of floats of the float nearest to an integer. -/
def intRank (value : Int) : Int :=
  if 0 < value then magnitude value.toNat
  else if value < 0 then -(magnitude (-value).toNat : Int) - 1
  else 0

theorem floatRank_ofInt {value : Int} (low : -2 ^ 64 < value) (high : value < 2 ^ 64) :
    floatRank (Float.ofInt value) = intRank value := by
  rw [intRank]
  cases value with
  | ofNat number =>
      rw [Int.ofNat_eq_natCast] at high ⊢
      cases number with
      | zero => rfl
      | succ number =>
          have positive : 0 < number + 1 := Nat.succ_pos number
          have fits : number + 1 < 2 ^ 64 := by omega
          have below := magnitude_lt_limit fits positive
          rw [if_pos (by omega), Int.toNat_natCast]
          exact (isNormal_ofNat positive fits).floatRank_positive (by omega)
  | negSucc number =>
      have fits : number + 1 < 2 ^ 64 := by omega
      have positive : 0 < number + 1 := Nat.succ_pos number
      have opposite : (-Int.negSucc number).toNat = number + 1 := rfl
      rw [if_neg (by omega), if_pos (by omega), opposite]
      exact (isNormal_ofNat positive fits).neg.floatRank_negative

/-- An integer is a number as a float. -/
theorem isNaN_ofInt {value : Int} (low : -2 ^ 64 < value) (high : value < 2 ^ 64) :
    (Float.ofInt value).isNaN = false := by
  cases value with
  | ofNat number =>
      rw [Int.ofNat_eq_natCast] at high
      cases number with
      | zero => rfl
      | succ number => exact (isNormal_ofNat (Nat.succ_pos number) (by omega)).isNaN
  | negSucc number => exact (isNormal_ofNat (Nat.succ_pos number) (by omega)).neg.isNaN

theorem intRank_le {less more : Int} (le : less ≤ more) : intRank less ≤ intRank more := by
  simp only [intRank]
  split
  · next positive =>
      have ordered : magnitude less.toNat ≤ magnitude more.toNat :=
        magnitude_le (by omega) (by omega)
      rw [if_pos (by omega)]
      omega
  · split
    · split
      · omega
      · split
        · have ordered : magnitude (-more).toNat ≤ magnitude (-less).toNat :=
            magnitude_le (by omega) (by omega)
          omega
        · omega
    · split
      · omega
      · split
        · omega
        · omega

/-- Integers up to `2 ^ 53` on both sides of zero are not rounded. -/
theorem intRank_lt {less more : Int} (lt : less < more) (low : -2 ^ 53 ≤ less)
    (high : more ≤ 2 ^ 53) : intRank less < intRank more := by
  simp only [intRank]
  split
  · next positive =>
      have ordered : magnitude less.toNat < magnitude more.toNat :=
        magnitude_lt (by omega) (by omega) (by omega)
      rw [if_pos (by omega)]
      omega
  · split
    · split
      · omega
      · split
        · have ordered : magnitude (-more).toNat < magnitude (-less).toNat :=
            magnitude_lt (by omega) (by omega) (by omega)
          omega
        · omega
    · rw [if_pos (by omega)]
      have bounds := @significand_bounds more.toNat (by omega)
      rw [magnitude]
      omega

theorem floatRank_floatOfInt (value : Int64) :
    floatRank (floatOfInt value) = intRank value.toInt := by
  have low := value.le_toInt
  have high := value.toInt_lt
  exact floatRank_ofInt (by omega) (by omega)

theorem isNaN_floatOfInt (value : Int64) : (floatOfInt value).isNaN = false := by
  have low := value.le_toInt
  have high := value.toInt_lt
  exact isNaN_ofInt (by omega) (by omega)

/-- Rounding integers to floats keeps their order. -/
theorem floatRank_floatOfInt_le {less more : Int64} (le : less.toInt ≤ more.toInt) :
    floatRank (floatOfInt less) ≤ floatRank (floatOfInt more) := by
  rw [floatRank_floatOfInt, floatRank_floatOfInt]
  exact intRank_le le

end Ranks

end LogPipe.Cell
