import LogPipe.Proofs.Cell.Comparison
import LogPipe.Proofs.Cell.Exactness
import LogPipe.Proofs.Cell.Sorting

/-!
# The order and the sums of floats nearest to integers

The floats nearest to integers are compared as their places in the total order say, so two
integers that share their nearest float are not told apart.  Added, they give the float nearest
to the sum of the integers as long as both are the integers themselves: then nothing is lost
before the sum is rounded, and it is rounded as the integer would be.
-/

namespace LogPipe.Cell

open Float.Model Float.Model.UnpackedFloat

section Order

/-- The unpacked form of a float that is nearest to an integer, with its place. -/
inductive Unpacks : UnpackedFloat → Int → Prop where
  | zero : Unpacks (.zero .positive) 0
  | positive {mantissa : Nat} {exponent : Int} (normal : Normal mantissa exponent) :
      Unpacks (.finite .positive mantissa exponent normal.positive)
        ((exponent + 1074) * 2 ^ 52 + mantissa)
  | negative {mantissa : Nat} {exponent : Int} (normal : Normal mantissa exponent) :
      Unpacks (.finite .negative mantissa exponent normal.positive)
        (-((exponent + 1074) * 2 ^ 52 + mantissa) - 1)

theorem unpacks_ofInt {value : Int} (low : -2 ^ 64 < value) (high : value < 2 ^ 64) :
    Unpacks (Float.ofInt value).toModel.unpack (intRank value) := by
  rw [intRank]
  cases value with
  | ofNat number =>
      rw [Int.ofNat_eq_natCast] at high ⊢
      cases number with
      | zero => exact .zero
      | succ number =>
          obtain ⟨mantissa, exponent, normal, packed, same⟩ :=
            isNormal_ofNat (Nat.succ_pos number) (show number + 1 < 2 ^ 64 by omega)
          rw [if_pos (by omega), Int.toNat_natCast, ← same]
          show Unpacks (Float.ofNat (number + 1)).toModel.unpack _
          rw [packed, unpack_pack normal]
          exact .positive normal
  | negSucc number =>
      obtain ⟨mantissa, exponent, normal, packed, same⟩ :=
        (isNormal_ofNat (Nat.succ_pos number) (show number + 1 < 2 ^ 64 by omega)).neg
      have opposite : (-Int.negSucc number).toNat = number + 1 := rfl
      rw [if_neg (by omega), if_pos (by omega), opposite, ← same]
      show Unpacks (Float.neg (Float.ofNat (number + 1))).toModel.unpack _
      rw [packed, unpack_pack normal]
      exact .negative normal

/-- Floats in the usual form are ordered by their bits: the exponent decides first. -/
theorem compare_normal {mantissa other : Nat} {exponent place : Int}
    (normal : Normal mantissa exponent) (otherNormal : Normal other place) :
    (compare exponent place).then (compare mantissa other) =
      compare ((exponent + 1074) * 2 ^ 52 + mantissa) ((place + 1074) * 2 ^ 52 + other) := by
  have low := normal.low
  have high := normal.high
  have otherLow := otherNormal.low
  have otherHigh := otherNormal.high
  obtain less | same | more := Int.lt_trichotomy exponent place
  · rw [Int.compare_eq_lt.mpr less, Int.compare_eq_lt.mpr (by omega)]
    rfl
  · subst same
    rw [Int.compare_eq_eq.mpr rfl, Ordering.eq_then]
    obtain less | same | more := Nat.lt_trichotomy mantissa other
    · rw [Nat.compare_eq_lt.mpr less, Int.compare_eq_lt.mpr (by omega)]
    · rw [Nat.compare_eq_eq.mpr same, Int.compare_eq_eq.mpr (by omega)]
    · rw [Nat.compare_eq_gt.mpr more, Int.compare_eq_gt.mpr (by omega)]
  · rw [Int.compare_eq_gt.mpr more, Int.compare_eq_gt.mpr (by omega)]
    rfl

/-- Below zero the order is turned around. -/
theorem compare_mirror (left right : Int) :
    compare right left = compare (-left - 1) (-right - 1) := by
  obtain less | same | more := Int.lt_trichotomy right left
  · rw [Int.compare_eq_lt.mpr less, Int.compare_eq_lt.mpr (by omega)]
  · rw [Int.compare_eq_eq.mpr same, Int.compare_eq_eq.mpr (by omega)]
  · rw [Int.compare_eq_gt.mpr more, Int.compare_eq_gt.mpr (by omega)]

theorem compare_of_unpacks {left right : UnpackedFloat} {lower upper : Int}
    (isLeft : Unpacks left lower) (isRight : Unpacks right upper) :
    left.compare right = some (compare lower upper) := by
  cases isLeft with
  | zero =>
      cases isRight with
      | zero => rfl
      | positive normal =>
          have least := normal.least
          have positive := normal.positive
          exact congrArg some (Int.compare_eq_lt.mpr (by omega)).symm
      | negative normal =>
          have least := normal.least
          exact congrArg some (Int.compare_eq_gt.mpr (by omega)).symm
  | positive normal =>
      have least := normal.least
      have positive := normal.positive
      cases isRight with
      | zero => exact congrArg some (Int.compare_eq_gt.mpr (by omega)).symm
      | positive other => exact congrArg some (compare_normal normal other)
      | negative other =>
          have otherLeast := other.least
          exact congrArg some (Int.compare_eq_gt.mpr (by omega)).symm
  | negative normal =>
      have least := normal.least
      cases isRight with
      | zero => exact congrArg some (Int.compare_eq_lt.mpr (by omega)).symm
      | positive other =>
          have otherLeast := other.least
          exact congrArg some (Int.compare_eq_lt.mpr (by omega)).symm
      | negative other =>
          refine congrArg some ?_
          rw [compare_normal normal other, Int.compare_swap]
          exact compare_mirror _ _

/-- The floats nearest to two integers are ordered by their places. -/
theorem ieeeOrder_floatOfInt (left right : Int64) :
    ieeeOrder (floatOfInt left) (floatOfInt right) =
      some (compare (intRank left.toInt) (intRank right.toInt)) := by
  have leftLow := left.le_toInt
  have leftHigh := left.toInt_lt
  have rightLow := right.le_toInt
  have rightHigh := right.toInt_lt
  exact compare_of_unpacks (unpacks_ofInt (by omega) (by omega))
    (unpacks_ofInt (by omega) (by omega))

theorem floatOfInt_lt_iff {left right : Int64} :
    floatOfInt left < floatOfInt right ↔ intRank left.toInt < intRank right.toInt := by
  rw [lt_iff_ieeeOrder, ieeeOrder_floatOfInt, Option.some_inj, Int.compare_eq_lt]

end Order

section Shifting

theorem shiftRight_add (mantissa : ExtendedMantissa) (first second : Nat) :
    mantissa >>> (first + second) = (mantissa >>> first) >>> second := by
  induction second with
  | zero => rfl
  | succ second induction =>
      rw [← Nat.add_assoc, shiftRight_succ, induction, shiftRight_succ]

/-- Shifting does not see how a value is scaled. -/
theorem shiftRight_scaled {value other up otherUp down otherDown : Nat}
    (same : value * 2 ^ up = other * 2 ^ otherUp) (level : up + down = otherUp + otherDown) :
    (⟨value, false, false⟩ : ExtendedMantissa) >>> down =
      (⟨other, false, false⟩ : ExtendedMantissa) >>> otherDown := by
  calc
    (⟨value, false, false⟩ : ExtendedMantissa) >>> down =
        (⟨value * 2 ^ up, false, false⟩ : ExtendedMantissa) >>> (up + down) := by
      rw [shiftRight_add, shiftRight_exact]
    _ = (⟨other, false, false⟩ : ExtendedMantissa) >>> otherDown := by
      rw [same, level, shiftRight_add, shiftRight_exact]

/-- What a mantissa and an exponent stand for is a number when both can be scaled to it. -/
theorem exists_scaled {value number : Nat} {exponent : Int}
    (same : (value : ℚ) * 2 ^ exponent = number) :
    ∃ up otherUp : Nat,
      value * 2 ^ up = number * 2 ^ otherUp ∧ (up : Int) - otherUp = exponent := by
  obtain ⟨up, rfl⟩ | ⟨down, rfl⟩ :
      (∃ up : Nat, exponent = up) ∨ ∃ down : Nat, exponent = -down := by
    obtain lower | upper := le_total exponent 0
    · exact Or.inr ⟨exponent.natAbs, by omega⟩
    · exact Or.inl ⟨exponent.natAbs, by omega⟩
  · refine ⟨up, 0, ?_, by omega⟩
    rw [zpow_natCast] at same
    rw [Nat.pow_zero, Nat.mul_one]
    exact_mod_cast same
  · refine ⟨0, down, ?_, by omega⟩
    rw [zpow_neg, zpow_natCast, ← div_eq_mul_inv, div_eq_iff (by positivity)] at same
    rw [Nat.pow_zero, Nat.mul_one]
    exact_mod_cast same

/-- A number is rounded to the same float from every mantissa and exponent. -/
theorem round_eq (sign : Sign) {value number : Nat} {exponent : Int} (positive : 0 < number)
    (fits : number < 2 ^ 64) (same : (value : ℚ) * 2 ^ exponent = number) :
    ∃ mantissa place, ∃ normal : Normal mantissa place,
      UnpackedFloat.round Format.binary64 sign value exponent =
        .finite sign mantissa place normal.positive ∧
      (place + 1074) * 2 ^ 52 + mantissa = (magnitude number : Int) := by
  obtain ⟨up, otherUp, scaled, level⟩ := exists_scaled same
  have some : 0 < value := by
    apply Nat.pos_of_ne_zero
    rintro rfl
    rw [Nat.zero_mul] at scaled
    exact Nat.ne_of_gt (Nat.mul_pos positive (Nat.two_pow_pos otherUp)) scaled.symm
  have bits : value.log2 + up = number.log2 + otherUp := by
    rw [← log2_mul_two_pow some, scaled, log2_mul_two_pow positive]
  have log2 : number.log2 < 64 := (Nat.log2_lt (Nat.ne_of_gt positive)).mpr fits
  have target : Format.binary64.targetExponent (totalExponent value exponent) =
      number.log2 - 52 := targetExponent_eq (by omega) (by omega)
  rw [UnpackedFloat.round, target, decreaseExponent]
  -- the mantissa is lifted to 53 bits when it has fewer, and shifted down when it has more
  generalize raised : (exponent - (number.log2 - 52)).toNat = lift
  obtain ⟨shift, lowered⟩ : ∃ shift : Nat, exponent - lift + shift = number.log2 - 52 :=
    ⟨(number.log2 - 52 - (exponent - lift)).toNat, by omega⟩
  obtain ⟨mantissa, place, normal, rounded, placed⟩ := @exists_normal_of_round sign
    (value * 2 ^ lift) shift (exponent - lift)
    (by rw [log2_mul_two_pow some]; omega) (by omega) (by omega)
  refine ⟨mantissa, place, normal, ?_, ?_⟩
  · rw [Nat.shiftLeft_eq]
    exact rounded
  · have aligned : value * 2 ^ lift * 2 ^ (up + 53) = number * 2 ^ 53 * 2 ^ (otherUp + lift) := by
      rw [Nat.pow_add, Nat.pow_add]
      calc
        value * 2 ^ lift * (2 ^ up * 2 ^ 53) = value * 2 ^ up * (2 ^ lift * 2 ^ 53) := by ring
        _ = number * 2 ^ 53 * (2 ^ otherUp * 2 ^ lift) := by
          rw [scaled]
          ring
    rw [placed, shiftRight_scaled aligned (by omega : _ = otherUp + lift + (number.log2 + 1)),
      ← significand, magnitude, lowered]
    omega

end Shifting

section Sums

/-- The unpacked form of a float other than zero, with the number it stands for. -/
inductive StandsFor : UnpackedFloat → ℚ → Prop where
  | finite (sign : Sign) {mantissa : Nat} {exponent : Int} (normal : Normal mantissa exponent) :
      StandsFor (.finite sign mantissa exponent normal.positive)
        ((sign.apply mantissa : ℤ) * 2 ^ exponent)

/-- A number as the mantissa and exponent in which it is stored. -/
theorem IsNormal.standsFor {x : Float} {sign : Sign} {number : Nat} (positive : 0 < number)
    (exact : (significand number : ℚ) * 2 ^ ((number.log2 : ℤ) - 52) = number)
    (isNormal : IsNormal x sign (magnitude number)) :
    StandsFor x.toModel.unpack (sign.apply number : ℤ) := by
  obtain ⟨mantissa, exponent, normal, packed, same⟩ := isNormal
  have bounds := significand_bounds positive
  have low := normal.low
  have high := normal.high
  have value : (mantissa : ℚ) * 2 ^ exponent = number := by
    rw [← exact]
    rw [magnitude] at same
    -- a carry is stored as the next power of two
    obtain carry | noCarry := Nat.eq_or_lt_of_le bounds.2
    · obtain ⟨rfl, rfl⟩ : mantissa = 2 ^ 52 ∧ exponent = 1 + (number.log2 - 52) := by omega
      rw [carry, zpow_add₀ two_ne_zero, ← mul_assoc]
      norm_num
    · obtain ⟨rfl, rfl⟩ : mantissa = significand number ∧ exponent = number.log2 - 52 := by omega
      rfl
  have signed : ((sign.apply number : ℤ) : ℚ) = (sign.apply mantissa : ℤ) * 2 ^ exponent := by
    cases sign <;> simp [Sign.apply, ← value]
  rw [packed, unpack_pack normal, signed]
  exact .finite sign normal

/-- A short integer other than zero is what its nearest float stands for. -/
theorem standsFor_ofInt {value : Int} (short : Short value) (some : value ≠ 0)
    (low : -2 ^ 64 < value) (high : value < 2 ^ 64) :
    StandsFor (Float.ofInt value).toModel.unpack value := by
  obtain ⟨mantissa, exponent, divided, small⟩ := short_iff_natAbs.mp short
  have positive : 0 < value.natAbs := by omega
  have exact := (significand_exact_iff positive).mpr ⟨mantissa, exponent, divided, small⟩
  cases value with
  | ofNat number =>
      rw [Int.ofNat_eq_natCast] at high
      exact (isNormal_ofNat positive (by exact_mod_cast high)).standsFor positive exact
  | negSucc number =>
      exact (isNormal_ofNat positive (show number + 1 < 2 ^ 64 by omega)).neg.standsFor
        positive exact

/-- Floats are added on their common exponent, and nothing is lost before the sum is rounded. -/
theorem exists_add {left right : UnpackedFloat} {first second : ℚ} (isLeft : StandsFor left first)
    (isRight : StandsFor right second) :
    ∃ (total : Int) (exponent : Int),
      UnpackedFloat.add Format.binary64 left right =
        UnpackedFloat.normalize Format.binary64 total exponent .positive ∧
      (total : ℚ) * 2 ^ exponent = first + second := by
  have aligned : ∀ (sign : Sign) (mantissa : Nat) {exponent least : Int}, least ≤ exponent →
      ((sign.apply (mantissa <<< (exponent - least).toNat : Nat) : ℤ) : ℚ) * 2 ^ least =
        (sign.apply mantissa : ℤ) * 2 ^ exponent := by
    intro sign mantissa exponent least le
    obtain ⟨lift, rfl⟩ := Int.le.dest le
    have amount : (least + lift - least).toNat = lift := by omega
    rw [amount, Nat.shiftLeft_eq, add_comm, zpow_add₀ two_ne_zero, zpow_natCast]
    cases sign <;> simp [Sign.apply] <;> ring
  obtain ⟨sign, normal⟩ := isLeft
  obtain ⟨otherSign, otherNormal⟩ := isRight
  refine ⟨_, _, rfl, ?_⟩
  rw [Int.cast_add, add_mul]
  exact congrArg₂ (· + ·) (aligned _ _ (Int.min_le_left _ _)) (aligned _ _ (Int.min_le_right _ _))

theorem IsNormal.eq_of_round {x : Float} {sign : Sign} {value number : Nat} {exponent : Int}
    (positive : 0 < number) (fits : number < 2 ^ 64)
    (same : (value : ℚ) * 2 ^ exponent = number)
    (isNormal : IsNormal x sign (magnitude number)) :
    Float.Model.pack (UnpackedFloat.round Format.binary64 sign value exponent) = x.toModel := by
  obtain ⟨mantissa, place, normal, packed, bits⟩ := isNormal
  obtain ⟨other, otherPlace, otherNormal, rounded, otherBits⟩ := round_eq sign positive fits same
  have low := normal.low
  have high := normal.high
  have otherLow := otherNormal.low
  have otherHigh := otherNormal.high
  obtain ⟨rfl, rfl⟩ : other = mantissa ∧ otherPlace = place := by omega
  rw [rounded, packed]

/-- A sum is rounded to the float nearest to it. -/
theorem pack_normalize {total exponent value : Int} (same : (total : ℚ) * 2 ^ exponent = value)
    (low : -2 ^ 64 < value) (high : value < 2 ^ 64) :
    Float.Model.pack (UnpackedFloat.normalize Format.binary64 total exponent .positive) =
      (Float.ofInt value).toModel := by
  have power : (0 : ℚ) < 2 ^ exponent := by positivity
  rw [UnpackedFloat.normalize]
  cases value with
  | ofNat number =>
      rw [Int.ofNat_eq_natCast] at same high
      rw [Int.cast_natCast] at same
      obtain rfl | positive := Nat.eq_zero_or_pos number
      · have none : total = 0 := by
          simpa [power.ne'] using same
        rw [none]
        rfl
      · have above : 0 < total := by
          have product : (0 : ℚ) < total * 2 ^ exponent := by
            rw [same]
            exact_mod_cast positive
          exact_mod_cast (pos_iff_pos_of_mul_pos product).mpr power
        obtain ⟨digits, rfl⟩ := Int.eq_ofNat_of_zero_le (Int.le_of_lt above)
        rw [Int.compare_eq_gt.mpr above]
        exact (isNormal_ofNat positive (by omega)).eq_of_round positive (by omega) same
  | negSucc number =>
      have positive : 0 < number + 1 := Nat.succ_pos number
      rw [Int.cast_negSucc] at same
      have below : total < 0 := by
        have product : (0 : ℚ) < (-total : ℤ) * 2 ^ exponent := by
          rw [Int.cast_neg, neg_mul, same, neg_neg]
          exact_mod_cast positive
        have opposite : 0 < -total := by
          exact_mod_cast (pos_iff_pos_of_mul_pos product).mpr power
        omega
      obtain ⟨digits, rfl⟩ := Int.exists_eq_neg_ofNat (Int.le_of_lt below)
      rw [Int.cast_neg, Int.cast_natCast, neg_mul, neg_inj] at same
      rw [Int.compare_eq_lt.mpr below]
      exact (isNormal_ofNat positive (by omega)).neg.eq_of_round positive (by omega)
        (by rw [neg_neg]; exact same)

theorem eq_of_toModel_eq {x y : Float} (same : x.toModel = y.toModel) : x = y := by
  obtain ⟨x⟩ := x
  obtain ⟨y⟩ := y
  cases same
  rfl

/-- The float nearest to an integer is stored in one way. -/
theorem pack_unpack_ofInt {value : Int} (low : -2 ^ 64 < value) (high : value < 2 ^ 64) :
    Float.Model.pack (Float.ofInt value).toModel.unpack = (Float.ofInt value).toModel := by
  have stored : ∀ {x : Float} {sign : Sign} {bits : Nat}, IsNormal x sign bits →
      Float.Model.pack x.toModel.unpack = x.toModel := by
    rintro x sign bits ⟨mantissa, exponent, normal, packed, -⟩
    rw [packed, unpack_pack normal]
  cases value with
  | ofNat number =>
      rw [Int.ofNat_eq_natCast] at high
      cases number with
      | zero => rfl
      | succ number => exact stored (isNormal_ofNat (Nat.succ_pos number) (by omega))
  | negSucc number => exact stored (isNormal_ofNat (Nat.succ_pos number) (by omega)).neg

theorem add_of_zero {y : UnpackedFloat} {place : Int} (unpacks : Unpacks y place) (sign : Sign) :
    UnpackedFloat.add Format.binary64 (.zero sign) y = y ∧
      UnpackedFloat.add Format.binary64 y (.zero sign) = y := by
  cases unpacks with
  | zero => cases sign <;> exact ⟨rfl, rfl⟩
  | positive normal => exact ⟨rfl, rfl⟩
  | negative normal => exact ⟨rfl, rfl⟩

/-- The empty sum is a negative zero, which changes no number. -/
theorem negZero_add_floatOfInt (value : Int64) : -0.0 + floatOfInt value = floatOfInt value := by
  have low := value.le_toInt
  have high := value.toInt_lt
  have unpacks := @unpacks_ofInt value.toInt (by omega) (by omega)
  apply eq_of_toModel_eq
  show Float.Model.pack (UnpackedFloat.add Format.binary64 (-0.0 : Float).toModel.unpack
    (floatOfInt value).toModel.unpack) = _
  have zero : (-0.0 : Float).toModel.unpack = .zero .negative := rfl
  rw [zero, floatOfInt, (add_of_zero unpacks _).1]
  exact pack_unpack_ofInt (by omega) (by omega)

/-- Adding the floats of two short integers rounds their sum once. -/
theorem floatOfInt_add {left right sum : Int64} (leftShort : Short left.toInt)
    (rightShort : Short right.toInt) (exact : sum.toInt = left.toInt + right.toInt) :
    floatOfInt left + floatOfInt right = floatOfInt sum := by
  have leftLow := left.le_toInt
  have leftHigh := left.toInt_lt
  have rightLow := right.le_toInt
  have rightHigh := right.toInt_lt
  have low := sum.le_toInt
  have high := sum.toInt_lt
  apply eq_of_toModel_eq
  show Float.Model.pack (UnpackedFloat.add Format.binary64 (floatOfInt left).toModel.unpack
    (floatOfInt right).toModel.unpack) = _
  simp only [floatOfInt]
  have zero : (Float.ofInt 0).toModel.unpack = .zero .positive := rfl
  by_cases noLeft : left.toInt = 0
  · rw [exact, noLeft, zero, Int.zero_add,
      (add_of_zero (unpacks_ofInt (by omega) (by omega)) _).1]
    exact pack_unpack_ofInt (by omega) (by omega)
  by_cases noRight : right.toInt = 0
  · rw [exact, noRight, zero, Int.add_zero,
      (add_of_zero (unpacks_ofInt (by omega) (by omega)) _).2]
    exact pack_unpack_ofInt (by omega) (by omega)
  obtain ⟨total, exponent, added, same⟩ :=
    exists_add (standsFor_ofInt leftShort noLeft (by omega) (by omega))
      (standsFor_ofInt rightShort noRight (by omega) (by omega))
  rw [added]
  exact pack_normalize (by rw [same, exact]; push_cast; rfl) (by omega) (by omega)

end Sums

end LogPipe.Cell
