import LogPipe.Decimal.Reading
import LogPipe.Proofs.Decimal.Binary

/-!
# The float nearest to a decimal

The numbers that are rounded to a stored float lie between the midpoints to its neighbours.  An
extended mantissa keeps of a number what rounding asks for: the whole halves in it and whether
there is more.  Shifting keeps this, and so every number between the midpoints is rounded to the
float, from whatever digits it is computed.  A decimal is computed as one product or one quotient
of exact operands, and then rounded once.
-/

namespace LogPipe.Decimal

open Float.Model Float.Model.UnpackedFloat Cell

/-- The midpoint to the float below.  Below a power of two floats are twice as close. -/
def lowerEnd (significand : Nat) (exponent : Int) : ℚ :=
  if significand = 2 ^ 52 ∧ -1074 < exponent then (4 * significand - 1) * 2 ^ (exponent - 2)
  else (4 * significand - 2) * 2 ^ (exponent - 2)

/-- The midpoint to the float above. -/
def upperEnd (significand : Nat) (exponent : Int) : ℚ :=
  (4 * significand + 2) * 2 ^ (exponent - 2)

/-- The numbers that are rounded to a float: a midpoint goes to the even significand. -/
structure RoundsTo (value : ℚ) (significand : Nat) (exponent : Int) : Prop where
  low : lowerEnd significand exponent < value ∨
    significand % 2 = 0 ∧ lowerEnd significand exponent = value
  high : value < upperEnd significand exponent ∨
    significand % 2 = 0 ∧ value = upperEnd significand exponent

section Keeping

/-- The whole halves in an extended mantissa. -/
def halves (mantissa : ExtendedMantissa) : Nat :=
  2 * mantissa.mantissa + mantissa.roundBit.toNat

/-- An extended mantissa that keeps what rounding a number asks for. -/
structure Keeps (mantissa : ExtendedMantissa) (value : ℚ) : Prop where
  low : (halves mantissa : ℚ) ≤ 2 * value
  high : 2 * value < halves mantissa + 1
  exact : mantissa.stickyBit = false ↔ 2 * value = halves mantissa

variable {mantissa : ExtendedMantissa} {value : ℚ}

theorem halves_shiftRightOne : halves mantissa.shiftRightOne = mantissa.mantissa := by
  obtain ⟨number, roundBit, stickyBit⟩ := mantissa
  obtain even | odd := Nat.mod_two_eq_zero_or_one number <;>
    simp [halves, ExtendedMantissa.shiftRightOne, *] <;> omega

theorem Keeps.floor (keeps : Keeps mantissa value) :
    (mantissa.mantissa : ℚ) ≤ value ∧ value < mantissa.mantissa + 1 := by
  have low := keeps.low
  have high := keeps.high
  have atMost : mantissa.roundBit.toNat ≤ 1 := Bool.toNat_le _
  have bit : (mantissa.roundBit.toNat : ℚ) ≤ 1 := by exact_mod_cast atMost
  have least : (0 : ℚ) ≤ mantissa.roundBit.toNat := by positivity
  rw [halves] at low high
  push_cast at low high
  constructor <;> linarith

theorem Keeps.shiftRightOne (keeps : Keeps mantissa value) :
    Keeps mantissa.shiftRightOne (value / 2) := by
  obtain ⟨low, high⟩ := keeps.floor
  have halved : 2 * (value / 2) = value := by ring
  refine ⟨?_, ?_, ?_⟩
  · rwa [halves_shiftRightOne, halved]
  · rwa [halves_shiftRightOne, halved]
  · rw [halves_shiftRightOne, halved]
    have atLeast := keeps.low
    have exact := keeps.exact
    rw [halves] at atLeast exact
    obtain ⟨number, roundBit, stickyBit⟩ := mantissa
    cases roundBit with
    | false =>
        cases stickyBit <;> simp [ExtendedMantissa.shiftRightOne] at exact ⊢ <;> grind
    | true =>
        simp [ExtendedMantissa.shiftRightOne] at atLeast ⊢
        linarith

theorem Keeps.shiftRight (keeps : Keeps mantissa value) (count : Nat) :
    Keeps (mantissa >>> count) (value / 2 ^ count) := by
  induction count with
  | zero =>
      rw [pow_zero, div_one]
      exact keeps
  | succ count induction =>
      rw [shiftRight_succ, pow_succ, ← div_div]
      exact induction.shiftRightOne

theorem mantissa_ofMantissaAndAccuracy (digits : Nat) (accuracy : Accuracy) :
    (ExtendedMantissa.ofMantissaAndAccuracy digits accuracy).mantissa = digits := by
  cases accuracy with
  | exact => rfl
  | inexact place => cases place <;> rfl

/-- A number is rounded to the integer that is less than a half away, or half away and even. -/
theorem Keeps.roundedMantissa_eq (keeps : Keeps mantissa value) {number : Nat}
    (low : 2 * (number : ℚ) - 1 < 2 * value ∨ number % 2 = 0 ∧ 2 * (number : ℚ) - 1 = 2 * value)
    (high : 2 * value < 2 * number + 1 ∨ number % 2 = 0 ∧ 2 * value = 2 * number + 1) :
    mantissa.roundedMantissa = number := by
  obtain ⟨atLeast, below, exact⟩ := keeps
  cases sticky : mantissa.stickyBit with
  | false =>
      have same : 2 * value = halves mantissa := exact.mp sticky
      rw [same] at low high
      have fromBelow : 2 * number < halves mantissa + 1 ∨
          number % 2 = 0 ∧ 2 * number = halves mantissa + 1 := by
        refine low.imp (fun less => ?_) (And.imp_right fun equal => ?_)
        · exact_mod_cast sub_lt_iff_lt_add.mp less
        · exact_mod_cast sub_eq_iff_eq_add.mp equal
      have fromAbove : halves mantissa < 2 * number + 1 ∨
          number % 2 = 0 ∧ halves mantissa = 2 * number + 1 := by
        exact_mod_cast high
      obtain ⟨floor, roundBit, stickyBit⟩ := mantissa
      obtain rfl : stickyBit = false := sticky
      cases roundBit <;> simp [halves, ExtendedMantissa.roundedMantissa, ExtendedMantissa.accuracy,
        Accuracy.roundToNearestEven] at fromBelow fromAbove ⊢ <;> omega
  | true =>
      have more : (halves mantissa : ℚ) < 2 * value :=
        atLeast.lt_of_ne fun same => Bool.noConfusion ((exact.mpr same.symm).symm.trans sticky)
      have fromBelow : 2 * number < halves mantissa + 2 := by
        have less : (2 * number : ℚ) - 1 ≤ 2 * value := low.elim le_of_lt fun equal => equal.2.le
        have sum : (2 * number : ℚ) < halves mantissa + 2 := by linarith
        exact_mod_cast sum
      have fromAbove : halves mantissa < 2 * number + 1 := by
        have less : 2 * value ≤ 2 * number + 1 := high.elim le_of_lt fun equal => equal.2.le
        exact_mod_cast more.trans_le less
      obtain ⟨floor, roundBit, stickyBit⟩ := mantissa
      obtain rfl : stickyBit = true := sticky
      cases roundBit <;> simp [halves, ExtendedMantissa.roundedMantissa, ExtendedMantissa.accuracy,
        Accuracy.roundToNearestEven] at fromBelow fromAbove ⊢ <;> omega

end Keeping

section Rounding

variable {value : ℚ} {significand : Nat} {exponent place : Int}

theorem targetExponent_eq_max (digits : Nat) (exponent : Int) :
    Format.binary64.targetExponent (totalExponent digits exponent) =
      max (digits.log2 + exponent - 52) (-1074) := by
  have bits : (Format.binary64.mantissaBits : Int) = 53 := by decide
  have least : Format.binary64.minExponent = -1074 := by decide
  rw [Format.targetExponent, totalExponent, bits, least]
  omega

theorem Stored.targetExponent (stored : Stored significand exponent) :
    Format.binary64.targetExponent (totalExponent significand exponent) = exponent := by
  have least := stored.least
  have small : significand.log2 < 53 :=
    (Nat.log2_lt (Nat.ne_of_gt stored.positive)).mpr stored.small
  rw [targetExponent_eq_max]
  obtain large | lowest := stored.leading
  · rw [(stored.normal large).log2]
    omega
  · omega

/-- The place of the last bit of a float next to a number. -/
structure Target (place : Int) (value : ℚ) : Prop where
  least : -1074 ≤ place
  high : value < 2 ^ (place + 53)
  low : place = -1074 ∨ 2 ^ (place + 52) ≤ value

/-- The place is found from the leading digits of the number. -/
theorem target_of_floor {digits : Nat} (positive : 0 < digits)
    (low : (digits : ℚ) * 2 ^ exponent ≤ value) (high : value < (digits + 1) * 2 ^ exponent) :
    Target (Format.binary64.targetExponent (totalExponent digits exponent)) value := by
  rw [targetExponent_eq_max]
  refine ⟨le_max_right _ _, ?_, ?_⟩
  · have next : ((digits + 1 : ℕ) : ℚ) ≤ 2 ^ (digits.log2 + 1) := by
      exact_mod_cast Nat.lt_log2_self
    calc
      value < (digits + 1) * 2 ^ exponent := high
      _ ≤ 2 ^ (digits.log2 + 1) * 2 ^ exponent := by
        push_cast at next
        gcongr
      _ = 2 ^ ((digits.log2 : ℤ) + 1 + exponent) := by
        rw [zpow_add₀ two_ne_zero]
        norm_cast
      _ ≤ 2 ^ (max ((digits.log2 : ℤ) + exponent - 52) (-1074) + 53) :=
        zpow_le_zpow_right₀ one_le_two (by omega)
  · obtain lowest | upper := le_total ((digits.log2 : ℤ) + exponent - 52) (-1074)
    · exact Or.inl (max_eq_right lowest)
    · have first : ((2 ^ digits.log2 : ℕ) : ℚ) ≤ digits := by
        exact_mod_cast Nat.log2_self_le (Nat.ne_of_gt positive)
      right
      calc
        (2 : ℚ) ^ (max ((digits.log2 : ℤ) + exponent - 52) (-1074) + 52) =
            2 ^ digits.log2 * 2 ^ exponent := by
          rw [max_eq_left upper, ← zpow_natCast, ← zpow_add₀ two_ne_zero]
          congr 1
          omega
        _ ≤ digits * 2 ^ exponent := by
          push_cast at first
          gcongr
        _ ≤ value := low

/-- The midpoints are at most half a unit away. -/
theorem RoundsTo.bounds (rounds : RoundsTo value significand exponent) :
    (4 * significand - 2 : ℚ) * 2 ^ (exponent - 2) ≤ value ∧
      value ≤ (4 * significand + 2) * 2 ^ (exponent - 2) := by
  have unit : (0 : ℚ) < 2 ^ (exponent - 2) := by positivity
  constructor
  · have below : (4 * significand - 2 : ℚ) * 2 ^ (exponent - 2) ≤
        lowerEnd significand exponent := by
      rw [lowerEnd]
      split
      · exact mul_le_mul_of_nonneg_right (by linarith) unit.le
      · exact le_rfl
    exact below.trans (rounds.low.elim le_of_lt fun equal => equal.2.le)
  · exact rounds.high.elim le_of_lt fun equal => equal.2.le

theorem four_quarters (exponent : Int) : (2 : ℚ) ^ exponent = 4 * 2 ^ (exponent - 2) := by
  rw [zpow_sub₀ two_ne_zero]
  norm_num
  ring

theorem two_zpow_quarter (exponent : Int) (count : Nat) :
    (2 : ℚ) ^ (exponent + count) = 2 ^ (count + 2) * 2 ^ (exponent - 2) := by
  rw [← zpow_natCast, ← zpow_add₀ two_ne_zero]
  congr 1
  push_cast
  ring

/-- A number that is rounded to a float is below the power of two above the float. -/
theorem RoundsTo.place_le (rounds : RoundsTo value significand exponent)
    (stored : Stored significand exponent) (target : Target place value) : place ≤ exponent := by
  have least := stored.least
  have unit : (0 : ℚ) < 2 ^ (exponent - 2) := by positivity
  by_contra above
  have leading := target.low.resolve_left (by omega)
  have small : ((significand + 1 : ℕ) : ℚ) ≤ 2 ^ 53 := by exact_mod_cast stored.small
  push_cast at small
  have less : value < 2 ^ (exponent + 53 : ℤ) := by
    have shape := two_zpow_quarter exponent 53
    push_cast at shape
    rw [shape]
    exact rounds.bounds.2.trans_lt (mul_lt_mul_of_pos_right (by linarith) unit)
  have same : (2 : ℚ) ^ (exponent + 53) ≤ 2 ^ (place + 52) :=
    zpow_le_zpow_right₀ one_le_two (by omega)
  linarith

/-- A number that is rounded to a float has its last bit where the float has it, or one place
below when the float is a power of two. -/
theorem RoundsTo.place_cases (rounds : RoundsTo value significand exponent)
    (stored : Stored significand exponent) (target : Target place value) :
    place = exponent ∨ place + 1 = exponent ∧ significand = 2 ^ 52 := by
  have low := rounds.bounds.1
  have unit : (0 : ℚ) < 2 ^ (exponent - 2) := by positivity
  obtain below | rfl := Int.lt_or_eq_of_le (rounds.place_le stored target)
  · right
    have least := target.least
    have large : 2 ^ 52 ≤ significand := stored.leading.resolve_right (by omega)
    have power : significand = 2 ^ 52 := by
      by_contra other
      have more : ((2 ^ 52 + 1 : ℕ) : ℚ) ≤ significand := by
        exact_mod_cast Nat.lt_of_le_of_ne large (Ne.symm other)
      push_cast at more
      have less : value < 2 ^ (exponent + 52 : ℤ) :=
        target.high.trans_le (zpow_le_zpow_right₀ one_le_two (by omega))
      have shape := two_zpow_quarter exponent 52
      push_cast at shape
      rw [shape] at less
      have under := lt_of_mul_lt_mul_right (low.trans_lt less) unit.le
      linarith
    have less : (2 : ℚ) ^ (exponent + 51) < 2 ^ (place + 53) := by
      have shape := two_zpow_quarter exponent 51
      push_cast at shape
      rw [shape]
      refine lt_of_le_of_lt (mul_le_mul_of_nonneg_right ?_ unit.le) (low.trans_lt target.high)
      rw [power]
      norm_num
    have exponents := (zpow_lt_zpow_iff_right₀ one_lt_two).mp less
    exact ⟨by omega, power⟩
  · exact Or.inl rfl

theorem shiftToTargetExponent_of_stored (stored : Stored significand exponent) :
    shiftToTargetExponent Format.binary64 significand exponent .exact =
      (⟨significand, false, false⟩, exponent) := by
  have same := @shiftToTargetExponent_eq significand 0 exponent
    (by rw [stored.targetExponent]; exact (Int.add_zero _).symm)
  rw [same, shiftRight_zero]
  exact congrArg _ (Int.add_zero _)

theorem RoundsTo.roundedMantissa_eq {mantissa : ExtendedMantissa}
    (rounds : RoundsTo value significand exponent)
    (keeps : Keeps mantissa (value / 2 ^ exponent)) : mantissa.roundedMantissa = significand := by
  have unit : (0 : ℚ) < 2 ^ (exponent - 2) := by positivity
  obtain ⟨scaled, same⟩ : ∃ scaled, value / 2 ^ exponent = scaled := ⟨_, rfl⟩
  have shape : value = 4 * scaled * 2 ^ (exponent - 2) := by
    rw [← same, zpow_sub₀ two_ne_zero]
    field_simp
    ring
  obtain ⟨low, high⟩ := rounds
  rw [same] at keeps
  rw [upperEnd, shape, mul_lt_mul_iff_left₀ unit, mul_left_inj' unit.ne'] at high
  apply keeps.roundedMantissa_eq
  · rw [lowerEnd, shape] at low
    split at low
    · left
      have least : (4 * significand - 1 : ℚ) ≤ 4 * scaled :=
        le_of_mul_le_mul_right (low.elim le_of_lt fun equal => equal.2.le) unit
      linarith
    · rw [mul_lt_mul_iff_left₀ unit, mul_left_inj' unit.ne'] at low
      refine low.imp (fun less => ?_) (And.imp_right fun equal => ?_) <;> linarith
  · refine high.imp (fun less => ?_) (And.imp_right fun equal => ?_) <;> linarith

/-- A number just below a power of two is rounded up with a carry. -/
theorem RoundsTo.roundedMantissa_carry {mantissa : ExtendedMantissa}
    (rounds : RoundsTo value (2 ^ 52) (place + 1)) (target : Target place value)
    (keeps : Keeps mantissa (value / 2 ^ place)) : mantissa.roundedMantissa = 2 ^ 53 := by
  have least := target.least
  have unit : (0 : ℚ) < 2 ^ (place + 1 - 2) := by positivity
  obtain ⟨scaled, same⟩ : ∃ scaled, value / 2 ^ place = scaled := ⟨_, rfl⟩
  have shape : value = 2 * scaled * 2 ^ (place + 1 - 2) := by
    rw [← same, zpow_sub₀ two_ne_zero, zpow_add₀ two_ne_zero]
    field_simp
  have below : scaled < 2 ^ 53 := by
    have power : (0 : ℚ) < 2 ^ place := by positivity
    have high := target.high
    rw [zpow_add₀ two_ne_zero, mul_comm, ← div_lt_iff₀ power, same] at high
    exact high
  have low := rounds.low
  rw [lowerEnd, if_pos ⟨rfl, by omega⟩, shape, mul_lt_mul_iff_left₀ unit,
    mul_left_inj' unit.ne'] at low
  rw [same] at keeps
  apply keeps.roundedMantissa_eq
  · refine low.imp (fun less => ?_) fun equal => ⟨rfl, ?_⟩
    · push_cast at less ⊢
      linarith
    · have equality := equal.2
      push_cast at equality ⊢
      linarith
  · left
    push_cast
    linarith

/-- A number between the midpoints around a float is rounded to the float. -/
theorem roundWithAccuracy_eq (sign : Sign) {digits : Nat} {from' : Int} {accuracy : Accuracy}
    (stored : Stored significand exponent) (rounds : RoundsTo value significand exponent)
    (keeps : Keeps (.ofMantissaAndAccuracy digits accuracy) (value / 2 ^ from'))
    (target : Target (Format.binary64.targetExponent (totalExponent digits from')) value)
    (le : from' ≤ Format.binary64.targetExponent (totalExponent digits from')) :
    roundWithAccuracy Format.binary64 sign digits from' accuracy =
      .finite sign significand exponent stored.positive := by
  rw [roundWithAccuracy, shiftToTargetExponent, shiftToExponent]
  generalize Format.binary64.targetExponent (totalExponent digits from') = place at target le
  obtain ⟨count, rfl⟩ := Int.le.dest le
  have amount : (from' + count - from').toNat = count := by omega
  rw [amount]
  have shifted := keeps.shiftRight count
  generalize ExtendedMantissa.ofMantissaAndAccuracy digits accuracy >>> count = kept at shifted
  have scaled : value / 2 ^ from' / 2 ^ count = value / 2 ^ (from' + count) := by
    rw [zpow_add₀ two_ne_zero, div_div, zpow_natCast]
  rw [scaled] at shifted
  generalize from' + (count : Int) = place at shifted target
  obtain rfl | ⟨rfl, rfl⟩ := rounds.place_cases stored target
  · dsimp only
    rw [rounds.roundedMantissa_eq shifted, shiftToTargetExponent_of_stored stored,
      dif_neg (Nat.ne_of_gt stored.positive)]
  · have least := target.least
    have last := @shiftToTargetExponent_eq (2 ^ 53) 1 place
      (by rw [targetExponent_eq_max, Nat.log2_two_pow]; omega)
    dsimp only
    rw [rounds.roundedMantissa_carry target shifted, last]
    rfl

end Rounding

section Operations

variable {significand digits other : Nat} {exponent left right : Int} {value : ℚ}

theorem keeps_exact (digits : Nat) : Keeps (.ofMantissaAndAccuracy digits .exact) digits := by
  have whole : halves (.ofMantissaAndAccuracy digits .exact) = 2 * digits := by
    simp [halves, ExtendedMantissa.ofMantissaAndAccuracy]
  refine ⟨?_, ?_, iff_of_true rfl ?_⟩
  · rw [whole]
    push_cast
    exact le_rfl
  · rw [whole]
    push_cast
    exact lt_add_one _
  · rw [whole]
    push_cast
    rfl

theorem compare_mul_right (left right : ℚ) {factor : ℚ} (positive : 0 < factor) :
    compare (left * factor) (right * factor) = compare left right := by
  obtain less | rfl | more := lt_trichotomy left right
  · rw [compare_lt_iff_lt.mpr less, compare_lt_iff_lt.mpr (mul_lt_mul_of_pos_right less positive)]
  · rw [compare_eq_iff_eq.mpr rfl, compare_eq_iff_eq.mpr rfl]
  · rw [compare_gt_iff_gt.mpr more, compare_gt_iff_gt.mpr (mul_lt_mul_of_pos_right more positive)]

theorem compare_natCast (left right : Nat) : compare (left : ℚ) right = compare left right := by
  obtain less | rfl | more := Nat.lt_trichotomy left right
  · rw [Nat.compare_eq_lt.mpr less, compare_lt_iff_lt.mpr (by exact_mod_cast less)]
  · rw [Nat.compare_eq_eq.mpr rfl, compare_eq_iff_eq.mpr rfl]
  · rw [Nat.compare_eq_gt.mpr more, compare_gt_iff_gt.mpr (by exact_mod_cast more)]

/-- An inexact mantissa keeps on which side of the half the number lies. -/
theorem keeps_inexact {quotient : Nat} {side : Ordering} (above : (quotient : ℚ) < value)
    (below : value < quotient + 1) (lies : compare (2 * (value - quotient)) 1 = side) :
    Keeps (.ofMantissaAndAccuracy quotient (.inexact side)) value := by
  cases side with
  | lt =>
      have less := compare_lt_iff_lt.mp lies
      have whole : halves (.ofMantissaAndAccuracy quotient (.inexact .lt)) = 2 * quotient := by
        simp [halves, ExtendedMantissa.ofMantissaAndAccuracy]
      refine ⟨?_, ?_, iff_of_false (fun sticky => nomatch sticky) fun same => ?_⟩ <;>
        rw [whole] at * <;> push_cast at * <;> linarith
  | eq =>
      have half := compare_eq_iff_eq.mp lies
      have whole :
          halves (.ofMantissaAndAccuracy quotient (.inexact .eq)) = 2 * quotient + 1 := by
        simp [halves, ExtendedMantissa.ofMantissaAndAccuracy]
      refine ⟨?_, ?_, iff_of_true rfl ?_⟩ <;> rw [whole] <;> push_cast <;> linarith
  | gt =>
      have more := compare_gt_iff_gt.mp lies
      have whole :
          halves (.ofMantissaAndAccuracy quotient (.inexact .gt)) = 2 * quotient + 1 := by
        simp [halves, ExtendedMantissa.ofMantissaAndAccuracy]
      refine ⟨?_, ?_, iff_of_false (fun sticky => nomatch sticky) fun same => ?_⟩ <;>
        rw [whole] at * <;> push_cast at * <;> linarith

/-- The remainder of a division says where the quotient lies. -/
theorem keeps_quotient (digits : Nat) {divisor : Nat} (positive : 0 < divisor) :
    Keeps (.ofMantissaAndAccuracy (digits / divisor)
      (accuracyOfFraction (digits % divisor) divisor)) (digits / divisor : ℚ) := by
  have some : (0 : ℚ) < divisor := by exact_mod_cast positive
  have split : (digits : ℚ) = divisor * (digits / divisor : ℕ) + (digits % divisor : ℕ) := by
    exact_mod_cast (Nat.div_add_mod digits divisor).symm
  have rest : ((digits % divisor : ℕ) : ℚ) < divisor := by
    exact_mod_cast Nat.mod_lt digits positive
  generalize digits / divisor = quotient at split ⊢
  generalize digits % divisor = remainder at split rest ⊢
  have divided : (digits : ℚ) / divisor = quotient + remainder / divisor := by
    rw [split, add_div, mul_div_cancel_left₀ _ some.ne']
  rw [accuracyOfFraction, divided]
  split
  · next none =>
      rw [none, Nat.cast_zero, zero_div, add_zero]
      exact keeps_exact quotient
  · next more =>
      have part : (0 : ℚ) < remainder := by exact_mod_cast Nat.pos_of_ne_zero more
      have twice : 2 * ((quotient : ℚ) + remainder / divisor - quotient) * divisor =
          (2 * remainder : ℕ) := by
        push_cast
        field_simp
        ring
      apply keeps_inexact
      · exact lt_add_of_pos_right _ (div_pos part some)
      · exact add_lt_add_of_le_of_lt le_rfl ((div_lt_one some).mpr rest)
      · rw [← compare_mul_right _ _ some, twice, one_mul, compare_natCast]

/-- A product of exact operands is rounded once. -/
theorem mul_eq (positive : 0 < digits) (otherPositive : 0 < other)
    (stored : Stored significand exponent)
    (rounds : RoundsTo (digits * 2 ^ left * (other * 2 ^ right)) significand exponent)
    (long : 2 ^ 52 ≤ digits * other) :
    UnpackedFloat.mul Format.binary64 (.finite .positive digits left positive)
        (.finite .positive other right otherPositive) =
      .finite .positive significand exponent stored.positive := by
  have product : (digits * 2 ^ left * (other * 2 ^ right) : ℚ) =
      (digits * other : ℕ) * 2 ^ (left + right) := by
    rw [zpow_add₀ two_ne_zero]
    push_cast
    ring
  have unit : (0 : ℚ) < 2 ^ (left + right) := by positivity
  have some : 0 < digits * other := Nat.mul_pos positive otherPositive
  rw [product] at rounds
  show roundWithAccuracy Format.binary64 .positive (digits * other) (left + right) .exact = _
  apply roundWithAccuracy_eq .positive stored rounds
  · rw [mul_div_cancel_right₀ _ unit.ne']
    exact keeps_exact _
  · exact target_of_floor some le_rfl (mul_lt_mul_of_pos_right (lt_add_one _) unit)
  · have log2 := (Nat.le_log2 (Nat.ne_of_gt some)).mpr long
    rw [targetExponent_eq_max]
    omega

/-- A quotient has at least as many bits as its operands promise. -/
theorem two_zpow_lt_quotient (positive : 0 < digits) (otherPositive : 0 < other) :
    (2 : ℚ) ^ (totalExponent digits left - totalExponent other right - 1) <
      digits * 2 ^ left / (other * 2 ^ right) := by
  have first : ((2 ^ digits.log2 : ℕ) : ℚ) ≤ digits := by
    exact_mod_cast Nat.log2_self_le (Nat.ne_of_gt positive)
  have next : (other : ℚ) < (2 ^ (other.log2 + 1) : ℕ) := by exact_mod_cast Nat.lt_log2_self
  have some : (0 : ℚ) < other := by exact_mod_cast otherPositive
  push_cast at first next
  rw [lt_div_iff₀ (by positivity), totalExponent, totalExponent]
  calc
    (2 : ℚ) ^ ((digits.log2 : ℤ) + 1 + left - (other.log2 + 1 + right) - 1) * (other * 2 ^ right) <
        2 ^ ((digits.log2 : ℤ) + 1 + left - (other.log2 + 1 + right) - 1) *
          (2 ^ (other.log2 + 1) * 2 ^ right) := by gcongr
    _ = 2 ^ digits.log2 * 2 ^ left := by
      rw [← zpow_natCast, ← zpow_natCast, ← zpow_add₀ two_ne_zero, ← zpow_add₀ two_ne_zero,
        ← zpow_add₀ two_ne_zero]
      congr 1
      push_cast
      ring
    _ ≤ digits * 2 ^ left := by gcongr

/-- The digits of a quotient reach its last bit, unless it is next to zero. -/
theorem target_of_quotient {total place : Int} (promised : (2 : ℚ) ^ (total - 1) < value)
    (enough : place ≤ max (total - 53) (-1074)) (low : (digits : ℚ) * 2 ^ place ≤ value)
    (high : value < (digits + 1) * 2 ^ place) :
    Target (Format.binary64.targetExponent (totalExponent digits place)) value ∧
      place ≤ Format.binary64.targetExponent (totalExponent digits place) := by
  obtain rfl | positive := Nat.eq_zero_or_pos digits
  · have below : value < 2 ^ place := by simpa using high
    have exponents := (zpow_lt_zpow_iff_right₀ one_lt_two).mp (promised.trans below)
    have lowest : place ≤ -1074 := by omega
    have same : Format.binary64.targetExponent (totalExponent 0 place) = -1074 := by
      rw [targetExponent_eq_max, Nat.log2_zero]
      omega
    rw [same]
    refine ⟨⟨le_rfl, below.trans_le ?_, Or.inl rfl⟩, lowest⟩
    exact zpow_le_zpow_right₀ one_le_two (by omega)
  · have target := target_of_floor positive low high
    have least := target.least
    refine ⟨target, ?_⟩
    have exponents := (zpow_lt_zpow_iff_right₀ one_lt_two).mp (promised.trans target.high)
    omega

theorem exists_divCore (digits other : Nat) (left right : Int) :
    ∃ (place : Int) (count : Nat), place + count = left - right ∧
      place ≤ max (totalExponent digits left - totalExponent other right - 53) (-1074) ∧
      divCore Format.binary64 digits left other right =
        (digits * 2 ^ count / other, place,
          accuracyOfFraction (digits * 2 ^ count % other) other) := by
  have bits : (Format.binary64.mantissaBits : Int) = 53 := by decide
  have least : Format.binary64.minExponent = -1074 := by decide
  refine ⟨_, _, ?_, ?_, by rw [divCore, Nat.shiftLeft_eq]⟩
  · omega
  · rw [Format.targetExponent, bits, least]
    omega

/-- A quotient of exact operands is rounded once. -/
theorem div_eq (positive : 0 < digits) (otherPositive : 0 < other)
    (stored : Stored significand exponent)
    (rounds : RoundsTo (digits * 2 ^ left / (other * 2 ^ right)) significand exponent) :
    UnpackedFloat.div Format.binary64 (.finite .positive digits left positive)
        (.finite .positive other right otherPositive) =
      .finite .positive significand exponent stored.positive := by
  have some : (0 : ℚ) < other := by exact_mod_cast otherPositive
  obtain ⟨place, count, level, enough, divided⟩ := exists_divCore digits other left right
  have unit : (0 : ℚ) < 2 ^ place := by positivity
  have quotient : (digits * 2 ^ left / (other * 2 ^ right) : ℚ) =
      (digits * 2 ^ count : ℕ) / other * 2 ^ place := by
    obtain rfl : left = place + count + right := by omega
    rw [zpow_add₀ two_ne_zero, zpow_add₀ two_ne_zero, zpow_natCast]
    push_cast
    field_simp
  have keeps := keeps_quotient (digits * 2 ^ count) otherPositive
  obtain ⟨low, high⟩ := keeps.floor
  have promised := @two_zpow_lt_quotient digits other left right positive otherPositive
  rw [mantissa_ofMantissaAndAccuracy] at low high
  rw [quotient] at rounds promised
  obtain ⟨target, le⟩ := target_of_quotient promised enough
    (mul_le_mul_of_nonneg_right low unit.le) (mul_lt_mul_of_pos_right high unit)
  rw [UnpackedFloat.div, divided]
  apply roundWithAccuracy_eq _ stored rounds _ target le
  rwa [mul_div_cancel_right₀ _ unit.ne']

end Operations

section Decimals

variable {significand digits : Nat} {exponent place : Int} {value : ℚ}

theorem toInt?_powerOfTen : ∀ (power : Nat)
    (inside : power < Float.exactlyRepresentablePowersOfTen.size),
    (Binary.ofFloat Float.exactlyRepresentablePowersOfTen[power]).toInt? =
      some ((10 ^ power : Nat) : Int) := by
  decide +kernel

theorem denotes_powerOfTen {power : Nat}
    (inside : power < Float.exactlyRepresentablePowersOfTen.size) :
    Denotes Float.exactlyRepresentablePowersOfTen[power].toModel.unpack (10 ^ power) := by
  have denoted := denotes (toInt?_eq_some_iff.mp (toInt?_powerOfTen power inside))
  push_cast at denoted
  exact denoted

theorem denotes_toFloat (positive : 0 < digits) (small : digits < 2 ^ 53) :
    Denotes digits.toUInt64.toFloat.toModel.unpack digits := by
  have exact := (significand_exact_iff positive).mpr
    ⟨digits, 0, (Nat.mul_one digits).symm, Nat.le_of_lt small⟩
  have stands := value?_of_isNormal positive (by omega) (isNormal_toFloat positive small)
  apply denotes
  rw [stands, Option.some_inj, ← exact]
  rfl

/-- A positive float of at least one has all its bits. -/
theorem Denotes.exists_large {unpacked : UnpackedFloat} (denotes : Denotes unpacked value)
    (atLeast : 1 ≤ value) :
    ∃ significand exponent, ∃ stored : Stored significand exponent,
      unpacked = .finite .positive significand exponent stored.positive ∧
        value = significand * 2 ^ exponent ∧ 2 ^ 52 ≤ significand := by
  cases denotes with
  | zero => exact absurd atLeast (by norm_num)
  | negative stored =>
      have above := stored.value_pos
      exact absurd atLeast (by linarith)
  | @positive significand exponent stored =>
      refine ⟨significand, exponent, stored, rfl, rfl, stored.leading.resolve_right ?_⟩
      rintro rfl
      have small : (significand : ℚ) ≤ 2 ^ 53 := by exact_mod_cast stored.small.le
      have unit : (2 : ℚ) ^ (-1074 : ℤ) < 1 / 2 ^ 53 := by
        rw [one_div, ← zpow_natCast, ← zpow_neg]
        exact zpow_lt_zpow_right₀ one_lt_two (by norm_num)
      have bound : (significand : ℚ) * 2 ^ (-1074 : ℤ) < 1 := by
        calc
          (significand : ℚ) * 2 ^ (-1074 : ℤ) ≤ 2 ^ 53 * 2 ^ (-1074 : ℤ) := by gcongr
          _ < 2 ^ 53 * (1 / 2 ^ 53) := by gcongr
          _ = 1 := by norm_num
      linarith

/-- What is rounded to a float is within the range of floats. -/
theorem RoundsTo.range (rounds : RoundsTo value significand place)
    (stored : Stored significand place) : 2 ^ (-1076 : ℤ) < value ∧ value < 2 ^ (1025 : ℤ) := by
  obtain ⟨low, high⟩ := rounds.bounds
  have least := stored.least
  have most := stored.most
  have first : (1 : ℚ) ≤ significand := by exact_mod_cast stored.positive
  have small : (significand : ℚ) < 2 ^ 53 := by exact_mod_cast stored.small
  have unit : (0 : ℚ) < 2 ^ (place - 2) := by positivity
  constructor
  · calc
      (2 : ℚ) ^ (-1076 : ℤ) ≤ 1 * 2 ^ (place - 2) := by
        rw [one_mul]
        exact zpow_le_zpow_right₀ one_le_two (by omega)
      _ < (4 * significand - 2) * 2 ^ (place - 2) := by
        gcongr
        linarith
      _ ≤ value := low
  · calc
      value ≤ (4 * significand + 2) * 2 ^ (place - 2) := high
      _ < 2 ^ 56 * 2 ^ (place - 2) := by
        gcongr
        linarith
      _ = 2 ^ (place + 54) := by
        rw [← zpow_natCast, ← zpow_add₀ two_ne_zero]
        congr 1
        push_cast
        ring
      _ ≤ 2 ^ (1025 : ℤ) := zpow_le_zpow_right₀ one_le_two (by omega)

theorem RoundsTo.digits_pos (rounds : RoundsTo (digits * 10 ^ exponent) significand place)
    (stored : Stored significand place) : 0 < digits := by
  apply Nat.pos_of_ne_zero
  rintro rfl
  have low := (rounds.range stored).1
  rw [Nat.cast_zero, zero_mul] at low
  exact absurd low (not_lt.mpr (by positivity))

/-- Decimals that are refused without being computed are outside the range of floats. -/
theorem RoundsTo.exponent_bounds (rounds : RoundsTo (digits * 10 ^ exponent) significand place)
    (stored : Stored significand place) :
    exponent ≤ 2 ^ 11 ∧ -((2 ^ 11 : Int) + digits.log2) ≤ exponent := by
  have positive := rounds.digits_pos stored
  obtain ⟨low, high⟩ := rounds.range stored
  have first : (1 : ℚ) ≤ digits := by exact_mod_cast positive
  have next : (digits : ℚ) < (2 ^ (digits.log2 + 1) : ℕ) := by exact_mod_cast Nat.lt_log2_self
  push_cast at next
  constructor
  · by_contra above
    have large : (2 : ℚ) ^ (1025 : ℤ) ≤ digits * 10 ^ exponent := by
      calc
        (2 : ℚ) ^ (1025 : ℤ) ≤ 2 ^ exponent := zpow_le_zpow_right₀ one_le_two (by omega)
        _ ≤ 10 ^ exponent := zpow_le_zpow_left₀ (by omega) (by norm_num) (by norm_num)
        _ = 1 * 10 ^ exponent := (one_mul _).symm
        _ ≤ digits * 10 ^ exponent := by gcongr
    linarith
  · by_contra below
    have tiny : (digits : ℚ) * 10 ^ exponent ≤ 2 ^ (-1076 : ℤ) := by
      calc
        (digits : ℚ) * 10 ^ exponent ≤ 2 ^ (digits.log2 + 1) * 2 ^ exponent := by
          have power : (10 : ℚ) ^ exponent ≤ 2 ^ exponent := by
            obtain ⟨down, rfl⟩ : ∃ down : Nat, exponent = -down := ⟨exponent.natAbs, by omega⟩
            rw [zpow_neg, zpow_neg, zpow_natCast, zpow_natCast]
            exact inv_anti₀ (by positivity) (pow_le_pow_left₀ (by norm_num) (by norm_num) _)
          gcongr
        _ = 2 ^ ((digits.log2 : ℤ) + 1 + exponent) := by
          rw [zpow_add₀ two_ne_zero]
          norm_cast
        _ ≤ 2 ^ (-1076 : ℤ) := zpow_le_zpow_right₀ one_le_two (by omega)
    linarith

/-- A decimal is computed on floats when its digits and the power of ten are floats. -/
theorem exists_operands (positive : 0 < digits) (small : digits < 2 ^ 53) {power : Nat}
    (few : power < Float.exactlyRepresentablePowersOfTen.size) :
    ∃ first firstPlace other otherPlace, ∃ (firstStored : Stored first firstPlace)
      (otherStored : Stored other otherPlace),
      digits.toUInt64.toFloat.toModel.unpack =
          .finite .positive first firstPlace firstStored.positive ∧
        Float.exactlyRepresentablePowersOfTen[power].toModel.unpack =
          .finite .positive other otherPlace otherStored.positive ∧
        (digits : ℚ) = first * 2 ^ firstPlace ∧ (10 : ℚ) ^ power = other * 2 ^ otherPlace ∧
        2 ^ 52 ≤ first * other := by
  obtain ⟨first, firstPlace, firstStored, unpacked, same, large⟩ :=
    (denotes_toFloat positive small).exists_large (by exact_mod_cast positive)
  obtain ⟨other, otherPlace, otherStored, otherUnpacked, otherSame, -⟩ :=
    (denotes_powerOfTen few).exists_large (one_le_pow₀ (by norm_num))
  exact ⟨first, firstPlace, other, otherPlace, firstStored, otherStored, unpacked, otherUnpacked,
    same, otherSame, large.trans (Nat.le_mul_of_pos_right _ otherStored.positive)⟩

/-- Any other decimal is computed from integers. -/
theorem ofScientific_eq (stored : Stored significand place)
    (rounds : RoundsTo (digits * 10 ^ exponent) significand place) :
    UnpackedFloat.ofScientific Format.binary64 digits exponent =
      .finite .positive significand place stored.positive := by
  have positive := rounds.digits_pos stored
  obtain ⟨most, least⟩ := rounds.exponent_bounds stored
  have bits : Format.binary64.exponentBits = 11 := by decide
  have mantissa : Format.binary64.mantissaBits = 53 := by decide
  rw [UnpackedFloat.ofScientific, dif_neg (Nat.ne_of_gt positive)]
  simp only [mantissa]
  rw [if_neg (Int.not_lt.mpr most), if_neg (Int.not_lt.mpr least)]
  split
  · next nonnegative =>
      obtain ⟨power, rfl⟩ := Int.eq_ofNat_of_zero_le nonnegative
      have product : (digits * 10 ^ (power : ℤ) : ℚ) =
          (digits <<< 53 : ℕ) * 2 ^ (-((53 : ℕ) : ℤ)) * ((10 ^ power : ℕ) * 2 ^ (0 : ℤ)) := by
        rw [Nat.shiftLeft_eq, zpow_neg, zpow_natCast, zpow_natCast]
        push_cast
        field_simp
        norm_num
      have long : 2 ^ 52 ≤ digits <<< 53 * 10 ^ power := by
        calc
          2 ^ 52 ≤ 1 * 2 ^ 53 * 1 := by norm_num
          _ ≤ digits <<< 53 * 10 ^ power := by
            rw [Nat.shiftLeft_eq]
            exact Nat.mul_le_mul (Nat.mul_le_mul_right _ positive)
              (Nat.one_le_pow _ _ (by norm_num))
      rw [product] at rounds
      exact mul_eq _ _ stored rounds long
  · next negative =>
      obtain ⟨power, rfl⟩ : ∃ power : Nat, exponent = -power := ⟨exponent.natAbs, by omega⟩
      have quotient : (digits * 10 ^ (-(power : ℤ)) : ℚ) =
          digits * 2 ^ (0 : ℤ) / ((10 ^ (- -(power : ℤ)).toNat : ℕ) * 2 ^ (0 : ℤ)) := by
        rw [neg_neg, Int.toNat_natCast, zpow_neg, zpow_natCast, zpow_zero, mul_one, mul_one,
          div_eq_mul_inv]
        push_cast
        rfl
      rw [quotient] at rounds
      exact div_eq _ _ stored rounds

theorem unpack_mul {x y : Float} {left right : UnpackedFloat} (isLeft : x.toModel.unpack = left)
    (isRight : y.toModel.unpack = right) : (x * y).toModel.unpack =
      (Float.Model.pack (UnpackedFloat.mul Format.binary64 left right)).unpack := by
  rw [← isLeft, ← isRight]
  rfl

theorem unpack_div {x y : Float} {left right : UnpackedFloat} (isLeft : x.toModel.unpack = left)
    (isRight : y.toModel.unpack = right) : (x / y).toModel.unpack =
      (Float.Model.pack (UnpackedFloat.div Format.binary64 left right)).unpack := by
  rw [← isLeft, ← isRight]
  rfl

/-- A decimal between the midpoints around a float is read as the float. -/
theorem unpack_floatOfDecimal (stored : Stored significand place)
    (rounds : RoundsTo (digits * 10 ^ exponent) significand place) :
    (floatOfDecimal digits exponent).toModel.unpack =
      .finite .positive significand place stored.positive := by
  have packed := (Parts.finite .positive stored).unpack_pack
  rw [floatOfDecimal, Float.ofScientific]
  split
  · next both =>
      obtain ⟨first, firstPlace, other, otherPlace, firstStored, otherStored, unpacked,
        otherUnpacked, same, otherSame, large⟩ :=
        exists_operands (rounds.digits_pos stored) both.1 (Nat.lt_succ_of_le both.2)
      dsimp only
      split
      · next negative =>
          have below := of_decide_eq_true negative
          have quotient : (digits * 10 ^ exponent : ℚ) =
              first * 2 ^ firstPlace / (other * 2 ^ otherPlace) := by
            rw [← same, ← otherSame, div_eq_mul_inv, ← zpow_natCast, ← zpow_neg]
            congr 2
            omega
          rw [quotient] at rounds
          refine (unpack_div unpacked otherUnpacked).trans ?_
          rw [div_eq _ _ stored rounds, packed]
      · next nonnegative =>
          have atLeast := of_decide_eq_false (Bool.eq_false_of_not_eq_true nonnegative)
          have product : (digits * 10 ^ exponent : ℚ) =
              first * 2 ^ firstPlace * (other * 2 ^ otherPlace) := by
            rw [← same, ← otherSame, ← zpow_natCast]
            congr 2
            omega
          rw [product] at rounds
          refine (unpack_mul unpacked otherUnpacked).trans ?_
          rw [mul_eq _ _ stored rounds large, packed]
  · next slow =>
      have same : (if decide (exponent < 0) = true then Int.negOfNat exponent.natAbs
          else Int.ofNat exponent.natAbs) = exponent := by
        simp only [decide_eq_true_eq]
        split <;> simp only [Int.negOfNat_eq, Int.ofNat_eq_natCast] <;> omega
      simp only [same]
      show (Float.Model.pack
        (UnpackedFloat.ofScientific Format.binary64 digits exponent)).unpack = _
      rw [ofScientific_eq stored rounds, packed]

end Decimals

section Neighbours

variable {significand other : Nat} {exponent place : Int} {value : ℚ}

/-- Between stored floats there is a whole unit of the smaller one. -/
theorem Stored.succ_le (stored : Stored significand exponent) (otherStored : Stored other place)
    (less : (significand : ℚ) * 2 ^ exponent < other * 2 ^ place) :
    ((significand + 1 : ℕ) : ℚ) * 2 ^ exponent ≤ other * 2 ^ place := by
  have least := stored.least
  have power : (0 : ℚ) < 2 ^ exponent := by positivity
  obtain lower | rfl | higher := Int.lt_trichotomy exponent place
  · have large : 2 ^ 52 ≤ other := otherStored.leading.resolve_right (by omega)
    have fits : ((significand + 1 : ℕ) : ℚ) ≤ 2 ^ 53 := by exact_mod_cast stored.small
    have enough : (2 : ℚ) ^ 52 ≤ other := by exact_mod_cast large
    calc
      ((significand + 1 : ℕ) : ℚ) * 2 ^ exponent ≤ 2 ^ 53 * 2 ^ exponent := by gcongr
      _ = 2 ^ 52 * 2 ^ (exponent + 1) := by
        rw [zpow_add₀ two_ne_zero]
        ring
      _ ≤ other * 2 ^ place := by
        gcongr
        · exact one_le_two
        · omega
  · rw [mul_lt_mul_iff_left₀ power] at less
    have next : significand + 1 ≤ other := by exact_mod_cast less
    exact mul_le_mul_of_nonneg_right (by exact_mod_cast next) power.le
  · exact absurd (otherStored.lt_of_exponent_lt stored higher) (not_lt.mpr less.le)

/-- What is rounded to a float is below the floats above it. -/
theorem RoundsTo.lt_of_lt (rounds : RoundsTo value significand exponent)
    (stored : Stored significand exponent) (otherStored : Stored other place)
    (less : (significand : ℚ) * 2 ^ exponent < other * 2 ^ place) :
    value < other * 2 ^ place := by
  have next := stored.succ_le otherStored less
  have high := rounds.bounds.2
  have unit : (0 : ℚ) < 2 ^ (exponent - 2) := by positivity
  have quarters := four_quarters exponent
  rw [quarters] at next
  push_cast at next
  nlinarith

/-- What is rounded to a float is above the floats below it. -/
theorem RoundsTo.gt_of_gt (rounds : RoundsTo value significand exponent)
    (stored : Stored significand exponent) (otherStored : Stored other place)
    (more : (other : ℚ) * 2 ^ place < significand * 2 ^ exponent) :
    other * 2 ^ place < value := by
  have least := otherStored.least
  have low := rounds.bounds.1
  have unit : (0 : ℚ) < 2 ^ (exponent - 2) := by positivity
  have quarters := four_quarters exponent
  obtain lower | rfl | higher := Int.lt_trichotomy place exponent
  · have large : 2 ^ 52 ≤ significand := stored.leading.resolve_right (by omega)
    have fits : ((other + 1 : ℕ) : ℚ) ≤ 2 ^ 53 := by exact_mod_cast otherStored.small
    push_cast at fits
    have below : (other : ℚ) * 2 ^ place ≤ (2 ^ 53 - 1) * 2 * 2 ^ (exponent - 2) := by
      calc
        (other : ℚ) * 2 ^ place ≤ (2 ^ 53 - 1) * 2 ^ (exponent - 2 + 1) :=
          mul_le_mul (by linarith) (zpow_le_zpow_right₀ one_le_two (by omega)) (by positivity)
            (by norm_num)
        _ = (2 ^ 53 - 1) * 2 * 2 ^ (exponent - 2) := by
          rw [zpow_add₀ two_ne_zero]
          ring
    obtain power | above := Nat.eq_or_lt_of_le large
    · -- the midpoint below a power of two is nearer
      have closer := rounds.low.elim le_of_lt fun equal => equal.2.le
      rw [lowerEnd, if_pos ⟨power.symm, by omega⟩, ← power] at closer
      push_cast at closer
      nlinarith
    · have next : (2 : ℚ) ^ 52 + 1 ≤ significand := by exact_mod_cast above
      nlinarith
  · rw [mul_lt_mul_iff_left₀ (by positivity)] at more
    have next : ((other + 1 : ℕ) : ℚ) ≤ significand := by
      exact_mod_cast (show other < significand by exact_mod_cast more)
    push_cast at next
    rw [quarters]
    nlinarith
  · exact absurd (stored.lt_of_exponent_lt otherStored higher) (not_lt.mpr more.le)

end Neighbours

end LogPipe.Decimal
