import LogPipe.Decimal.Shortest
import LogPipe.Proofs.Decimal.Nearest

/-!
# Shortest decimals read back

Decimals and floats are compared by integers, which are their values on a common scale.  A decimal
that is accepted lies between the midpoints around the float, so it is rounded to the float again.
The search for the shortest decimal ends: seventeen digits below the leading one the steps of the
grid are shorter than the way to a midpoint.
-/

namespace LogPipe.Decimal

/-- The number that a decimal stands for. -/
def Scientific.value (decimal : Scientific) : ℚ :=
  decimal.digits * 10 ^ decimal.exponent

section Comparing

variable {significand : Nat} {exponent : Int} {decimal : Scientific}

theorem pow_toNat {base : ℚ} (positive : 0 < base) (exponent : Int) :
    base ^ exponent.toNat = base ^ exponent * base ^ (-exponent).toNat := by
  rw [← zpow_natCast, ← zpow_natCast, ← zpow_add₀ positive.ne']
  congr 1
  omega

/-- A decimal and a binary number are compared as the numbers they stand for. -/
theorem compareScaled_eq (digits : Nat) (place : Int) (mantissa : Nat) (exponent : Int) :
    compareScaled digits place mantissa exponent =
      compare ((digits : ℚ) * 10 ^ place) (mantissa * 2 ^ exponent) := by
  have scale : (0 : ℚ) < 10 ^ (-place).toNat * 2 ^ (-exponent).toNat := by positivity
  rw [compareScaled, ← compare_natCast,
    ← compare_mul_right (digits * 10 ^ place) (mantissa * 2 ^ exponent) scale]
  have ten : ∀ power : Nat, tenTo power = 10 ^ power := fun _ => rfl
  have two : ∀ power : Nat, twoTo power = 2 ^ power := fun _ => rfl
  simp only [ten, two]
  push_cast
  rw [pow_toNat (by norm_num) place, pow_toNat (by norm_num) exponent]
  congr 1 <;> ring

theorem lowerEnd_eq (positive : 0 < significand) :
    lowerEnd significand exponent =
      ((if (significand == twoTo 52 && decide (-1074 < exponent)) = true then 4 * significand - 1
        else 4 * significand - 2 : ℕ) : ℚ) * 2 ^ (exponent - 2) := by
  have power : twoTo 52 = 2 ^ 52 := rfl
  rw [lowerEnd]
  simp only [power, Bool.and_eq_true, beq_iff_eq, decide_eq_true_eq]
  split
  · rw [Nat.cast_sub (by omega)]
    push_cast
    rfl
  · rw [Nat.cast_sub (by omega)]
    push_cast
    rfl

theorem upperEnd_eq : upperEnd significand exponent =
    ((4 * significand + 2 : ℕ) : ℚ) * 2 ^ (exponent - 2) := by
  rw [upperEnd]
  push_cast
  rfl

/-- A decimal is accepted exactly when it is rounded to the float. -/
theorem readsBack_iff (positive : 0 < significand) :
    readsBack significand exponent decimal = true ↔
      RoundsTo decimal.value significand exponent := by
  simp only [readsBack, compareScaled_eq]
  rw [← lowerEnd_eq positive, ← upperEnd_eq, ← Scientific.value]
  simp only [Bool.and_eq_true, Bool.or_eq_true, beq_iff_eq, compare_gt_iff_gt, compare_lt_iff_lt,
    compare_eq_iff_eq]
  constructor
  · rintro ⟨low, high⟩
    exact ⟨low.imp_right (And.imp_right Eq.symm), high⟩
  · rintro ⟨low, high⟩
    exact ⟨low.imp_right (And.imp_right Eq.symm), high⟩

end Comparing

section Searching

variable {tie : Tie} {significand : Nat} {exponent grid : Int} {decimal : Scientific}

theorem floorOnGrid_bounds (significand : Nat) (exponent grid : Int) :
    (floorOnGrid significand exponent grid : ℚ) * 10 ^ grid ≤ significand * 2 ^ exponent ∧
      (significand : ℚ) * 2 ^ exponent <
        (floorOnGrid significand exponent grid + 1) * 10 ^ grid := by
  have ten : ∀ power : Nat, tenTo power = 10 ^ power := fun _ => rfl
  have two : ∀ power : Nat, twoTo power = 2 ^ power := fun _ => rfl
  have step : (0 : ℚ) < 10 ^ grid := by positivity
  have scaled : (significand : ℚ) * 2 ^ exponent =
      (significand * twoTo exponent.toNat * tenTo (-grid).toNat : ℕ) /
        (twoTo (-exponent).toNat * tenTo grid.toNat : ℕ) * 10 ^ grid := by
    simp only [ten, two]
    push_cast
    rw [pow_toNat (by norm_num) exponent, pow_toNat (by norm_num) grid]
    field_simp
  rw [scaled, floorOnGrid, ← @Nat.floor_div_eq_div ℚ]
  exact ⟨mul_le_mul_of_nonneg_right (Nat.floor_le (by positivity)) step.le,
    mul_lt_mul_of_pos_right (Nat.lt_floor_add_one _) step⟩

theorem ends_around (significand : Nat) (exponent : Int) :
    lowerEnd significand exponent ≤ significand * 2 ^ exponent - 2 ^ (exponent - 2) ∧
      (significand : ℚ) * 2 ^ exponent < upperEnd significand exponent := by
  have unit : (0 : ℚ) < 2 ^ (exponent - 2) := by positivity
  rw [lowerEnd, upperEnd, four_quarters exponent]
  constructor
  · split <;> nlinarith
  · nlinarith

theorem roundsTo_self (significand : Nat) (exponent : Int) :
    RoundsTo (significand * 2 ^ exponent) significand exponent := by
  obtain ⟨low, high⟩ := ends_around significand exponent
  have unit : (0 : ℚ) < 2 ^ (exponent - 2) := by positivity
  exact ⟨Or.inl (by linarith), Or.inl high⟩

/-- The multiple of a fine step below a float is rounded to the float. -/
theorem roundsTo_floorOnGrid (fine : (10 : ℚ) ^ grid ≤ 2 ^ (exponent - 2)) :
    RoundsTo (Scientific.value ⟨floorOnGrid significand exponent grid, grid⟩) significand
      exponent := by
  obtain ⟨low, high⟩ := ends_around significand exponent
  obtain ⟨below, above⟩ := floorOnGrid_bounds significand exponent grid
  rw [Scientific.value]
  exact ⟨Or.inl (by linarith), Or.inl (by linarith)⟩

theorem ten_pow_length_le {number : Nat} (positive : 0 < number) :
    10 ^ ((Nat.toDigits 10 number).length - 1) ≤ number := by
  by_contra less
  obtain one | more := Nat.eq_or_lt_of_le (@Nat.length_toDigits_pos 10 number)
  · rw [← one] at less
    exact less positive
  · have short := (Nat.length_toDigits_le_iff (by decide) (by omega)).mpr (Nat.lt_of_not_le less)
    omega

theorem lt_ten_pow_length (number : Nat) : number < 10 ^ (Nat.toDigits 10 number).length :=
  (Nat.length_toDigits_le_iff (by decide) Nat.length_toDigits_pos).mp le_rfl

theorem ten_zpow_length_le (number : Nat) (positive : 0 < number) :
    (10 : ℚ) ^ (((Nat.toDigits 10 number).length : ℤ) - 1) ≤ number := by
  have shape : ((Nat.toDigits 10 number).length : ℤ) - 1 =
      ((Nat.toDigits 10 number).length - 1 : ℕ) := by
    have length := @Nat.length_toDigits_pos 10 number
    omega
  rw [shape, zpow_natCast]
  exact_mod_cast ten_pow_length_le positive

theorem ten_pow_leadingExponent_le (positive : 0 < significand) (exponent : Int) :
    (10 : ℚ) ^ leadingExponent significand exponent ≤ significand * 2 ^ exponent := by
  rw [leadingExponent]
  split
  · next whole =>
      obtain ⟨lift, rfl⟩ := Int.eq_ofNat_of_zero_le whole
      have power : twoTo (lift : ℤ).toNat = 2 ^ lift := rfl
      have scaled := ten_zpow_length_le (significand * twoTo (lift : ℤ).toNat)
        (Nat.mul_pos positive (Nat.two_pow_pos _))
      refine scaled.trans_eq ?_
      rw [power]
      push_cast
      rfl
  · next fraction =>
      obtain ⟨down, rfl⟩ : ∃ down : Nat, exponent = -down := ⟨exponent.natAbs, by omega⟩
      have scaled := ten_zpow_length_le (significand * Nat.pow 5 (- -(down : ℤ)).toNat)
        (Nat.mul_pos positive (Nat.pow_pos (by decide)))
      have power : Nat.pow 5 (- -(down : ℤ)).toNat = 5 ^ down := by
        rw [neg_neg]
        rfl
      rw [zpow_add₀ (by norm_num)]
      calc
        (10 : ℚ) ^ (((Nat.toDigits 10
            (significand * Nat.pow 5 (- -(down : ℤ)).toNat)).length : ℤ) - 1) *
              10 ^ (-(down : ℤ)) ≤
            (significand * Nat.pow 5 (- -(down : ℤ)).toNat : ℕ) * 10 ^ (-(down : ℤ)) := by
          gcongr
        _ = significand * 2 ^ (-(down : ℤ)) := by
          have ten : (10 : ℚ) ^ down = 5 ^ down * 2 ^ down := by
            rw [← mul_pow]
            norm_num
          rw [power, zpow_neg, zpow_neg, zpow_natCast, zpow_natCast, ten]
          push_cast
          field_simp

theorem onGrid?_spec (found : onGrid? tie significand exponent grid = some decimal) :
    decimal.exponent = grid ∧ readsBack significand exponent decimal = true := by
  rw [onGrid?] at found
  split at found
  · next low high =>
      cases found
      exact ⟨rfl, low⟩
  · next low high =>
      cases found
      exact ⟨rfl, high⟩
  · cases found
  · next low high =>
      split at found
      · cases found
        exact ⟨rfl, low⟩
      · split at found
        · cases found
          exact ⟨rfl, low⟩
        · cases found
          exact ⟨rfl, high⟩
      · cases found
        exact ⟨rfl, high⟩

theorem onGrid?_ne_none
    (reads : readsBack significand exponent
      ⟨floorOnGrid significand exponent grid, grid⟩ = true) :
    onGrid? tie significand exponent grid ≠ none := by
  rw [onGrid?, reads]
  split
  · nofun
  · nofun
  · next refused _ => cases refused
  · split <;> nofun

/-- The search comes to a grid that has a point, or stops on a coarser one before. -/
theorem exists_searchGrids {last : Int} (someDecimal : onGrid? tie significand exponent last ≠ none)
    (fuel : Nat) (atLeast : last ≤ grid) (enough : grid - last < fuel) :
    ∃ decimal, searchGrids tie significand exponent grid fuel = some decimal ∧
      last ≤ decimal.exponent ∧ readsBack significand exponent decimal = true := by
  induction fuel generalizing grid with
  | zero => omega
  | succ fuel induction =>
      rw [searchGrids]
      split
      · next decimal found =>
          obtain ⟨place, reads⟩ := onGrid?_spec found
          exact ⟨decimal, rfl, place ▸ atLeast, reads⟩
      · next nothing =>
          have further : last ≠ grid := by
            rintro rfl
            exact someDecimal nothing
          exact induction (by omega) (by omega)

/-- Grids from a step above the leading digit to eighteen steps below it are tried. -/
theorem exists_shortest {last : Int} (someDecimal : onGrid? tie significand exponent last ≠ none)
    (atLeast : last ≤ leadingExponent significand exponent + 1)
    (near : leadingExponent significand exponent ≤ last + 18) :
    last ≤ (shortest tie significand exponent).exponent ∧
      readsBack significand exponent (shortest tie significand exponent) = true := by
  obtain ⟨decimal, found, place, reads⟩ := exists_searchGrids someDecimal 20 atLeast (by omega)
  rw [shortest, found]
  exact ⟨place, reads⟩

/-- The shortest decimal is rounded to the float. -/
theorem roundsTo_shortest (tie : Tie) (stored : Stored significand exponent) :
    RoundsTo (shortest tie significand exponent).value significand exponent := by
  have small : (significand : ℚ) ≤ 2 ^ 53 := by exact_mod_cast stored.small.le
  have fine : (10 : ℚ) ^ (leadingExponent significand exponent - 18) ≤ 2 ^ (exponent - 2) := by
    calc
      (10 : ℚ) ^ (leadingExponent significand exponent - 18) =
          10 ^ leadingExponent significand exponent / 10 ^ 18 := by
        rw [zpow_sub₀ (by norm_num)]
        rfl
      _ ≤ 2 ^ 53 * 2 ^ exponent / 10 ^ 18 := by
        gcongr
        exact (ten_pow_leadingExponent_le stored.positive exponent).trans (by gcongr)
      _ = 2 ^ 55 / 10 ^ 18 * 2 ^ (exponent - 2) := by
        rw [zpow_sub₀ two_ne_zero]
        norm_num
        ring
      _ ≤ 1 * 2 ^ (exponent - 2) := by
        gcongr
        norm_num
      _ = 2 ^ (exponent - 2) := one_mul _
  have reads := (readsBack_iff stored.positive).mpr (roundsTo_floorOnGrid fine)
  exact (readsBack_iff stored.positive).mp
    (exists_shortest (onGrid?_ne_none reads) (by omega) (by omega)).2

/-- The shortest decimal of a whole float has no digits behind the point, as long as the float has
at most nineteen digits. -/
theorem exponent_shortest_nonneg (tie : Tie) (positive : 0 < significand)
    (whole : 0 ≤ exponent) (small : (significand : ℚ) * 2 ^ exponent < 10 ^ 19) :
    0 ≤ (shortest tie significand exponent).exponent := by
  have leading := ten_pow_leadingExponent_le positive exponent
  obtain ⟨lift, rfl⟩ := Int.eq_ofNat_of_zero_le whole
  have isWhole : (significand * 2 ^ (lift : ℤ) : ℚ) = (significand * 2 ^ lift : ℕ) := by
    push_cast
    rfl
  have floor : floorOnGrid significand lift 0 = significand * 2 ^ lift := by
    obtain ⟨low, high⟩ := floorOnGrid_bounds significand lift 0
    rw [zpow_zero, mul_one, isWhole] at low high
    have atMost : floorOnGrid significand lift 0 ≤ significand * 2 ^ lift := by exact_mod_cast low
    have atLeast : significand * 2 ^ lift < floorOnGrid significand lift 0 + 1 := by
      exact_mod_cast high
    omega
  have reads : readsBack significand lift ⟨floorOnGrid significand lift 0, 0⟩ = true := by
    rw [readsBack_iff positive, Scientific.value, floor, zpow_zero, mul_one, ← isWhole]
    exact roundsTo_self significand lift
  have below : leadingExponent significand lift < 19 := by
    have powers : (10 : ℚ) ^ leadingExponent significand lift < 10 ^ (19 : ℤ) :=
      leading.trans_lt small
    exact (zpow_lt_zpow_iff_right₀ (by norm_num)).mp powers
  have above : -1 ≤ leadingExponent significand lift := by
    rw [leadingExponent, if_pos whole]
    omega
  exact (exists_shortest (onGrid?_ne_none reads) (by omega) (by omega)).1

end Searching

section Stripping

theorem value_strip (fuel : Nat) (decimal : Scientific) :
    (decimal.strip fuel).value = decimal.value := by
  induction fuel generalizing decimal with
  | zero => rfl
  | succ fuel induction =>
      rw [Scientific.strip]
      split
      · next zeros =>
          rw [Bool.and_eq_true, beq_iff_eq] at zeros
          have split : ((decimal.digits / 10 : ℕ) : ℚ) * 10 = decimal.digits := by
            exact_mod_cast Nat.div_mul_cancel (Nat.dvd_of_mod_eq_zero zeros.1)
          rw [induction, Scientific.value, Scientific.value, zpow_add₀ (by norm_num), zpow_one,
            ← split]
          ring
      · rfl

theorem exponent_le_strip (fuel : Nat) (decimal : Scientific) :
    decimal.exponent ≤ (decimal.strip fuel).exponent := by
  induction fuel generalizing decimal with
  | zero => exact le_rfl
  | succ fuel induction =>
      rw [Scientific.strip]
      split
      · have further := induction ⟨decimal.digits / 10, decimal.exponent + 1⟩
        dsimp only at further
        omega
      · exact le_rfl

end Stripping

end LogPipe.Decimal
