import LogPipe.Decimal.Layout
import LogPipe.Proofs.Decimal.Numerals
import LogPipe.Proofs.Decimal.Shortest

/-!
# Written floats are read back

Wherever the point goes, the digits of a decimal with their zeros spell the number that the decimal
stands for.  Read again, this is a decimal with the same value, and so it is rounded to the float
that it was written for.
-/

namespace LogPipe.Decimal

open Float.Model Float.Model.UnpackedFloat

/-- The number that digits spell, with or without a point behind some of them. -/
inductive Spells : (pointed : Bool) → List Char → ℚ → Prop where
  | whole {digits : List Char} (some : digits ≠ []) (each : ∀ c ∈ digits, isDigit c = true) :
      Spells false digits (digitsValue digits)
  | point {digits fraction : List Char} (some : digits ≠ [])
      (each : ∀ c ∈ digits, isDigit c = true) (eachLater : ∀ c ∈ fraction, isDigit c = true) :
      Spells true (digits ++ '.' :: fraction)
        (digitsValue (digits ++ fraction) * 10 ^ (-(fraction.length : ℤ)))

section Writing

variable {digits : List Char} (some : digits ≠ []) (each : ∀ c ∈ digits, isDigit c = true)

include some each

/-- The point is behind the digits, with zeros in between. -/
theorem spells_behind (zeros : Nat) (wholeMark : Bool) :
    Spells wholeMark
      (digits ++ List.replicate zeros '0' ++ if wholeMark then ['.', '0'] else [])
      (digitsValue digits * 10 ^ zeros) := by
  have eachZero : ∀ c ∈ digits ++ List.replicate zeros '0', isDigit c = true :=
    List.forall_mem_append.mpr ⟨each, fun c => isDigit_of_mem_zeros⟩
  have someZero : digits ++ List.replicate zeros '0' ≠ [] :=
    List.append_ne_nil_of_left_ne_nil some _
  cases wholeMark with
  | false =>
      have spells := Spells.whole someZero eachZero
      rw [digitsValue_append_zeros] at spells
      push_cast at spells
      simpa using spells
  | true =>
      have spells := @Spells.point _ (List.replicate 1 '0') someZero eachZero
        fun c => isDigit_of_mem_zeros
      have same : ((digitsValue digits * 10 ^ zeros * 10 ^ 1 : ℕ) : ℚ) *
          10 ^ (-((List.replicate 1 '0').length : ℤ)) = digitsValue digits * 10 ^ zeros := by
        rw [List.length_replicate, zpow_neg, zpow_natCast]
        push_cast
        field_simp
      rw [digitsValue_append_zeros, digitsValue_append_zeros, same] at spells
      exact spells

/-- The point is behind some of the digits. -/
theorem spells_inside {point : Nat} (notFirst : 0 < point) :
    Spells true (digits.take point ++ '.' :: digits.drop point)
      (digitsValue digits * 10 ^ (-((digits.length - point : ℕ) : ℤ))) := by
  have someFirst : digits.take point ≠ [] := by
    apply List.ne_nil_of_length_pos
    have length := List.length_pos_of_ne_nil some
    rw [List.length_take]
    omega
  have spells := @Spells.point (digits.take point) (digits.drop point) someFirst
    (fun c member => each c (List.mem_of_mem_take member))
    (fun c member => each c (List.mem_of_mem_drop member))
  rwa [List.take_append_drop, List.length_drop] at spells

omit some in
/-- The point is in front of the digits, with zeros in between. -/
theorem spells_front (zeros : Nat) :
    Spells true ('0' :: '.' :: (List.replicate zeros '0' ++ digits))
      (digitsValue digits * 10 ^ (-((zeros + digits.length : ℕ) : ℤ))) := by
  have spells := @Spells.point (List.replicate 1 '0') (List.replicate zeros '0' ++ digits)
    (List.cons_ne_nil _ _) (fun c => isDigit_of_mem_zeros)
    (List.forall_mem_append.mpr ⟨fun c => isDigit_of_mem_zeros, each⟩)
  rwa [digitsValue_zeros_append, digitsValue_zeros_append, List.length_append,
    List.length_replicate] at spells

omit some each in
/-- Digits with the point in place spell the decimal. -/
theorem spells_positionalText (number : Nat) (exponent : Int) (wholeMark : Bool) :
    Spells (decide (exponent < 0) || wholeMark) (positionalText (Nat.toDigits 10 number)
      (exponent + (Nat.toDigits 10 number).length) wholeMark).toList (number * 10 ^ exponent) := by
  have value := digitsValue_toDigits number
  have some := toDigits_ne_nil number
  have each : ∀ c ∈ Nat.toDigits 10 number, isDigit c = true := fun c => isDigit_of_mem_toDigits
  generalize Nat.toDigits 10 number = digits at *
  rw [positionalText, ← value]
  split
  · next behind =>
      obtain ⟨zeros, rfl⟩ := Int.eq_ofNat_of_zero_le (show 0 ≤ exponent by omega)
      have amount : ((zeros : ℤ) + digits.length - digits.length).toNat = zeros := by omega
      have noPoint : decide ((zeros : ℤ) < 0) = false := decide_eq_false (by omega)
      have mark : (if wholeMark = true then ".0" else "").toList =
          if wholeMark = true then ['.', '0'] else [] := by
        cases wholeMark <;> rfl
      rw [amount, noPoint, Bool.false_or, zpow_natCast, String.toList_append, String.toList_ofList,
        mark]
      exact spells_behind some each zeros wholeMark
  · next notBehind =>
      have pointed : decide (exponent < 0) = true := decide_eq_true (by omega)
      rw [pointed, Bool.true_or]
      split
      · next inside =>
          obtain ⟨point, level⟩ := Int.eq_ofNat_of_zero_le inside.le
          have later : exponent = -((digits.length - point : ℕ) : ℤ) := by omega
          rw [level, Int.toNat_natCast, later]
          simp only [String.toList_append, String.toList_ofList, List.append_assoc]
          exact spells_inside some each (by omega)
      · next front =>
          obtain ⟨zeros, level⟩ := Int.eq_ofNat_of_zero_le (Int.neg_nonneg.mpr (not_lt.mp front))
          have later : exponent = -((zeros + digits.length : ℕ) : ℤ) := by omega
          rw [level, Int.toNat_natCast, later]
          simp only [String.toList_append, String.toList_ofList]
          exact spells_front each zeros

end Writing

section Cells

variable {significand : Nat} {exponent : Int}

/-- The decimal that a positive float is written as. -/
def writtenDecimal (significand : Nat) (exponent : Int) : Scientific :=
  (shortest Layout.cell.tie significand exponent).strip 20

theorem roundsTo_writtenDecimal (stored : Stored significand exponent) :
    RoundsTo (writtenDecimal significand exponent).value significand exponent := by
  rw [writtenDecimal, value_strip]
  exact roundsTo_shortest _ stored

theorem exponent_writtenDecimal_nonneg (positive : 0 < significand) (whole : 0 ≤ exponent)
    (small : (significand : ℚ) * 2 ^ exponent < 10 ^ 19) :
    0 ≤ (writtenDecimal significand exponent).exponent :=
  (exponent_shortest_nonneg _ positive whole small).trans (exponent_le_strip _ _)

/-- The leading digit of a decimal is worth less than a power of ten when the decimal is. -/
theorem leading_lt_iff {decimal : Scientific} (positive : 0 < decimal.digits) (power : Nat) :
    decimal.exponent + (Nat.toDigits 10 decimal.digits).length - 1 < power ↔
      decimal.value < 10 ^ power := by
  have step : (0 : ℚ) < 10 ^ decimal.exponent := by positivity
  have length := @Nat.length_toDigits_pos 10 decimal.digits
  have low : (10 : ℚ) ^ ((Nat.toDigits 10 decimal.digits).length - 1) ≤ decimal.digits := by
    exact_mod_cast ten_pow_length_le positive
  have high : (decimal.digits : ℚ) < 10 ^ (Nat.toDigits 10 decimal.digits).length := by
    exact_mod_cast lt_ten_pow_length decimal.digits
  generalize (Nat.toDigits 10 decimal.digits).length = count at *
  have ten : (1 : ℚ) < 10 := by norm_num
  rw [Scientific.value, ← zpow_natCast (10 : ℚ) power]
  constructor
  · intro less
    calc
      (decimal.digits : ℚ) * 10 ^ decimal.exponent < 10 ^ count * 10 ^ decimal.exponent := by
        gcongr
      _ = 10 ^ (decimal.exponent + count) := by
        rw [zpow_add₀ (by norm_num), zpow_natCast, mul_comm]
      _ ≤ 10 ^ (power : ℤ) := zpow_le_zpow_right₀ ten.le (by omega)
  · intro less
    have below : (10 : ℚ) ^ (decimal.exponent + (count - 1 : ℕ)) < 10 ^ (power : ℤ) := by
      calc
        (10 : ℚ) ^ (decimal.exponent + (count - 1 : ℕ)) =
            10 ^ (count - 1) * 10 ^ decimal.exponent := by
          rw [zpow_add₀ (by norm_num), zpow_natCast, mul_comm]
        _ ≤ decimal.digits * 10 ^ decimal.exponent := by gcongr
        _ < 10 ^ (power : ℤ) := less
    have places := (zpow_lt_zpow_iff_right₀ ten).mp below
    omega

/-- A float cell is written with its digits in place, and with a zero behind the point when it is
whole and below `10 ^ 16`. -/
theorem magnitude_eq (stored : Stored significand exponent) :
    Layout.cell.magnitude significand exponent =
      positionalText (Nat.toDigits 10 (writtenDecimal significand exponent).digits)
        ((writtenDecimal significand exponent).exponent +
          (Nat.toDigits 10 (writtenDecimal significand exponent).digits).length)
        (decide ((writtenDecimal significand exponent).value < 10 ^ 16)) := by
  have some : (significand == 0) = false := beq_eq_false_iff_ne.mpr (Nat.ne_of_gt stored.positive)
  have leading := leading_lt_iff ((roundsTo_writtenDecimal stored).digits_pos stored) 16
  have mark : decide ((writtenDecimal significand exponent).value < 10 ^ 16) =
      Layout.cell.wholeMark ((writtenDecimal significand exponent).exponent +
        (Nat.toDigits 10 (writtenDecimal significand exponent).digits).length - 1) :=
    decide_eq_decide.mpr leading.symm
  rw [Layout.magnitude, some, mark]
  simp only [Bool.false_eq_true, if_false]
  rw [← writtenDecimal, Int.sub_add_cancel]
  rfl

/-- A float cell is written with a point unless it is whole and large. -/
theorem spells_magnitude (stored : Stored significand exponent) :
    Spells (decide ((writtenDecimal significand exponent).exponent < 0) ||
        decide ((writtenDecimal significand exponent).value < 10 ^ 16))
      (Layout.cell.magnitude significand exponent).toList
      (writtenDecimal significand exponent).value := by
  rw [magnitude_eq stored]
  exact spells_positionalText _ _ _

end Cells

section Reading

variable {pointed : Bool} {text : List Char} {value : ℚ}

/-- What is spelled is read as a decimal of the same value. -/
theorem Spells.exists_read (spells : Spells pointed text value) :
    ∃ digits exponent, readMagnitude? text = some (floatOfDecimal digits exponent) ∧
      value = digits * 10 ^ exponent := by
  cases spells with
  | whole some each =>
      have front := List.takeWhile_eq_self_iff.mpr each
      have behind := List.dropWhile_eq_nil_iff.mpr each
      refine ⟨digitsValue text, 0, ?_, by rw [zpow_zero, mul_one]⟩
      have someDigit : (text.isEmpty && ([] : List Char).isEmpty) = false := by
        rw [List.isEmpty_eq_false_iff.mpr some]
        rfl
      simp only [readMagnitude?, front, behind, someDigit, Bool.false_eq_true, if_false,
        List.append_nil, readExponent?, Option.map_some]
      rfl
  | @point digits fraction some each eachLater =>
      have front : (digits ++ '.' :: fraction).takeWhile isDigit = digits := by
        rw [List.takeWhile_append_of_pos each]
        simp [isDigit]
      have behind : (digits ++ '.' :: fraction).dropWhile isDigit = '.' :: fraction := by
        rw [List.dropWhile_append_of_pos each]
        simp [isDigit]
      refine ⟨digitsValue (digits ++ fraction), -fraction.length, ?_, rfl⟩
      have allLater := List.takeWhile_eq_self_iff.mpr eachLater
      have nothing := List.dropWhile_eq_nil_iff.mpr eachLater
      have someDigit : (digits.isEmpty && fraction.isEmpty) = false := by
        rw [List.isEmpty_eq_false_iff.mpr some]
        rfl
      simp only [readMagnitude?, front, behind, allLater, nothing, someDigit, Bool.false_eq_true,
        if_false, readExponent?, Option.map_some, Int.zero_sub]

/-- A sign in front of a text. -/
def withSign (negative : Bool) (text : List Char) : List Char :=
  if negative then '-' :: text else text

theorem Spells.exists_head (spells : Spells pointed text value) :
    ∃ first rest, text = first :: rest ∧ isDigit first = true := by
  have front : ∀ digits : List Char, digits ≠ [] → (∀ c ∈ digits, isDigit c = true) →
      ∃ first rest, digits = first :: rest ∧ isDigit first = true := by
    intro digits some each
    obtain ⟨first, rest, rfl⟩ := List.exists_cons_of_ne_nil some
    exact ⟨first, rest, rfl, each first List.mem_cons_self⟩
  cases spells with
  | whole some each => exact front text some each
  | @point digits fraction some each eachLater =>
      obtain ⟨first, rest, rfl, digit⟩ := front digits some each
      exact ⟨first, rest ++ '.' :: fraction, rfl, digit⟩

theorem Spells.isBlank (spells : Spells pointed text value) :
    ∀ c ∈ text, Text.isBlank c = false := by
  cases spells with
  | whole some each => exact fun c member => isBlank_of_isDigit (each c member)
  | @point digits fraction some each eachLater =>
      rw [List.forall_mem_append, List.forall_mem_cons]
      exact ⟨fun c member => isBlank_of_isDigit (each c member), by decide,
        fun c member => isBlank_of_isDigit (eachLater c member)⟩

theorem Spells.readSign_withSign (spells : Spells pointed text value) (negative : Bool) :
    readSign (withSign negative text) = (negative, text) := by
  obtain ⟨first, rest, rfl, digit⟩ := spells.exists_head
  cases negative with
  | true => rfl
  | false => exact StartsNumber.readSign (Or.inl digit) rest

/-- A number with a point is no integer. -/
theorem Spells.readInt?_pointed (spells : Spells true text value) (negative : Bool) :
    readInt? (withSign negative text) = none := by
  have signed := spells.readSign_withSign negative
  have notDigits : text.all isDigit = false := by
    cases spells
    simp [isDigit]
  simp only [readInt?, signed, notDigits, Bool.not_false, Bool.or_true, if_true]

/-- A number without a point is an integer. -/
theorem Spells.exists_readInt? (spells : Spells false text value) (negative : Bool) :
    ∃ number : Nat, value = number ∧
      readInt? (withSign negative text) = some (Binary.signed negative number) := by
  have signed := spells.readSign_withSign negative
  cases spells with
  | whole some each => exact ⟨digitsValue text, rfl, readInt?_of_readSign signed some each⟩

theorem Spells.exists_readFloat? (spells : Spells pointed text value) (negative : Bool) :
    ∃ (digits : Nat) (exponent : Int), value = digits * 10 ^ exponent ∧
      readFloat? (withSign negative text) =
        some (if negative then -floatOfDecimal digits exponent
          else floatOfDecimal digits exponent) := by
  obtain ⟨digits, exponent, read, same⟩ := spells.exists_read
  refine ⟨digits, exponent, same, ?_⟩
  rw [readFloat?, spells.readSign_withSign negative]
  simp only [read, Option.some_or, Option.map_some]

end Reading

end LogPipe.Decimal
