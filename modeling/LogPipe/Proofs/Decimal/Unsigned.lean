import LogPipe.Proofs.Decimal.Nearest
import LogPipe.Proofs.Decimal.Numerals

/-!
# Numbers without a sign

A decimal is computed from positive operands, so it is read as a zero, a number or an infinity
without a minus, and never as something that is no number.  A text that starts like a number is
read without a sign.
-/

namespace LogPipe.Decimal

open Float.Model Float.Model.UnpackedFloat

/-- An unpacked number without a minus. -/
inductive Unsigned : UnpackedFloat → Prop where
  | infinity : Unsigned (.infinity .positive)
  | zero : Unsigned (.zero .positive)
  | finite (significand : Nat) (exponent : Int) (positive : 0 < significand) :
      Unsigned (.finite .positive significand exponent positive)

section Unsigned

theorem unsigned_roundWithAccuracy (format : Format) (digits : Nat) (exponent : Int)
    (accuracy : Accuracy) :
    Unsigned (roundWithAccuracy format .positive digits exponent accuracy) := by
  rw [roundWithAccuracy]
  dsimp only
  split
  · exact .zero
  · exact .finite _ _ _

theorem unsigned_packComponents {format : Format} {exponent : BitVec format.exponentBits}
    {fraction : BitVec format.mantissaBitsWithoutImplicit}
    (number : exponent = -1#_ → fraction = 0#_) :
    Unsigned (unpack format (packComponents format .positive exponent fraction)) := by
  rw [UnpackedFloat.unpack]
  simp only [unpackExponent_packComponents, unpackMantissa_packComponents,
    UnpackedFloat.unpackSign_packComponents, Sign.ofBitVec_toBitVec]
  split
  · next ones =>
      rw [if_pos (number ones)]
      exact .infinity
  · split
    · split
      · exact .zero
      · exact .finite _ _ _
    · exact .finite _ _ _

/-- A number without a minus is packed as one. -/
theorem Unsigned.unpack_pack {unpacked : UnpackedFloat} (unsigned : Unsigned unpacked) :
    Unsigned (Float.Model.pack unpacked).unpack := by
  show Unsigned (unpack Format.binary64 (pack Format.binary64 unpacked))
  cases unsigned with
  | infinity => exact unsigned_packComponents fun _ => rfl
  | zero => exact unsigned_packComponents fun _ => rfl
  | finite significand exponent positive =>
      rw [UnpackedFloat.pack]
      dsimp only
      split
      · exact unsigned_packComponents fun _ => rfl
      · next small =>
          split
          · apply unsigned_packComponents
            intro ones
            have last : (-1#11).toNat = 2 ^ 11 - 1 := by decide
            have value := (congrArg BitVec.toNat ones).trans last
            rw [BitVec.toNat_ofNat] at value
            omega
          · apply unsigned_packComponents
            intro ones
            exact absurd ones (by decide)

theorem unsigned_ofScientific (digits : Nat) (exponent : Int) :
    Unsigned (UnpackedFloat.ofScientific Format.binary64 digits exponent) := by
  rw [UnpackedFloat.ofScientific]
  split
  · exact .zero
  · split
    · exact .infinity
    · split
      · exact .zero
      · split
        · exact unsigned_roundWithAccuracy _ _ _ _
        · exact unsigned_roundWithAccuracy _ _ _ _

section Operations

variable {format : Format} {left : UnpackedFloat} {significand : Nat} {exponent : Int}

theorem Unsigned.mul (unsigned : Unsigned left) (positive : 0 < significand) :
    Unsigned (UnpackedFloat.mul format left
      (.finite .positive significand exponent positive)) := by
  cases unsigned with
  | infinity => exact .infinity
  | zero => exact .zero
  | finite => exact unsigned_roundWithAccuracy _ _ _ _

theorem Unsigned.div (unsigned : Unsigned left) (positive : 0 < significand) :
    Unsigned (UnpackedFloat.div format left
      (.finite .positive significand exponent positive)) := by
  cases unsigned with
  | infinity => exact .infinity
  | zero => exact .zero
  | finite => exact unsigned_roundWithAccuracy _ _ _ _

end Operations

theorem unsigned_toFloat {digits : Nat} (small : digits < 2 ^ 53) :
    Unsigned digits.toUInt64.toFloat.toModel.unpack := by
  obtain rfl | positive := Nat.eq_zero_or_pos digits
  · exact .zero
  · obtain ⟨significand, exponent, stored, unpacked, -, -⟩ :=
      (denotes_toFloat positive small).exists_large (by exact_mod_cast positive)
    rw [unpacked]
    exact .finite _ _ _

/-- A decimal is read as a number without a minus. -/
theorem unsigned_floatOfDecimal (digits : Nat) (exponent : Int) :
    Unsigned (floatOfDecimal digits exponent).toModel.unpack := by
  rw [floatOfDecimal, Float.ofScientific]
  split
  · next both =>
      obtain ⟨power, place, stored, unpacked, -, -⟩ :=
        (denotes_powerOfTen (Nat.lt_succ_of_le both.2)).exists_large (one_le_pow₀ (by norm_num))
      have number := unsigned_toFloat both.1
      have quotient := @Unsigned.div Format.binary64 _ _ place number stored.positive
      have product := @Unsigned.mul Format.binary64 _ _ place number stored.positive
      rw [← unpacked] at quotient product
      dsimp only
      split
      · exact quotient.unpack_pack
      · exact product.unpack_pack
  · exact (unsigned_ofScientific digits _).unpack_pack

end Unsigned

section Reading

variable {c : Char} {rest : List Char}

theorem StartsNumber.readSpecial? (starts : StartsNumber c) :
    readSpecial? (c :: rest) = none := by
  rw [Option.eq_none_iff_forall_ne_some]
  intro x read
  have word := map_toLower_of_readSpecial? (Option.isSome_of_eq_some read)
  have heads : ∀ word ∈ ["inf", "infinity", "nan"].map String.toList,
      ∀ first ∈ word.head?, first ∈ ['i', 'n'] := by
    simp
  have noDigit : ∀ letter ∈ ['i', 'n'], isDigit letter = false := by
    simp [isDigit]
  have letter : c.toLower ∈ ['i', 'n'] := heads _ word _ rfl
  obtain digit | rfl := starts
  · have other := noDigit _ letter
    rw [isDigit_toLower, digit] at other
    cases other
  · exact absurd letter (by decide)

theorem exists_floatOfDecimal {text : List Char} {x : Float}
    (read : readMagnitude? text = some x) :
    ∃ digits exponent, x = floatOfDecimal digits exponent := by
  rw [readMagnitude?] at read
  split at read
  split at read
  · cases read
  · obtain ⟨exponent, -, rfl⟩ := Option.map_eq_some_iff.mp read
    exact ⟨_, _, rfl⟩

theorem StartsNumber.unsigned (starts : StartsNumber c) {x : Float}
    (read : readFloat? (c :: rest) = some x) : Unsigned x.toModel.unpack := by
  rw [readFloat?, starts.readSign] at read
  simp only [starts.readSpecial?, Option.or_none, Bool.false_eq_true, if_false,
    Option.map_id'] at read
  obtain ⟨digits, exponent, rfl⟩ := exists_floatOfDecimal read
  exact unsigned_floatOfDecimal digits exponent

theorem StartsNumber.nonneg (starts : StartsNumber c) {value : Int64}
    (read : readInt64? (c :: rest) = some value) : 0 ≤ value.toInt := by
  obtain ⟨number, numberRead, found⟩ := Option.bind_eq_some_iff.mp read
  rw [int64?_eq] at found
  split at found
  · next inRange =>
      cases found
      rw [toInt_ofInt_of_inRange inRange]
      rw [readInt?, starts.readSign] at numberRead
      simp only at numberRead
      split at numberRead
      · cases numberRead
      · cases numberRead
        exact Int.natCast_nonneg _
  · cases found

end Reading

end LogPipe.Decimal
