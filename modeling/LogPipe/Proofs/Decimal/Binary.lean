import LogPipe.Proofs.Cell.Comparison
import LogPipe.Proofs.Cell.Exactness

/-!
# The parts of a float

The bits of a float fall into a sign, a stored exponent and a fraction.  A float is told by its
parts: by whether it is finite, by its sign, and by a significand and an exponent in the one form
in which they are stored.  Its content as an exact binary number and its unpacked form have the
same parts.
-/

namespace LogPipe.Decimal

open Float.Model Float.Model.UnpackedFloat Cell

section Bits

variable (bits : BitVec Format.binary64.numBits)

theorem toNat_unpackExponent : (unpackExponent bits).toNat = bits.toNat / 2 ^ 52 % 2 ^ 11 := by
  rw [unpackExponent, BitVec.toNat_cast, BitVec.extractLsb_toNat, Nat.shiftRight_eq_div_pow]
  rfl

theorem toNat_unpackMantissa : (unpackMantissa bits).toNat = bits.toNat % 2 ^ 52 := by
  rw [unpackMantissa, BitVec.toNat_cast, BitVec.extractLsb_toNat, Nat.shiftRight_zero]
  rfl

theorem toNat_unpackSign : (unpackSign bits).toNat = bits.toNat / 2 ^ 63 := by
  have small : bits.toNat < 2 ^ 64 := bits.isLt
  rw [unpackSign, BitVec.toNat_cast, BitVec.extractLsb_toNat, Nat.shiftRight_eq_div_pow]
  show bits.toNat / 2 ^ 63 % 2 ^ 1 = bits.toNat / 2 ^ 63
  omega

end Bits

/-- A significand and an exponent as they are stored for a finite float other than zero: the
highest bit is set, unless the exponent is the least one. -/
structure Stored (significand : Nat) (exponent : Int) : Prop where
  positive : 0 < significand
  small : significand < 2 ^ 53
  least : -1074 ≤ exponent
  most : exponent ≤ 971
  leading : 2 ^ 52 ≤ significand ∨ exponent = -1074

theorem Stored.normal {significand : Nat} {exponent : Int} (stored : Stored significand exponent)
    (large : 2 ^ 52 ≤ significand) : Normal significand exponent :=
  ⟨large, stored.small, stored.least, stored.most⟩

/-- Whether a sign is a minus. -/
def isMinus : Sign → Bool
  | .negative => true
  | .positive => false

/-- An unpacked float in the form in which it is stored, with its parts. -/
inductive Parts : UnpackedFloat → Binary → Prop where
  | nan : Parts .notANumber .nan
  | infinite (sign : Sign) : Parts (.infinity sign) (.infinite (isMinus sign))
  | zero (sign : Sign) : Parts (.zero sign) (.finite (isMinus sign) 0 (-1074))
  | finite (sign : Sign) {significand : Nat} {exponent : Int}
      (stored : Stored significand exponent) :
      Parts (.finite sign significand exponent stored.positive)
        (.finite (isMinus sign) significand exponent)

section Packing

variable {significand : Nat} {exponent : Int}

theorem pack_subnormal (sign : Sign) (positive : 0 < significand) (small : significand < 2 ^ 52) :
    UnpackedFloat.pack Format.binary64 (.finite sign significand (-1074) positive) =
      packComponents Format.binary64 sign 0#11 (BitVec.ofNat 52 significand) := by
  have bits : Format.binary64.mantissaBits = 53 := by decide
  have lower : significand.log2 < 52 := (Nat.log2_lt (Nat.ne_of_gt positive)).mpr small
  have few : ¬significand.log2 + 1 = 53 := by omega
  rw [UnpackedFloat.pack]
  simp only [bits]
  rw [if_neg (by decide), if_neg few]

end Packing

section Floats

variable {bits : BitVec Format.binary64.numBits}

theorem unpackExponent_eq_ones_iff :
    unpackExponent bits = -1#_ ↔ bits.toNat / 2 ^ 52 % 2 ^ 11 = 2 ^ 11 - 1 := by
  rw [← BitVec.toNat_inj, toNat_unpackExponent]
  exact Iff.rfl

theorem unpackExponent_eq_zero_iff :
    unpackExponent bits = 0#_ ↔ bits.toNat / 2 ^ 52 % 2 ^ 11 = 0 := by
  rw [← BitVec.toNat_inj, toNat_unpackExponent]
  exact Iff.rfl

theorem unpackMantissa_eq_zero_iff :
    unpackMantissa bits = 0#_ ↔ bits.toNat % 2 ^ 52 = 0 := by
  rw [← BitVec.toNat_inj, toNat_unpackMantissa]
  exact Iff.rfl

theorem isMinus_unpackSign :
    isMinus (Sign.ofBitVec (unpackSign bits)) = (bits.toNat / 2 ^ 63 == 1) := by
  rw [← toNat_unpackSign]
  generalize unpackSign bits = bit
  revert bit
  decide

/-- The content of bits, from their stored exponent and their fraction. -/
theorem ofFloat_eq {x : Float} (same : x.toBits.toNat = bits.toNat) :
    Binary.ofFloat x =
      if bits.toNat / 2 ^ 52 % 2 ^ 11 = 2 ^ 11 - 1 then
        if bits.toNat % 2 ^ 52 = 0 then .infinite (isMinus (Sign.ofBitVec (unpackSign bits)))
        else .nan
      else if bits.toNat / 2 ^ 52 % 2 ^ 11 = 0 then
        .finite (isMinus (Sign.ofBitVec (unpackSign bits))) (bits.toNat % 2 ^ 52) (-1074)
      else
        .finite (isMinus (Sign.ofBitVec (unpackSign bits))) (2 ^ 52 + bits.toNat % 2 ^ 52)
          ((bits.toNat / 2 ^ 52 % 2 ^ 11 : Nat) - 1075) := by
  have word : twoTo 63 = 2 ^ 63 := rfl
  have mantissa : twoTo 52 = 2 ^ 52 := rfl
  have exponents : twoTo 11 = 2 ^ 11 := rfl
  rw [isMinus_unpackSign]
  simp only [Binary.ofFloat, same, word, mantissa, exponents, beq_iff_eq]

/-- The parts of a float are those of its unpacked form, and that is the stored one. -/
theorem parts_of_toNat {x : Float} (same : x.toBits.toNat = bits.toNat) :
    Parts (UnpackedFloat.unpack Format.binary64 bits) (Binary.ofFloat x) := by
  have bias : ((Format.binary64.exponentBias : Nat) : Int) = 1023 := by decide
  have fraction := toNat_unpackMantissa bits
  have exponent := toNat_unpackExponent bits
  have whole : (1#1 ++ unpackMantissa bits).toNat = 2 ^ 52 + bits.toNat % 2 ^ 52 := by
    rw [BitVec.toNat_append, ← Nat.shiftLeft_add_eq_or_of_lt (BitVec.isLt _), fraction]
    rfl
  have below : bits.toNat % 2 ^ 52 < 2 ^ 52 := Nat.mod_lt _ (Nat.two_pow_pos 52)
  have someExponent : bits.toNat / 2 ^ 52 % 2 ^ 11 < 2 ^ 11 := Nat.mod_lt _ (Nat.two_pow_pos 11)
  rw [ofFloat_eq same, UnpackedFloat.unpack]
  by_cases noNumber : bits.toNat / 2 ^ 52 % 2 ^ 11 = 2 ^ 11 - 1
  · rw [if_pos noNumber, if_pos (unpackExponent_eq_ones_iff.mpr noNumber)]
    by_cases noFraction : bits.toNat % 2 ^ 52 = 0
    · rw [if_pos noFraction, if_pos (unpackMantissa_eq_zero_iff.mpr noFraction)]
      exact .infinite _
    · rw [if_neg noFraction, if_neg (mt unpackMantissa_eq_zero_iff.mp noFraction)]
      exact .nan
  rw [if_neg noNumber, if_neg (mt unpackExponent_eq_ones_iff.mp noNumber)]
  by_cases least : bits.toNat / 2 ^ 52 % 2 ^ 11 = 0
  · rw [if_pos least, if_pos (unpackExponent_eq_zero_iff.mpr least)]
    by_cases noFraction : bits.toNat % 2 ^ 52 = 0
    · rw [dif_pos (unpackMantissa_eq_zero_iff.mpr noFraction), noFraction]
      exact .zero _
    · have place : ((unpackExponent bits).toNat : Int) - (1023 + (52 : Nat)) + 1 = -1074 := by
        omega
      rw [dif_neg (mt unpackMantissa_eq_zero_iff.mp noFraction)]
      simp only [fraction, bias, place]
      exact .finite _ ⟨by omega, by omega, by omega, by omega, Or.inr rfl⟩
  · have place : ((unpackExponent bits).toNat : Int) - (1023 + (52 : Nat)) =
        (bits.toNat / 2 ^ 52 % 2 ^ 11 : Nat) - 1075 := by omega
    rw [if_neg least, if_neg (mt unpackExponent_eq_zero_iff.mp least)]
    simp only [whole, bias, place]
    exact .finite _ ⟨by omega, by omega, by omega, by omega, Or.inl (by omega)⟩

theorem parts_ofFloat (x : Float) : Parts x.toModel.unpack (Binary.ofFloat x) :=
  parts_of_toNat rfl

/-- Unpacked and packed again, a float is the same. -/
theorem pack_unpack (x : Float.Model) : Float.Model.pack x.unpack = x := by
  obtain ⟨bits, valid⟩ := x
  rw [Float.Model.mk.injEq]
  exact congrArg UInt64.ofBitVec (pack_unpack_of_valid valid)

theorem isMinus_injective {sign other : Sign} (same : isMinus sign = isMinus other) :
    sign = other := by
  cases sign <;> cases other <;> first | rfl | cases same

theorem Parts.unique {unpacked other : UnpackedFloat} {content otherContent : Binary}
    (first : Parts unpacked content) (second : Parts other otherContent)
    (same : content = otherContent) : unpacked = other := by
  cases first with
  | nan =>
      cases second with
      | nan => rfl
      | infinite | zero | finite => cases same
  | infinite sign =>
      cases second with
      | infinite otherSign => rw [isMinus_injective (Binary.infinite.inj same)]
      | nan | zero | finite => cases same
  | zero sign =>
      cases second with
      | zero otherSign => rw [isMinus_injective (Binary.finite.inj same).1]
      | finite otherSign stored =>
          exact absurd (Binary.finite.inj same).2.1 (Nat.ne_of_lt stored.positive)
      | nan | infinite => cases same
  | finite sign stored =>
      cases second with
      | zero otherSign => exact absurd (Binary.finite.inj same).2.1 (Nat.ne_of_gt stored.positive)
      | finite otherSign otherStored =>
          obtain ⟨sameSign, rfl, rfl⟩ := Binary.finite.inj same
          rw [isMinus_injective sameSign]
      | nan | infinite => cases same

/-- An unpacked form in which a float is stored has one content. -/
theorem Parts.content_eq {unpacked other : UnpackedFloat} {content otherContent : Binary}
    (first : Parts unpacked content) (same : unpacked = other)
    (second : Parts other otherContent) : content = otherContent := by
  subst same
  cases second <;> cases first <;> rfl

theorem eq_of_toModel_unpack_eq {x y : Float} (same : x.toModel.unpack = y.toModel.unpack) :
    x = y := by
  obtain ⟨x⟩ := x
  obtain ⟨y⟩ := y
  rw [← pack_unpack x, ← pack_unpack y]
  exact congrArg (fun unpacked => Float.ofModel (Float.Model.pack unpacked)) same

/-- Floats with the same parts are the same. -/
theorem ofFloat_injective {x y : Float} (same : Binary.ofFloat x = Binary.ofFloat y) : x = y :=
  eq_of_toModel_unpack_eq ((parts_ofFloat x).unique (parts_ofFloat y) same)

theorem unpack_pack_subnormal {significand : Nat} (sign : Sign) (positive : 0 < significand)
    (small : significand < 2 ^ 52) :
    UnpackedFloat.unpack Format.binary64
        (UnpackedFloat.pack Format.binary64 (.finite sign significand (-1074) positive)) =
      .finite sign significand (-1074) positive := by
  have bias : ((Format.binary64.exponentBias : Nat) : Int) = 1023 := by decide
  have fraction : (BitVec.ofNat 52 significand).toNat = significand := by
    rw [BitVec.toNat_ofNat]
    omega
  have someFraction : BitVec.ofNat 52 significand ≠ 0#52 := fun none =>
    Nat.ne_of_gt positive (fraction.symm.trans (congrArg BitVec.toNat none))
  rw [pack_subnormal sign positive small, UnpackedFloat.unpack]
  simp only [unpackExponent_packComponents, unpackMantissa_packComponents,
    UnpackedFloat.unpackSign_packComponents, Sign.ofBitVec_toBitVec]
  rw [if_neg (by decide), if_pos trivial, dif_neg someFraction]
  simp only [fraction, bias]
  rfl

/-- Packed and unpacked again, stored parts are the same. -/
theorem Parts.unpack_pack {unpacked : UnpackedFloat} {content : Binary}
    (parts : Parts unpacked content) : (Float.Model.pack unpacked).unpack = unpacked := by
  cases parts with
  | nan => rfl
  | infinite sign => cases sign <;> rfl
  | zero sign => cases sign <;> rfl
  | @finite sign significand exponent stored =>
      by_cases large : 2 ^ 52 ≤ significand
      · exact Cell.unpack_pack (stored.normal large) sign
      · obtain rfl := stored.leading.resolve_left large
        exact unpack_pack_subnormal sign stored.positive (Nat.lt_of_not_le large)

theorem Parts.exists_neg {unpacked : UnpackedFloat} {content : Binary}
    (parts : Parts unpacked content) : ∃ other, Parts unpacked.neg other := by
  cases parts with
  | nan => exact ⟨_, .nan⟩
  | infinite sign => exact ⟨_, .infinite (-sign)⟩
  | zero sign => exact ⟨_, .zero (-sign)⟩
  | finite sign stored => exact ⟨_, .finite (-sign) stored⟩

theorem unpack_neg (x : Float) : (-x).toModel.unpack = x.toModel.unpack.neg := by
  obtain ⟨content, negated⟩ := (parts_ofFloat x).exists_neg
  exact negated.unpack_pack

/-- A float has the sign it had, after its sign is changed twice. -/
theorem neg_neg_float (x : Float) : - -x = x := by
  apply eq_of_toModel_unpack_eq
  rw [unpack_neg, unpack_neg]
  cases x.toModel.unpack with
  | notANumber => rfl
  | infinity sign => cases sign <;> rfl
  | zero sign => cases sign <;> rfl
  | finite sign => cases sign <;> rfl

/-- There are two zeros. -/
theorem eq_zero_of_unpack {x : Float} {sign : Sign} (unpacked : x.toModel.unpack = .zero sign) :
    x = if isMinus sign then -0.0 else 0.0 := by
  apply ofFloat_injective
  rw [(parts_ofFloat x).content_eq unpacked (.zero sign)]
  cases sign <;> decide +kernel

end Floats

end LogPipe.Decimal

/-!
## Floats as numbers

A finite float stands for a significand times a power of two.  In stored form the exponent
decides before the significand, and so floats are compared as the numbers they stand for.  Two
floats that stand for one number are one float, up to the sign of zero.
-/

namespace LogPipe.Decimal

open Float.Model Float.Model.UnpackedFloat Cell

section Stored

variable {significand other : Nat} {exponent place : Int}

theorem Stored.lt_of_exponent_lt (stored : Stored significand exponent)
    (otherStored : Stored other place) (less : exponent < place) :
    (significand : ℚ) * 2 ^ exponent < other * 2 ^ place := by
  have least := stored.least
  have large : 2 ^ 52 ≤ other := otherStored.leading.resolve_right (by omega)
  calc
    (significand : ℚ) * 2 ^ exponent < 2 ^ 53 * 2 ^ exponent := by
      have small : (significand : ℚ) < 2 ^ 53 := by exact_mod_cast stored.small
      gcongr
    _ = 2 ^ 52 * 2 ^ (exponent + 1) := by
      rw [zpow_add₀ two_ne_zero]
      ring
    _ ≤ other * 2 ^ place := by
      have enough : (2 : ℚ) ^ 52 ≤ other := by exact_mod_cast large
      gcongr
      · exact one_le_two
      · omega

/-- Stored parts are ordered as the numbers they stand for: the exponent decides first. -/
theorem Stored.compare_eq (stored : Stored significand exponent)
    (otherStored : Stored other place) :
    (compare exponent place).then (compare significand other) =
      compare ((significand : ℚ) * 2 ^ exponent) (other * 2 ^ place) := by
  obtain less | rfl | more := Int.lt_trichotomy exponent place
  · rw [Int.compare_eq_lt.mpr less, Ordering.lt_then]
    exact (compare_lt_iff_lt.mpr (stored.lt_of_exponent_lt otherStored less)).symm
  · have power : (0 : ℚ) < 2 ^ exponent := by positivity
    rw [Int.compare_eq_eq.mpr rfl, Ordering.eq_then]
    obtain less | rfl | more := Nat.lt_trichotomy significand other
    · rw [Nat.compare_eq_lt.mpr less, eq_comm, compare_lt_iff_lt, mul_lt_mul_iff_left₀ power]
      exact_mod_cast less
    · rw [Nat.compare_eq_eq.mpr rfl, eq_comm, compare_eq_iff_eq]
    · rw [Nat.compare_eq_gt.mpr more, eq_comm, compare_gt_iff_gt, mul_lt_mul_iff_left₀ power]
      exact_mod_cast more
  · rw [Int.compare_eq_gt.mpr more, Ordering.gt_then]
    exact (compare_gt_iff_gt.mpr (otherStored.lt_of_exponent_lt stored more)).symm

/-- A number is stored in one way. -/
theorem Stored.unique (stored : Stored significand exponent) (otherStored : Stored other place)
    (same : (significand : ℚ) * 2 ^ exponent = other * 2 ^ place) :
    significand = other ∧ exponent = place := by
  have compared := stored.compare_eq otherStored
  rw [same, compare_eq_iff_eq.mpr rfl, Ordering.then_eq_eq] at compared
  exact ⟨Nat.compare_eq_eq.mp compared.2, Int.compare_eq_eq.mp compared.1⟩

theorem Stored.value_pos (stored : Stored significand exponent) :
    (0 : ℚ) < significand * 2 ^ exponent := by
  have positive : (0 : ℚ) < significand := by exact_mod_cast stored.positive
  positivity

end Stored

section Numbers

/-- Below zero the order is turned around. -/
theorem compare_neg (left right : ℚ) : compare (-left) (-right) = (compare left right).swap := by
  obtain less | rfl | more := lt_trichotomy left right
  · rw [compare_lt_iff_lt.mpr less, compare_gt_iff_gt.mpr (neg_lt_neg less)]
    rfl
  · rw [compare_eq_iff_eq.mpr rfl, compare_eq_iff_eq.mpr rfl]
    rfl
  · rw [compare_gt_iff_gt.mpr more, compare_lt_iff_lt.mpr (neg_lt_neg more)]
    rfl

/-- The number that a finite float in stored form stands for. -/
inductive Denotes : UnpackedFloat → ℚ → Prop where
  | zero (sign : Sign) : Denotes (.zero sign) 0
  | positive {significand : Nat} {exponent : Int} (stored : Stored significand exponent) :
      Denotes (.finite .positive significand exponent stored.positive) (significand * 2 ^ exponent)
  | negative {significand : Nat} {exponent : Int} (stored : Stored significand exponent) :
      Denotes (.finite .negative significand exponent stored.positive)
        (-(significand * 2 ^ exponent))

variable {unpacked other : UnpackedFloat} {content : Binary} {value otherValue : ℚ}

theorem denotes_of_parts (parts : Parts unpacked content) (stands : content.value? = some value) :
    Denotes unpacked value := by
  cases parts with
  | nan => cases stands
  | infinite => cases stands
  | zero sign =>
      rw [Binary.value?, Option.some_inj] at stands
      obtain rfl : 0 = value := by
        rw [← stands, Binary.signed_cast]
        simp
      exact .zero sign
  | finite sign stored =>
      rw [Binary.value?, Binary.signed_cast, Option.some_inj] at stands
      subst stands
      cases sign with
      | positive => exact .positive stored
      | negative =>
          rw [isMinus, if_pos rfl, neg_mul]
          exact .negative stored

theorem Denotes.value?_of_parts (denotes : Denotes unpacked value)
    (parts : Parts unpacked content) : content.value? = some value := by
  cases denotes with
  | zero sign =>
      cases parts
      cases sign <;> simp [Binary.value?, Binary.signed, isMinus]
  | positive stored =>
      cases parts
      simp [Binary.value?, Binary.signed, isMinus]
  | negative stored =>
      cases parts
      simp [Binary.value?, Binary.signed, isMinus]

theorem Denotes.exists_parts (denotes : Denotes unpacked value) :
    ∃ content, Parts unpacked content := by
  cases denotes with
  | zero sign => exact ⟨_, .zero sign⟩
  | positive stored => exact ⟨_, .finite .positive stored⟩
  | negative stored => exact ⟨_, .finite .negative stored⟩

theorem Denotes.zero_or_finite (denotes : Denotes unpacked value) :
    (∃ sign, unpacked = .zero sign ∧ value = 0) ∨
      ∃ sign significand exponent, ∃ stored : Stored significand exponent,
        unpacked = .finite sign significand exponent stored.positive ∧
          |value| = significand * 2 ^ exponent := by
  cases denotes with
  | zero sign => exact Or.inl ⟨sign, rfl, rfl⟩
  | positive stored =>
      exact Or.inr ⟨.positive, _, _, stored, rfl, abs_of_pos stored.value_pos⟩
  | negative stored =>
      refine Or.inr ⟨.negative, _, _, stored, rfl, ?_⟩
      rw [abs_neg, abs_of_pos stored.value_pos]

/-- Stored floats are compared as the numbers that they stand for. -/
theorem Denotes.compare_eq (denotes : Denotes unpacked value) (others : Denotes other otherValue) :
    unpacked.compare other = some (compare value otherValue) := by
  cases denotes with
  | zero sign =>
      cases others with
      | zero => exact congrArg some (compare_eq_iff_eq.mpr rfl).symm
      | positive stored => exact congrArg some (compare_lt_iff_lt.mpr stored.value_pos).symm
      | negative stored =>
          exact congrArg some (compare_gt_iff_gt.mpr (neg_neg_of_pos stored.value_pos)).symm
  | positive stored =>
      have above := stored.value_pos
      cases others with
      | zero => exact congrArg some (compare_gt_iff_gt.mpr above).symm
      | positive otherStored => exact congrArg some (stored.compare_eq otherStored)
      | negative otherStored =>
          have below := neg_neg_of_pos otherStored.value_pos
          exact congrArg some (compare_gt_iff_gt.mpr (below.trans above)).symm
  | negative stored =>
      have below := neg_neg_of_pos stored.value_pos
      cases others with
      | zero => exact congrArg some (compare_lt_iff_lt.mpr below).symm
      | positive otherStored =>
          exact congrArg some (compare_lt_iff_lt.mpr (below.trans otherStored.value_pos)).symm
      | negative otherStored =>
          rw [compare_neg, ← stored.compare_eq otherStored]
          rfl

/-- A number other than zero is stored in one way. -/
theorem Denotes.unique (denotes : Denotes unpacked value) (others : Denotes other otherValue)
    (same : value = otherValue) (some : value ≠ 0) : unpacked = other := by
  cases denotes with
  | zero => exact absurd rfl some
  | positive stored =>
      have above := stored.value_pos
      cases others with
      | zero => exact absurd same some
      | positive otherStored =>
          obtain ⟨rfl, rfl⟩ := stored.unique otherStored same
          rfl
      | negative otherStored =>
          exact absurd same ((neg_neg_of_pos otherStored.value_pos).trans above).ne'
  | negative stored =>
      have below := neg_neg_of_pos stored.value_pos
      cases others with
      | zero => exact absurd same some
      | positive otherStored => exact absurd same (below.trans otherStored.value_pos).ne
      | negative otherStored =>
          obtain ⟨rfl, rfl⟩ := stored.unique otherStored (neg_injective same)
          rfl

theorem Denotes.abs (denotes : Denotes unpacked value) : Denotes unpacked.abs |value| := by
  cases denotes with
  | zero =>
      rw [abs_zero]
      exact .zero .positive
  | positive stored =>
      rw [abs_of_pos stored.value_pos]
      exact .positive stored
  | negative stored =>
      rw [abs_neg, abs_of_pos stored.value_pos]
      exact .positive stored

end Numbers

section Floats

variable {x y : Float} {value otherValue : ℚ}

theorem denotes (stands : (Binary.ofFloat x).value? = some value) :
    Denotes x.toModel.unpack value :=
  denotes_of_parts (parts_ofFloat x) stands

theorem value?_of_denotes (denotes : Denotes x.toModel.unpack value) :
    (Binary.ofFloat x).value? = some value :=
  denotes.value?_of_parts (parts_ofFloat x)

/-- Two finite floats are compared as the numbers that they stand for. -/
theorem ieeeOrder_of_value? (stands : (Binary.ofFloat x).value? = some value)
    (otherStands : (Binary.ofFloat y).value? = some otherValue) :
    ieeeOrder x y = some (compare value otherValue) :=
  (denotes stands).compare_eq (denotes otherStands)

theorem lt_iff_of_value? (stands : (Binary.ofFloat x).value? = some value)
    (otherStands : (Binary.ofFloat y).value? = some otherValue) : x < y ↔ value < otherValue := by
  rw [lt_iff_ieeeOrder, ieeeOrder_of_value? stands otherStands, Option.some_inj, compare_lt_iff_lt]

theorem value?_abs (stands : (Binary.ofFloat x).value? = some value) :
    (Binary.ofFloat x.abs).value? = some |value| := by
  have magnitude := (denotes stands).abs
  obtain ⟨content, parts⟩ := magnitude.exists_parts
  apply value?_of_denotes
  show Denotes (Float.Model.pack x.toModel.unpack.abs).unpack |value|
  rwa [parts.unpack_pack]

/-- Floats that stand for one number other than zero are one float. -/
theorem eq_of_value? (stands : (Binary.ofFloat x).value? = some value)
    (otherStands : (Binary.ofFloat y).value? = some value) (some : value ≠ 0) : x = y :=
  eq_of_toModel_unpack_eq ((denotes stands).unique (denotes otherStands) rfl some)

/-- A scaled significand that is whole is whole with its sign, too. -/
theorem signed_scaled {significand whole : Nat} {exponent : Int} (negative : Bool)
    (same : (significand : ℚ) * 2 ^ exponent = whole) :
    (Binary.signed negative significand : ℚ) * 2 ^ exponent = Binary.signed negative whole := by
  rw [Binary.signed_cast, Binary.signed_cast, ← same]
  split <;> ring

theorem dvd_signed_iff {divisor significand : Nat} {negative : Bool} :
    (divisor : Int) ∣ Binary.signed negative significand ↔ divisor ∣ significand := by
  rw [← Int.natCast_dvd_natCast]
  cases negative with
  | false => exact Iff.rfl
  | true => exact Int.dvd_neg

/-- A content is read as an integer exactly when it stands for that integer. -/
theorem toInt?_eq_some_iff {content : Binary} {number : Int} :
    content.toInt? = some number ↔ content.value? = some (number : ℚ) := by
  cases content with
  | nan => simp [Binary.toInt?, Binary.value?]
  | infinite negative => simp [Binary.toInt?, Binary.value?]
  | finite negative significand exponent =>
      rw [Binary.toInt?, Binary.value?, Option.some_inj]
      split
      · next atLeast =>
          obtain ⟨lift, rfl⟩ := Int.eq_ofNat_of_zero_le atLeast
          have power : twoTo (lift : Int).toNat = 2 ^ lift := rfl
          have whole : (significand : ℚ) * 2 ^ (lift : Int) = (significand * 2 ^ lift : Nat) := by
            push_cast
            rfl
          rw [Option.some_inj, power, signed_scaled negative whole, Int.cast_inj]
      · next below =>
          obtain ⟨down, rfl⟩ : ∃ down : Nat, exponent = -down := ⟨exponent.natAbs, by omega⟩
          have power : twoTo (- -(down : Int)).toNat = 2 ^ down := by
            rw [neg_neg]
            rfl
          have positive : (0 : ℚ) < 2 ^ down := by positivity
          simp only [power, beq_iff_eq]
          split
          · next divides =>
              have whole : (significand : ℚ) * 2 ^ (-(down : Int)) =
                  (significand / 2 ^ down : Nat) := by
                rw [zpow_neg, zpow_natCast, Nat.cast_div (Nat.dvd_of_mod_eq_zero divides)
                  (by positivity), div_eq_mul_inv]
                push_cast
                rfl
              rw [Option.some_inj, signed_scaled negative whole, Int.cast_inj]
          · next fraction =>
              refine iff_of_false (Option.some_ne_none number).symm fun same => fraction ?_
              rw [zpow_neg, zpow_natCast, ← div_eq_mul_inv, div_eq_iff positive.ne'] at same
              have exact : Binary.signed negative significand = number * (2 ^ down : Nat) := by
                exact_mod_cast same
              exact Nat.mod_eq_zero_of_dvd
                (dvd_signed_iff.mp ⟨number, exact.trans (Int.mul_comm _ _)⟩)

end Floats

end LogPipe.Decimal
