import LogPipe.Decimal.Reading
import Mathlib.Algebra.GroupWithZero.Nat

/-!
# Written integers

The decimal digits of a natural number are read back as the number, and only zero is
written with a zero in front.  So every 64-bit integer is read back from its text.
-/

namespace LogPipe.Decimal

theorem digitsValue_eq (digits : List Char) : digitsValue digits = Nat.ofDigitChars 10 digits 0 :=
  rfl

theorem isDigit_eq (c : Char) : isDigit c = c.isDigit := by
  rw [isDigit, Char.isDigit]
  rfl

theorem toNat_of_isDigit {c : Char} (digit : isDigit c = true) : 48 ≤ c.toNat ∧ c.toNat ≤ 57 := by
  rwa [isDigit, Bool.and_eq_true, decide_eq_true_eq, decide_eq_true_eq] at digit

theorem isBlank_of_isDigit {c : Char} (digit : isDigit c = true) : Text.isBlank c = false := by
  obtain ⟨low, high⟩ := toNat_of_isDigit digit
  simp only [Text.isBlank, Bool.or_eq_false_iff, Bool.and_eq_false_iff, decide_eq_false_iff_not,
    beq_eq_false_iff_ne]
  omega

theorem isDigit_of_above {c : Char} (above : 57 < c.val.toNat) : c.isDigit = false := by
  rw [Char.isDigit, Bool.and_eq_false_iff, decide_eq_false_iff_not, decide_eq_false_iff_not]
  exact Or.inr (Nat.not_le.mpr above)

/-- Letters stay letters in lower case. -/
theorem isDigit_toLower (c : Char) : isDigit c.toLower = isDigit c := by
  rw [isDigit_eq, isDigit_eq]
  delta Char.toLower
  split
  · next upper =>
      obtain ⟨least, most⟩ : 65 ≤ c.val.toNat ∧ c.val.toNat ≤ 90 := upper
      have step : ('a'.val - 'A'.val).toNat = 32 := by decide
      have lowered : (c.val + ('a'.val - 'A'.val)).toNat = c.val.toNat + 32 := by
        rw [UInt32.toNat_add, step]
        exact Nat.mod_eq_of_lt (by omega)
      have above : 57 < (c.val + ('a'.val - 'A'.val)).toNat := by omega
      rw [isDigit_of_above above, isDigit_of_above (by omega)]
  · rfl

theorem digitsValue_toDigits (number : Nat) : digitsValue (Nat.toDigits 10 number) = number := by
  rw [digitsValue_eq]
  exact Nat.ofDigitChars_toDigits (by decide) (by decide)

theorem digitsValue_append_zeros (digits : List Char) (count : Nat) :
    digitsValue (digits ++ List.replicate count '0') = digitsValue digits * 10 ^ count := by
  rw [digitsValue_eq, digitsValue_eq, Nat.ofDigitChars_append, Nat.ofDigitChars_replicate_zero,
    Nat.mul_comm]

theorem digitsValue_zeros_append (count : Nat) (digits : List Char) :
    digitsValue (List.replicate count '0' ++ digits) = digitsValue digits := by
  rw [digitsValue_eq, digitsValue_eq, Nat.ofDigitChars_append, Nat.ofDigitChars_replicate_zero,
    Nat.mul_zero]

theorem isDigit_of_mem_zeros {count : Nat} {c : Char} (member : c ∈ List.replicate count '0') :
    isDigit c = true := by
  rw [List.eq_of_mem_replicate member]
  decide

theorem isDigit_of_mem_toDigits {number : Nat} {c : Char} (member : c ∈ Nat.toDigits 10 number) :
    isDigit c = true := by
  rw [isDigit_eq]
  exact Nat.isDigit_of_mem_toDigits (by decide) (by decide) member

theorem toDigits_ne_nil (number : Nat) : Nat.toDigits 10 number ≠ [] := by
  rw [Nat.toDigits_eq_if (by decide)]
  split
  · exact List.cons_ne_nil _ _
  · exact List.append_ne_nil_of_right_ne_nil _ (List.cons_ne_nil _ _)

/-- A positive number is not written with a zero in front. -/
theorem head?_toDigits_ne_zero {number : Nat} (positive : 0 < number) :
    (Nat.toDigits 10 number).head? ≠ some '0' := by
  induction number using Nat.strongRecOn with
  | ind number induction =>
      rw [Nat.toDigits_eq_if (by decide)]
      split
      · next small =>
          have single : ∀ digit < 10, 0 < digit → [Nat.digitChar digit].head? ≠ some '0' := by
            decide
          exact single number small positive
      · next large =>
          have shorter := induction (number / 10) (by omega) (by omega)
          cases front : (Nat.toDigits 10 (number / 10)).head? with
          | none => exact absurd (List.head?_eq_none_iff.mp front) (toDigits_ne_nil _)
          | some c =>
              rw [front] at shorter
              rwa [List.head?_append, front, Option.some_or]

/-- The text of an integer: a sign where it is negative, and the digits of its size. -/
theorem toList_toString (value : Int) :
    (toString value).toList =
      if value < 0 then '-' :: Nat.toDigits 10 value.natAbs else Nat.toDigits 10 value.natAbs := by
  rw [Int.toString_eq_repr]
  cases value with
  | ofNat number =>
      have unsigned : ¬Int.ofNat number < 0 := Int.not_lt.mpr (Int.natCast_nonneg number)
      rw [if_neg unsigned]
      exact Nat.toList_repr
  | negSucc number =>
      rw [if_pos (Int.negSucc_lt_zero number), Int.natAbs_negSucc, ← Nat.toList_repr]
      exact String.toList_append

/-- A number without a sign starts with a digit or with a point. -/
def StartsNumber (c : Char) : Prop :=
  isDigit c = true ∨ c = '.'

theorem StartsNumber.readSign {c : Char} (starts : StartsNumber c) (rest : List Char) :
    readSign (c :: rest) = (false, c :: rest) := by
  rw [readSign.eq_def]
  split
  · next same =>
      cases same
      exact absurd starts (by simp [StartsNumber, isDigit])
  · next same =>
      cases same
      exact absurd starts (by simp [StartsNumber, isDigit])
  · rfl

theorem readSign_of_isDigit {digits : List Char} (each : ∀ c ∈ digits, isDigit c = true) :
    readSign digits = (false, digits) := by
  cases digits with
  | nil => rfl
  | cons c digits => exact StartsNumber.readSign (Or.inl (each c List.mem_cons_self)) digits

theorem readInt?_of_readSign {text digits : List Char} {negative : Bool}
    (signed : readSign text = (negative, digits)) (someDigit : digits ≠ [])
    (each : ∀ c ∈ digits, isDigit c = true) :
    readInt? text =
      some (if negative then -(digitsValue digits : Int) else digitsValue digits) := by
  have accepted : (digits.isEmpty || !digits.all isDigit) = false := by
    rw [List.isEmpty_eq_false_iff.mpr someDigit, List.all_eq_true.mpr each]
    rfl
  rw [readInt?, signed]
  simp only [accepted, Bool.false_eq_true, if_false]

theorem readInt?_toString (value : Int) : readInt? (toString value).toList = some value := by
  have each : ∀ c ∈ Nat.toDigits 10 value.natAbs, isDigit c = true :=
    fun c member => isDigit_of_mem_toDigits member
  have read {text : List Char} {negative : Bool}
      (signed : readSign text = (negative, Nat.toDigits 10 value.natAbs)) :=
    readInt?_of_readSign signed (toDigits_ne_nil _) each
  rw [toList_toString]
  by_cases negative : value < 0
  · rw [if_pos negative, read rfl, digitsValue_toDigits, if_pos rfl]
    exact congrArg some (by omega)
  · rw [if_neg negative, read (readSign_of_isDigit each), digitsValue_toDigits,
      if_neg Bool.false_ne_true]
    exact congrArg some (by omega)

/-- The numbers that 64-bit integers have. -/
def InRange (value : Int) : Prop :=
  Int64.minValue.toInt ≤ value ∧ value ≤ Int64.maxValue.toInt

instance (value : Int) : Decidable (InRange value) :=
  inferInstanceAs (Decidable (_ ∧ _))

theorem inRange_toInt (value : Int64) : InRange value.toInt :=
  ⟨value.minValue_le_toInt, value.toInt_le⟩

theorem toInt_ofInt_of_inRange {value : Int} (inRange : InRange value) :
    (Int64.ofInt value).toInt = value := by
  obtain ⟨least, most⟩ := inRange
  exact Int64.toInt_ofInt_of_le (Int.le_trans (by decide) least)
    (Int.lt_of_le_of_lt most (by decide))

theorem int64?_eq (value : Int) :
    int64? value = if InRange value then some (Int64.ofInt value) else none := by
  have inside : (Int64.minValue.toInt ≤ value && value ≤ Int64.maxValue.toInt) = true ↔
      InRange value := by
    rw [Bool.and_eq_true, decide_eq_true_eq, decide_eq_true_eq]
    rfl
  simp only [int64?, inside]

theorem int64?_of_inRange {value : Int} (inRange : InRange value) :
    int64? value = some (Int64.ofInt value) := by
  rw [int64?_eq, if_pos inRange]

theorem int64?_of_not_inRange {value : Int} (tooLarge : ¬InRange value) : int64? value = none := by
  rw [int64?_eq, if_neg tooLarge]

theorem int64?_toInt (value : Int64) : int64? value.toInt = some value := by
  rw [int64?_of_inRange (inRange_toInt value), value.ofInt_toInt]

theorem readInt64?_toString (value : Int64) :
    readInt64? (toString value.toInt).toList = some value := by
  rw [readInt64?, readInt?_toString]
  exact int64?_toInt value

/-! ## Behind the digits
A number that starts with digits goes on with a point or an exponent, and otherwise it starts
with a sign or is a word.
-/

/-- Behind the digits of a number there is a point or the mark of an exponent, if anything. -/
theorem head_of_readMagnitude? {text : List Char}
    (read : (readMagnitude? text).isSome = true) :
    ∀ c ∈ (text.dropWhile isDigit).head?, c.toLower ∈ ['.', 'e'] := by
  rw [readMagnitude?] at read
  split at read
  next whole fraction rest split =>
  split at split
  · next tail behind =>
      rw [behind]
      rintro c ⟨⟩
      decide
  · next behind =>
      cases split
      split at read
      · cases read
      · rw [Option.isSome_map] at read
        rintro c head
        cases after : text.dropWhile isDigit with
        | nil =>
            rw [after] at head
            cases head
        | cons first later =>
            rw [after] at head
            cases head
            rw [after, readExponent?] at read
            split at read
            · next mark =>
                rw [Bool.or_eq_true, beq_iff_eq, beq_iff_eq] at mark
                obtain rfl | rfl := mark <;> decide
            · cases read

/-- The words that stand for numbers. -/
theorem map_toLower_of_readSpecial? {text : List Char}
    (read : (readSpecial? text).isSome = true) :
    text.map Char.toLower ∈ ["inf", "infinity", "nan"].map String.toList := by
  have words : String.ofList (text.map Char.toLower) ∈ ["inf", "infinity", "nan"] := by
    rw [readSpecial?] at read
    split at read
    · next infinite =>
        rw [Bool.or_eq_true, beq_iff_eq, beq_iff_eq] at infinite
        obtain same | same := infinite <;> simp [same]
    · split at read
      · next same => simp [beq_iff_eq.mp same]
      · cases read
  have listed := List.mem_map_of_mem (f := String.toList) words
  rwa [String.toList_ofList] at listed

/-- They start with one of two letters. -/
theorem head_of_readSpecial? {text : List Char}
    (read : (readSpecial? text).isSome = true) :
    ∀ c ∈ ((text.map Char.toLower).dropWhile isDigit).head?, c ∈ ['i', 'n'] := by
  have spelled := map_toLower_of_readSpecial? read
  revert spelled
  generalize text.map Char.toLower = lower
  revert lower
  simp only [List.map_cons, List.map_nil, List.mem_cons, List.not_mem_nil, or_false,
    forall_eq_or_imp, forall_eq]
  refine ⟨?_, ?_, ?_⟩
  all_goals
    rintro c ⟨⟩
    decide

/-- The characters that can follow the digits at the start of a number. -/
theorem head_of_readFloat? {text : List Char} (read : (readFloat? text).isSome = true) :
    ∀ c ∈ ((text.map Char.toLower).dropWhile isDigit).head?,
      c ∈ ['+', '-', '.', 'e', 'i', 'n'] := by
  have behind : (text.map Char.toLower).dropWhile isDigit =
      (text.dropWhile isDigit).map Char.toLower := by
    rw [List.dropWhile_map]
    congr 2
    exact funext isDigit_toLower
  rw [readFloat?, Option.isSome_map, Option.isSome_or, Bool.or_eq_true, readSign.eq_def] at read
  split at read
  · rintro c ⟨⟩
    decide
  · rintro c ⟨⟩
    decide
  · intro c head
    rcases read with magnitude | special
    · rw [behind, List.head?_map] at head
      obtain ⟨first, isFirst, rfl⟩ := Option.map_eq_some_iff.mp head
      have marks := head_of_readMagnitude? magnitude first isFirst
      exact List.mem_append_right ['+', '-'] (List.mem_append_left ['i', 'n'] marks)
    · have letters := head_of_readSpecial? special c head
      exact List.mem_append_right ['+', '-', '.', 'e'] letters

end LogPipe.Decimal
