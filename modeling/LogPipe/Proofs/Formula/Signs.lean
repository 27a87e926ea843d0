import LogPipe.Formula.Evaluate
import LogPipe.Proofs.Cell.Arithmetic
import LogPipe.Proofs.Formula.Acceptance
import LogPipe.Proofs.Formula.Drawing

/-!
# Signs in front of numbers

A minus sign in front of a number is folded into it when a formula is read.  Otherwise a minus
sign subtracts from the integer zero.  Both make the same cell of every number that a text can
hold, but for zero as a float: folded signs give it a sign, and subtraction does not.
-/

namespace LogPipe

open LogPipe.Decimal Float.Model Float.Model.UnpackedFloat

section Subtracting

variable {x : Float}

/-- A number other than zero. -/
inductive Nonzero : UnpackedFloat → Prop where
  | infinity (sign : Sign) : Nonzero (.infinity sign)
  | finite (sign : Sign) (significand : Nat) (exponent : Int) (positive : 0 < significand) :
      Nonzero (.finite sign significand exponent positive)

section Nonzero

variable {unpacked : UnpackedFloat}

theorem Nonzero.neg (nonzero : Nonzero unpacked) : Nonzero unpacked.neg := by
  cases nonzero with
  | infinity => exact .infinity _
  | finite => exact .finite _ _ _ _

theorem Nonzero.isNaN (nonzero : Nonzero unpacked) : unpacked.isNaN = false := by
  cases nonzero <;> rfl

theorem Nonzero.zero_sub (nonzero : Nonzero unpacked) (format : Format) :
    UnpackedFloat.sub format (.zero .positive) unpacked = unpacked.neg := by
  cases nonzero <;> rfl

end Nonzero

theorem zero_sub_of_nonzero (nonzero : Nonzero x.toModel.unpack) :
    Cell.floatOfInt 0 - x = -x :=
  congrArg (fun unpacked => Float.ofModel (Float.Model.pack unpacked)) (nonzero.zero_sub _)

theorem zero_sub_zero : Cell.floatOfInt 0 - 0.0 = 0.0 :=
  ofFloat_injective (by decide +kernel)

namespace Arithmetic

theorem sub_float (isNumber : x.isNaN = false) :
    Arithmetic.sub.apply (.int 0) (.float x) = .ok (.float (Cell.floatOfInt 0 - x)) := by
  simp only [apply, Cell.isMissing, isNumber, Bool.or_self, Bool.false_eq_true, if_false]
  rfl

theorem sub_int {value : Int64} (notLeast : value ≠ Int64.minValue) :
    Arithmetic.sub.apply (.int 0) (.int value) = .ok (.int (-value)) := by
  have opposite : (-value).toInt = 0 - value.toInt := by
    have least : Int64.minValue.toInt = -2 ^ 63 := by decide
    have notLeastInt : value.toInt ≠ -2 ^ 63 := fun same =>
      notLeast (Int64.toInt_inj.mp (same.trans least.symm))
    have low := value.le_toInt
    have high := value.toInt_lt
    rw [Int64.toInt_neg, Int.bmod_eq_of_le (by omega) (by omega), Int.zero_sub]
  have inRange : InRange (0 - value.toInt) := opposite ▸ inRange_toInt (-value)
  have result : Arithmetic.sub.onIntegers 0 value = .int (.ofInt (0 - value.toInt)) :=
    onIntegers_of_exact (.sub 0 value.toInt) inRange (by rintro (⟨⟨⟩, -⟩ | ⟨⟨⟩, -⟩))
  rw [apply_integers, result, ← opposite, Int64.ofInt_toInt]

end Arithmetic

end Subtracting

namespace Cell

/-- A number with its sign changed. -/
def opposite : Cell → Cell
  | .int value => .int (-value)
  | .float x => .float (-x)
  | cell => cell

/-- A number that a sign can be folded into. -/
inductive Foldable : Cell → Prop where
  | int {value : Int64} (notLeast : value ≠ Int64.minValue) : Foldable (.int value)
  | float (x : Float) : Foldable (.float x)

/-- A number that changes its sign when it is subtracted from zero. -/
inductive Reversible : Cell → Prop where
  | int {value : Int64} (notLeast : value ≠ Int64.minValue) : Reversible (.int value)
  | float {x : Float} (nonzero : Nonzero x.toModel.unpack) : Reversible (.float x)

variable {number : Cell}

theorem neg_ne_least {value : Int64} (notLeast : value ≠ Int64.minValue) :
    -value ≠ Int64.minValue := by
  intro least
  apply notLeast
  rw [← @Int64.neg_neg value, least]
  decide

theorem Foldable.opposite (foldable : Foldable number) : Foldable number.opposite := by
  cases foldable with
  | int notLeast => exact .int (neg_ne_least notLeast)
  | float x => exact .float (-x)

theorem Reversible.opposite (reversible : Reversible number) : Reversible number.opposite := by
  cases reversible with
  | int notLeast => exact .int (neg_ne_least notLeast)
  | float nonzero =>
      refine .float ?_
      rw [unpack_neg]
      exact nonzero.neg

theorem Reversible.ne_zero (reversible : Reversible number) : number ≠ .float 0.0 := by
  rintro rfl
  cases reversible with
  | float nonzero =>
      have zero : (0.0 : Float).toModel.unpack = .zero .positive := rfl
      rw [zero] at nonzero
      cases nonzero

theorem Reversible.sub (reversible : Reversible number) :
    Arithmetic.sub.apply (.int 0) number = .ok number.opposite := by
  cases reversible with
  | int notLeast => exact Arithmetic.sub_int notLeast
  | float nonzero =>
      rw [Arithmetic.sub_float nonzero.isNaN, zero_sub_of_nonzero nonzero]
      rfl

/-- An even number of signs leaves a zero as it is. -/
theorem opposite_iterate_zero (count : Nat) :
    Cell.opposite^[count] (.float 0.0) = .float (if count % 2 = 1 then -0.0 else 0.0) := by
  induction count with
  | zero => rfl
  | succ count induction =>
      rw [Function.iterate_succ_apply', induction, Cell.opposite]
      obtain even | odd := Nat.mod_two_eq_zero_or_one count
      · rw [if_neg (by omega), if_pos (by omega)]
      · rw [if_pos odd, if_neg (by omega), neg_neg_float]

end Cell

namespace Formula

section Reading

variable {token : Token} {number : Cell} {rest : List Token}

/-- The number of a token, if it has one. -/
def Token.number? : Token → Option Cell
  | .int value => some (.int value)
  | .float x => some (.float x)
  | _ => none

theorem negated_literal (foldable : number.Foldable) :
    negated (.literal number) = .literal number.opposite := by
  cases foldable with
  | int notLeast => rw [negated, beq_eq_false_iff_ne.mpr notLeast, if_neg Bool.false_ne_true]; rfl
  | float x => rfl

theorem phrase_number (isNumber : token.number? = some number) :
    Phrase negated .signed 0 [token] (.literal number) := by
  cases token with
  | int value =>
      cases isNumber
      exact .power (.suffixed (.atom .int))
  | float x =>
      cases isNumber
      exact .power (.suffixed (.atom .float))
  | _ => cases isNumber

/-- The signs in front of a number are folded into it, and each counts as one level. -/
theorem readSign_number (isNumber : token.number? = some number) (foldable : number.Foldable)
    (stops : Stops Token.strength 6 rest) (count depth : Nat) :
    (Cell.opposite^[count] number).Foldable ∧
      readSign (deeper depth) (List.replicate count .minus ++ token :: rest) =
        if count ≤ depth then .ok (.literal (Cell.opposite^[count] number), rest)
        else .error fun _ => .tooDeep := by
  induction count generalizing depth with
  | zero =>
      refine ⟨foldable, ?_⟩
      rw [if_pos (Nat.zero_le depth)]
      exact (phrase_number isNumber).recognized (Nat.zero_le depth) rest stops
  | succ count induction =>
      rw [Function.iterate_succ_apply', List.replicate_succ, List.cons_append, readSign]
      refine ⟨(induction 0).1.opposite, ?_⟩
      cases depth with
      | zero => rfl
      | succ depth =>
          obtain ⟨inner, read⟩ := induction depth
          by_cases enough : count ≤ depth
          · rw [if_pos enough] at read
            simp only [deeper, read, negated_literal inner]
            rw [if_pos (Nat.succ_le_succ enough)]
          · rw [if_neg enough] at read
            simp only [deeper, read]
            rw [if_neg (mt Nat.le_of_succ_le_succ enough)]

end Reading

section Evaluating

variable {number left right result : Cell}

/-- Two cells are combined as cells. -/
theorem combine_cells {operator : Arithmetic} (applied : operator.apply left right = .ok result)
    (rows : Nat) : Value.combine rows (Column.arithmetic operator) (.cell left) (.cell right) =
      .ok (.cell result) := by
  rw [Value.combine, Column.lossy_singleton, Column.lossy_singleton,
    Arithmetic.arithmetic_singletons applied]
  rfl

theorem valueOf_negate {formula : Formula} {table : Table}
    (value : valueOf table formula = pure (.cell right))
    (applied : Arithmetic.sub.apply (.int 0) right = .ok result) :
    valueOf table (.negate formula) = pure (.cell result) := by
  rw [valueOf, value, pure_bind, combine_cells applied]
  rfl

/-- Each sign in front of a number changes its sign when it is evaluated. -/
theorem valueOf_negate_iterate (reversible : number.Reversible) (table : Table) (count : Nat) :
    (Cell.opposite^[count] number).Reversible ∧
      valueOf table (Formula.negate^[count] (.literal number)) =
        pure (.cell (Cell.opposite^[count] number)) := by
  induction count with
  | zero => exact ⟨reversible, by rw [Function.iterate_zero_apply, valueOf]; rfl⟩
  | succ count induction =>
      obtain ⟨inner, value⟩ := induction
      rw [Function.iterate_succ_apply', Function.iterate_succ_apply']
      exact ⟨inner.opposite, valueOf_negate value inner.sub⟩

/-- A zero has no sign, however many there are in front of it. -/
theorem valueOf_negate_iterate_zero (table : Table) (count : Nat) :
    valueOf table (Formula.negate^[count] (.literal (.float 0.0))) =
      pure (.cell (.float 0.0)) := by
  have applied : Arithmetic.sub.apply (.int 0) (.float 0.0) = .ok (.float 0.0) := by
    rw [Arithmetic.sub_float (by decide +kernel), zero_sub_zero]
  induction count with
  | zero => rw [Function.iterate_zero_apply, valueOf]
  | succ count induction =>
      rw [Function.iterate_succ_apply']
      exact valueOf_negate induction applied

theorem cell_injective (same : (pure (.cell left) : Drawing Value) = pure (.cell right)) :
    left = right := by
  have ran := congrArg (fun value => (value.run (Generator.ofSeed 0)).1) same
  exact Value.cell.inj (Except.ok.inj ran)

end Evaluating

section Texts

variable {text : String} {tokens : List Token} {token : Token} {number : Cell}

theorem Token.Signless.foldable (signless : token.Signless)
    (isNumber : token.number? = some number) : number.Foldable := by
  cases token with
  | int value =>
      cases isNumber
      refine .int ?_
      rintro rfl
      have nonneg : 0 ≤ Int64.minValue.toInt := signless
      exact absurd nonneg (by decide)
  | float x =>
      cases isNumber
      exact .float x
  | _ => cases isNumber

theorem Token.Signless.zero_or_reversible (signless : token.Signless)
    (isNumber : token.number? = some number) : number = .float 0.0 ∨ number.Reversible := by
  have foldable := signless.foldable isNumber
  cases token with
  | int value =>
      cases isNumber
      cases foldable with
      | int notLeast => exact Or.inr (.int notLeast)
  | float x =>
      cases isNumber
      have unsigned : Unsigned x.toModel.unpack := signless
      cases unpacked : x.toModel.unpack with
      | zero sign =>
          rw [unpacked] at unsigned
          cases unsigned
          exact Or.inl (congrArg Cell.float (eq_zero_of_unpack unpacked))
      | notANumber =>
          rw [unpacked] at unsigned
          cases unsigned
      | infinity sign => exact Or.inr (.float (unpacked ▸ .infinity sign))
      | finite sign significand exponent positive =>
          exact Or.inr (.float (unpacked ▸ .finite sign significand exponent positive))
  | _ => cases isNumber

/-- Minus signs in front of a number of a text are read as the number with its sign changed as
often, as long as they are not nested too deeply.  This has the value of the signs themselves,
except for an odd number of them in front of zero as a float, whose value has no sign. -/
theorem signs_of_numbers (tokenized : tokenize text = .ok tokens) (member : token ∈ tokens)
    (isNumber : token.number? = some number) (count : Nat) :
    (∀ depth rest, Stops Token.strength 6 rest →
      readSign (deeper depth) (List.replicate count .minus ++ token :: rest) =
        if count ≤ depth then .ok (.literal (Cell.opposite^[count] number), rest)
        else .error fun _ => .tooDeep) ∧
    ((∀ table, valueOf table (.literal (Cell.opposite^[count] number)) =
        valueOf table (Formula.negate^[count] (.literal number))) ↔
      ¬(number = .float 0.0 ∧ count % 2 = 1)) ∧
    (number = .float 0.0 → ∀ table,
      valueOf table (Formula.negate^[count] (.literal number)) = pure (.cell number)) := by
  have signless : token.Signless := signless_tokenizeFrom tokenized token member
  have foldable := signless.foldable isNumber
  refine ⟨fun depth rest stops => (readSign_number isNumber foldable stops count depth).2, ?_, ?_⟩
  · obtain rfl | reversible := signless.zero_or_reversible isNumber
    · simp only [valueOf_negate_iterate_zero, Cell.opposite_iterate_zero, valueOf, true_and]
      by_cases odd : count % 2 = 1
      · have distinct : Cell.float (-0.0) ≠ .float 0.0 := by decide +kernel
        rw [if_pos odd]
        exact iff_of_false (fun same => distinct (cell_injective (same ⟨0, []⟩))) fun even =>
          even odd
      · rw [if_neg odd]
        exact iff_of_true (fun _ => rfl) odd
    · refine iff_of_true (fun table => ?_) ?_
      · rw [valueOf]
        exact (valueOf_negate_iterate reversible table count).2.symm
      · rintro ⟨rfl, -⟩
        exact reversible.ne_zero rfl
  · rintro rfl table
    exact valueOf_negate_iterate_zero table count

/-- Three signs in front of a fraction are one, and a product may follow. -/
theorem signs_of_numbers_three :
    tokenize "2.5*n" = .ok [.float 2.5, .star, .name "n"] ∧
      readSign (deeper 63) [.minus, .minus, .minus, .float 2.5, .star, .name "n"] =
        .ok (.literal (.float (-2.5)), [.star, .name "n"]) ∧
      ∀ table, valueOf table (.literal (.float (-2.5))) =
        valueOf table (.negate (.negate (.negate (.literal (.float 2.5))))) := by
  have tokenized : tokenize "2.5*n" = .ok [.float 2.5, .star, .name "n"] := by decide +kernel
  have signs : Cell.opposite^[3] (.float 2.5) = .float (-2.5) := by decide +kernel
  have nonzero : ¬(Cell.float 2.5 = .float 0.0 ∧ 3 % 2 = 1) := by decide +kernel
  obtain ⟨read, same, -⟩ := signs_of_numbers tokenized List.mem_cons_self rfl 3
  rw [signs] at read same
  exact ⟨tokenized, read 63 [.star, .name "n"] (stops_cons (by decide)), same.mpr nonzero⟩

/-- A sign that is folded into zero stays; subtracted from zero, zero has no sign. -/
theorem signed_zero :
    readSign (deeper 63) [.minus, .float 0.0] = .ok (.literal (.float (-0.0)), []) ∧
      evaluateText ⟨1, []⟩ "-0.0" 0 = .ok ⟨.float, [.float (-0.0)]⟩ ∧
      ((evaluate ⟨1, []⟩ (.negate (.literal (.float 0.0)))).run (Generator.ofSeed 0)).1 =
        .ok ⟨.float, [.float 0.0]⟩ ∧
      Cell.float (-0.0) ≠ .float 0.0 := by
  refine ⟨rfl, ?_, ?_, ?_⟩
  · decide +kernel
  · decide +kernel
  · decide +kernel

end Texts

end Formula

end LogPipe
