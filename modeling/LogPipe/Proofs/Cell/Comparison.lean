import LogPipe.Cell.Order

/-!
# Exchanging the operands of a comparison

Both orders of cells are turned around when their operands are exchanged.  For
the partial order this covers numbers, times and the texts that stand for
either, and for the total preorder it covers lists of any depth.  A comparison
operator therefore gives the same answer as its reversed operator on exchanged
operands, which is what lets a literal be written on either side.
-/

namespace LogPipe.Cell

open LogPipe.Calendar

section Floats

open Float.Model

/-- Finite floats of one sign are compared by their exponents and then their significands. -/
private theorem magnitude_swap (leftExponent rightExponent : Int)
    (leftSignificand rightSignificand : Nat) :
    (compare rightExponent leftExponent).then (compare rightSignificand leftSignificand) =
      ((compare leftExponent rightExponent).then
        (compare leftSignificand rightSignificand)).swap := by
  rw [Ordering.swap_then, Int.compare_swap, Nat.compare_swap]

/-- The IEEE order of two unpacked floats is turned around with its operands. -/
private theorem unpackedCompare_swap (left right : UnpackedFloat) :
    right.compare left = (left.compare right).map Ordering.swap := by
  cases left with
  | notANumber => cases right <;> rfl
  | infinity leftSign =>
      cases right with
      | notANumber => cases leftSign <;> rfl
      | infinity rightSign => cases leftSign <;> cases rightSign <;> rfl
      | zero => cases leftSign <;> rfl
      | finite rightSign => cases leftSign <;> cases rightSign <;> rfl
  | zero =>
      cases right with
      | notANumber => rfl
      | infinity rightSign => cases rightSign <;> rfl
      | zero => rfl
      | finite rightSign => cases rightSign <;> rfl
  | finite leftSign =>
      cases right with
      | notANumber => cases leftSign <;> rfl
      | infinity rightSign => cases leftSign <;> cases rightSign <;> rfl
      | zero => cases leftSign <;> rfl
      | finite rightSign =>
          cases leftSign with
          | positive =>
              cases rightSign with
              | positive => exact congrArg some (magnitude_swap _ _ _ _)
              | negative => rfl
          | negative =>
              cases rightSign with
              | positive => rfl
              | negative =>
                  exact congrArg (fun order => some order.swap) (magnitude_swap _ _ _ _)

/-- The IEEE order of two floats, undefined when one is not a number. -/
def ieeeOrder (left right : Float) : Option Ordering :=
  left.toModel.compare right.toModel

theorem ieeeOrder_swap (left right : Float) :
    ieeeOrder right left = (ieeeOrder left right).map Ordering.swap :=
  unpackedCompare_swap _ _

theorem lt_iff_ieeeOrder (left right : Float) :
    left < right ↔ ieeeOrder left right = some .lt := by
  change decide (left.toModel < right.toModel) = true ↔ _
  rw [decide_eq_true_eq]
  change (ieeeOrder left right == some .lt) = true ↔ _
  exact beq_iff_eq

theorem beq_iff_ieeeOrder (left right : Float) :
    (left == right) = true ↔ ieeeOrder left right = some .eq := by
  change (ieeeOrder left right == some .eq) = true ↔ _
  exact beq_iff_eq

/-- The three tests of `compareFloats?` find exactly the IEEE order. -/
theorem compareFloats?_eq_ieeeOrder (left right : Float) :
    compareFloats? left right = ieeeOrder left right := by
  have turned := ieeeOrder_swap left right
  simp only [compareFloats?, lt_iff_ieeeOrder, beq_iff_ieeeOrder, turned]
  cases ieeeOrder left right with
  | none => simp
  | some ordering => cases ordering <;> simp

theorem compareFloats?_swap (left right : Float) :
    compareFloats? right left = (compareFloats? left right).map Ordering.swap := by
  simp only [compareFloats?_eq_ieeeOrder]
  exact ieeeOrder_swap left right

theorem compareFloats_swap (left right : Float) :
    compareFloats right left = (compareFloats left right).swap :=
  Std.OrientedOrd.eq_swap

end Floats

theorem compareInts_swap (left right : Int64) :
    compareInts right left = (compareInts left right).swap :=
  Std.OrientedOrd.eq_swap

mutual

/-- The total preorder is turned around when its operands are exchanged. -/
theorem totalCompare_swap (left right : Cell) :
    right.totalCompare left = (left.totalCompare right).swap := by
  unfold totalCompare
  by_cases sameRank : left.rank = right.rank
  · simp only [sameRank, bne_self_eq_false, Bool.false_eq_true, if_false]
    cases left with
    | missing => cases right <;> rfl
    | bool left =>
        cases right with
        | bool right => exact Std.OrientedOrd.eq_swap
        | _ => rfl
    | int left =>
        cases right with
        | int right => exact compareInts_swap left right
        | float right => exact compareFloats_swap (floatOfInt left) right
        | _ => rfl
    | float left =>
        cases right with
        | int right => exact compareFloats_swap left (floatOfInt right)
        | float right => exact compareFloats_swap left right
        | _ => rfl
    | time left =>
        cases right with
        | time right => exact compareInts_swap left right
        | _ => rfl
    | text left =>
        cases right with
        | text right => exact Std.OrientedOrd.eq_swap
        | _ => rfl
    | list lefts =>
        cases right with
        | list rights => exact compareLists_swap lefts rights
        | _ => rfl
  · have otherRank : right.rank ≠ left.rank := Ne.symm sameRank
    simp only [bne_iff_ne, ne_eq, sameRank, otherRank, not_false_eq_true, if_true]
    exact Std.OrientedOrd.eq_swap

/-- List counterpart of `totalCompare_swap`. -/
theorem compareLists_swap (lefts rights : List Cell) :
    compareLists rights lefts = (compareLists lefts rights).swap := by
  cases lefts with
  | nil => cases rights <;> simp [compareLists]
  | cons left lefts =>
      cases rights with
      | nil => simp [compareLists]
      | cons right rights =>
          simp only [compareLists, totalCompare_swap left right]
          cases left.totalCompare right with
          | eq => exact compareLists_swap lefts rights
          | lt => rfl
          | gt => rfl

end

/-- Cells without a comparison of their own are compared by the numbers they
stand for. -/
private theorem compareNumbers_swap (left right : Option Float) :
    (match right, left with
      | some right, some left => compareFloats? right left
      | _, _ => none) =
    (match left, right with
      | some left, some right => compareFloats? left right
      | _, _ => none).map Ordering.swap := by
  cases left with
  | none => cases right <;> rfl
  | some left =>
      cases right with
      | none => rfl
      | some right => exact compareFloats?_swap left right

/-- A time is compared with the time that a text reads as, if there is one. -/
private theorem compareReading_swap (reading : Option Int)
    {forward backward : Int → Ordering}
    (turned : ∀ millis, backward millis = (forward millis).swap) :
    reading.map backward = (reading.map forward).map Ordering.swap := by
  cases reading with
  | none => rfl
  | some millis => exact congrArg some (turned millis)

/-- The partial order is turned around when its operands are exchanged, and it
is undefined for the same pairs. -/
theorem compare?_swap (left right : Cell) :
    right.compare? left = (left.compare? right).map Ordering.swap := by
  unfold compare?
  rw [Bool.or_comm right.isMissing]
  by_cases anyMissing : (left.isMissing || right.isMissing) = true
  · simp only [anyMissing, if_true, Option.map_none]
  · simp only [anyMissing, Bool.false_eq_true, if_false]
    cases left with
    | missing => exact absurd rfl anyMissing
    | bool left =>
        cases right with
        | bool right => exact congrArg some Std.OrientedOrd.eq_swap
        | missing => exact absurd rfl anyMissing
        | int => exact compareFloats?_swap _ _
        | float | text => exact compareNumbers_swap _ _
        | time | list => rfl
    | int left =>
        cases right with
        | int right => exact congrArg some (compareInts_swap left right)
        | missing => exact absurd rfl anyMissing
        | bool => exact compareFloats?_swap _ _
        | float | text => exact compareNumbers_swap _ _
        | time | list => rfl
    | float left =>
        cases right with
        | missing => exact absurd (Bool.or_true _) anyMissing
        | bool | int | float | text => exact compareNumbers_swap _ _
        | time => exact compareNumbers_swap _ none
        | list => rfl
    | time left =>
        cases right with
        | time right => exact congrArg some (compareInts_swap left right)
        | text right =>
            exact compareReading_swap (readTime? right) fun _ => Std.OrientedOrd.eq_swap
        | missing => exact absurd rfl anyMissing
        | float => exact compareNumbers_swap none _
        | bool | int | list => rfl
    | text left =>
        cases right with
        | text right => exact congrArg some Std.OrientedOrd.eq_swap
        | time right =>
            exact compareReading_swap (readTime? left) fun _ => Std.OrientedOrd.eq_swap
        | missing => exact absurd rfl anyMissing
        | bool | int | float => exact compareNumbers_swap _ _
        | list => rfl
    | list lefts =>
        cases right with
        | list rights => exact congrArg some (compareLists_swap lefts rights)
        | _ => rfl

end LogPipe.Cell

namespace LogPipe.Comparison

/-- A reversed operator reads a reversed ordering as the operator reads the
ordering itself. -/
theorem holds_reversed (operator : Comparison) (ordering : Ordering) :
    operator.reversed.holds ordering.swap = operator.holds ordering := by
  cases operator <;> cases ordering <;> rfl

/-- Exchanging the operands and reversing the operator changes no answer:
unknown, incomparable and ordered pairs all keep theirs. -/
theorem apply_reversed (operator : Comparison) (left right : Cell) :
    operator.reversed.apply right left = operator.apply left right := by
  unfold apply
  rw [Bool.or_comm right.isMissing, Cell.compare?_swap left right]
  split
  · rfl
  · cases left.compare? right with
    | none => cases operator <;> rfl
    | some ordering =>
        exact congrArg some (holds_reversed operator ordering)

end LogPipe.Comparison
