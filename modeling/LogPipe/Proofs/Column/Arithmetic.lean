import LogPipe.Proofs.Cell.Arithmetic
import LogPipe.Proofs.Cell.Exactness
import LogPipe.Proofs.Column.Canonical
import LogPipe.Proofs.Column.Uniformity

/-!
# Arithmetic on columns of integers

Sums, differences and products are computed row by row, and each row has a result.  The column
of these is one of integers unless a row overflows.  Then it is one of floats, so that the
exact results of the other rows are rounded to the nearest floats: a row that overflows changes
the numbers of the rows that need more than 53 bits.
-/

namespace LogPipe

open LogPipe.Decimal

theorem Cell.Fits.missing_or_int {cell : Cell} (fits : cell.Fits .int) :
    (∃ marker, cell = .missing marker) ∨ ∃ value, cell = .int value := by
  unfold Cell.Fits at fits
  cases cell with
  | int value => exact .inr ⟨value, rfl⟩
  | missing marker => exact .inl ⟨marker, rfl⟩
  | _ => obtain ⟨⟨⟩⟩ | ⟨⟨⟩⟩ := fits

namespace Arithmetic

/-- The operators that have an exact result for all integers. -/
def Total (operator : Arithmetic) : Prop :=
  operator = .add ∨ operator = .sub ∨ operator = .mul

instance (operator : Arithmetic) : Decidable operator.Total :=
  inferInstanceAs (Decidable (_ ∨ _))

/-- Two integers whose exact result is no 64-bit integer. -/
def Overflows (operator : Arithmetic) (left right : Cell) : Prop :=
  ∃ a b, left = .int a ∧ right = .int b ∧
    ∀ value, Exact operator a.toInt b.toInt value → ¬InRange value

/-- What an operator makes of two cells of integer columns. -/
def onCells (operator : Arithmetic) : Cell → Cell → Cell
  | .int a, .int b => operator.onIntegers a b
  | left, right => .missing (if left.isNaN || right.isNaN then .nan else .null)

variable {operator : Arithmetic}

theorem Total.exists_exact (total : operator.Total) (a b : Int) :
    ∃ value, Exact operator a b value := by
  obtain rfl | rfl | rfl := total
  · exact ⟨_, .add a b⟩
  · exact ⟨_, .sub a b⟩
  · exact ⟨_, .mul a b⟩

theorem Total.not_misses (total : operator.Total) (a b : Int) : ¬operator.Misses a b := by
  obtain rfl | rfl | rfl := total <;> rintro (⟨⟨⟩, -⟩ | ⟨⟨⟩, -⟩)

theorem Total.exists_onFloats (total : operator.Total) (x y : Float) :
    ∃ result, operator.onFloats x y = .float result := by
  obtain rfl | rfl | rfl := total <;> exact ⟨_, rfl⟩

/-- An operator that has an exact result for all integers gives that or overflows. -/
theorem onIntegers_or (total : operator.Total) (a b : Int64) :
    (∃ value, operator.onIntegers a b = .int value ∧ ¬operator.Overflows (.int a) (.int b)) ∨
      ∃ x, operator.onIntegers a b = .float x ∧ operator.Overflows (.int a) (.int b) := by
  have hits := total.not_misses a.toInt b.toInt
  obtain ⟨value, exact⟩ := total.exists_exact a.toInt b.toInt
  by_cases inRange : InRange value
  · refine .inl ⟨_, onIntegers_of_exact exact inRange hits, ?_⟩
    rintro ⟨a', b', ⟨⟩, ⟨⟩, outside⟩
    exact outside value exact inRange
  · have someDivisor : ¬(operator = .mod ∧ b = 0) := by
      rintro ⟨rfl, -⟩
      exact absurd total (by decide)
    obtain ⟨x, isFloat⟩ := total.exists_onFloats (Cell.floatOfInt a) (Cell.floatOfInt b)
    have applied : operator.onIntegers a b = .float x := by
      rw [onIntegers, if_neg someDivisor, exactly?_of_exact exact hits,
        int64?_of_not_inRange inRange]
      exact isFloat
    -- any exact result in range would have been found
    refine .inr ⟨x, applied, a, b, rfl, rfl, fun other otherExact otherInRange => ?_⟩
    have found := onIntegers_of_exact otherExact otherInRange hits
    rw [applied] at found
    cases found

section Cells

variable {left right : Cell}

/-- A row of integer columns is missing, or it has an exact result or overflows. -/
theorem onCells_cases (total : operator.Total) (left right : Cell) :
    (∃ marker, operator.onCells left right = .missing marker ∧ ¬operator.Overflows left right) ∨
    (∃ value, operator.onCells left right = .int value ∧ ¬operator.Overflows left right) ∨
      ∃ x, operator.onCells left right = .float x ∧ operator.Overflows left right := by
  rw [onCells.eq_def]
  split
  · exact .inr (onIntegers_or total _ _)
  · next noIntegers =>
      refine .inl ⟨_, rfl, ?_⟩
      rintro ⟨a, b, rfl, rfl, -⟩
      exact noIntegers a b rfl rfl

theorem apply_onCells (operator : Arithmetic) (leftFits : left.Fits .int)
    (rightFits : right.Fits .int) :
    operator.apply left right = .ok (operator.onCells left right) := by
  obtain ⟨marker, rfl⟩ | ⟨a, rfl⟩ := leftFits.missing_or_int
  · rfl
  · obtain ⟨marker, rfl⟩ | ⟨b, rfl⟩ := rightFits.missing_or_int
    · rfl
    · exact apply_integers operator a b

end Cells

end Arithmetic

namespace Column

section Kinds

variable {cells : List Cell} {cell : Cell}

/-- Cells as integer columns make them. -/
def Numeric (cells : List Cell) : Prop :=
  ∀ cell ∈ cells, cell.kind = .null ∨ cell.kind = .int ∨ cell.kind = .float

theorem lossyKind_under_int (numeric : Numeric cells)
    (noFloat : ∀ cell ∈ cells, cell.kind ≠ .float) : Kind.Under (lossyKind cells) .int := by
  apply lossyKind_under
  intro cell member
  rcases numeric cell member with null | int | float
  · rw [null]
    rfl
  · rw [int]
    rfl
  · exact absurd float (noFloat cell member)

/-- One float makes a column of numbers one of floats. -/
theorem lossyKind_eq_float_iff (numeric : Numeric cells) :
    lossyKind cells = .float ↔ ∃ cell ∈ cells, cell.kind = .float := by
  constructor
  · intro isFloat
    by_contra none
    have under := lossyKind_under_int numeric fun cell member float => none ⟨cell, member, float⟩
    rw [isFloat] at under
    cases under
  · rintro ⟨cell, member, float⟩
    have above := under_lossyKind member
    rw [float] at above
    refine Kind.Under.antisymm (lossyKind_under fun other inCells => ?_) above
    rcases numeric other inCells with null | int | float
    · rw [null]
      rfl
    · rw [int]
      rfl
    · rw [float]
      rfl

theorem lossyKind_eq_int (numeric : Numeric cells) (noFloat : lossyKind cells ≠ .float)
    (member : cell ∈ cells) (int : cell.kind = .int) : lossyKind cells = .int := by
  have above := under_lossyKind member
  rw [int] at above
  refine Kind.Under.antisymm (lossyKind_under_int numeric fun other inCells float => ?_) above
  exact noFloat ((lossyKind_eq_float_iff numeric).mpr ⟨other, inCells, float⟩)

end Kinds

variable {operator : Arithmetic} {left right : Column}

def rowResults (operator : Arithmetic) (left right : Column) (rows : List Nat) : List Cell :=
  rows.map fun row => operator.onCells (left.cellAt row) (right.cellAt row)

section Rows

variable (leftUniform : left.Uniform) (rightUniform : right.Uniform) (leftKind : left.kind = .int)
  (rightKind : right.kind = .int)

include leftUniform rightUniform leftKind rightKind

theorem mapM_rows (operator : Arithmetic) (rows : List Nat) :
    (rows.mapM fun row => operator.apply (left.cellAt row) (right.cellAt row)) =
      .ok (rowResults operator left right rows) := by
  apply mapM_eq_map
  intro row _
  have leftFits := cellAt_fits leftUniform row
  have rightFits := cellAt_fits rightUniform row
  rw [leftKind] at leftFits
  rw [rightKind] at rightFits
  exact operator.apply_onCells leftFits rightFits

theorem arithmetic_eq (operator : Arithmetic) (sized : right.size = left.size) :
    arithmetic operator left right =
      .ok (lossy (rowResults operator left right (List.range left.size))) := by
  rw [arithmetic, size_eq_of_rows rfl sized, @cells_eq_map left.size left rfl, cells_eq_map sized,
    arithmeticCells_map, mapM_rows leftUniform rightUniform leftKind rightKind]
  rfl

theorem arithmetic_take (operator : Arithmetic) (row : Nat) :
    arithmetic operator (left.take [row]) (right.take [row]) =
      .ok (lossy (rowResults operator left right [row])) := by
  rw [arithmetic, size_eq_of_take, take, take, arithmeticCells_map,
    mapM_rows leftUniform rightUniform leftKind rightKind]
  rfl

end Rows

section Kind

variable (total : operator.Total) (left right : Column) (rows : List Nat)

include total

theorem numeric_rowResults : Numeric (rowResults operator left right rows) := by
  intro cell member
  obtain ⟨row, -, rfl⟩ := List.mem_map.mp member
  obtain ⟨marker, missing, -⟩ | ⟨value, int, -⟩ | ⟨x, float, -⟩ :=
    Arithmetic.onCells_cases total (left.cellAt row) (right.cellAt row)
  · exact .inl (missing ▸ rfl)
  · exact .inr (.inl (int ▸ rfl))
  · exact .inr (.inr (float ▸ rfl))

/-- A column of results is one of floats exactly when a row overflows. -/
theorem kind_rowResults :
    lossyKind (rowResults operator left right rows) = .float ↔
      ∃ row ∈ rows, operator.Overflows (left.cellAt row) (right.cellAt row) := by
  rw [lossyKind_eq_float_iff (numeric_rowResults total left right rows)]
  have float (row : Nat) :
      (operator.onCells (left.cellAt row) (right.cellAt row)).kind = .float ↔
        operator.Overflows (left.cellAt row) (right.cellAt row) := by
    obtain ⟨marker, made, fits⟩ | ⟨value, made, fits⟩ | ⟨x, made, overflows⟩ :=
      Arithmetic.onCells_cases total (left.cellAt row) (right.cellAt row)
    · rw [made]
      exact iff_of_false nofun fits
    · rw [made]
      exact iff_of_false nofun fits
    · rw [made]
      exact iff_of_true rfl overflows
  constructor
  · rintro ⟨cell, member, isFloat⟩
    obtain ⟨row, inRows, rfl⟩ := List.mem_map.mp member
    exact ⟨row, inRows, (float row).mp isFloat⟩
  · rintro ⟨row, inRows, overflows⟩
    exact ⟨_, List.mem_map_of_mem inRows, (float row).mpr overflows⟩

end Kind

/-- What a row gives alone, and what it gives in a column of a kind. -/
inductive Beside (kind : Kind) : Cell → Cell → Prop where
  | missing (alone marker : Marker) : Beside kind (.missing alone) (.missing marker)
  | int (value : Int64) (noFloats : kind ≠ .float) : Beside kind (.int value) (.int value)
  | rounded (value : Int64) (floats : kind = .float) :
      Beside kind (.int value) (.float (Cell.floatOfInt value))
  | float (x : Float) : Beside kind (.float x) (.float x)

section Beside

variable {cells : List Cell} {alone cell : Cell} {kind : Kind} {row : Nat}

theorem beside_coerce (numeric : Numeric cells) (member : alone ∈ cells) :
    Beside (lossyKind cells) alone (coerce (lossyKind cells) alone) := by
  cases alone with
  | missing marker =>
      generalize lossyKind cells = kind
      cases kind <;> exact .missing _ _
  | int value =>
      by_cases isFloat : lossyKind cells = .float
      · rw [isFloat]
        exact .rounded value rfl
      · rw [lossyKind_eq_int numeric isFloat member rfl]
        exact .int value nofun
  | float x =>
      rw [(lossyKind_eq_float_iff numeric).mpr ⟨_, member, rfl⟩]
      exact .float x
  | _ => obtain ⟨⟨⟩⟩ | ⟨⟨⟩⟩ | ⟨⟨⟩⟩ := numeric _ member

/-- The number is the same unless it is rounded. -/
theorem Beside.number?_iff (beside : Beside kind alone cell) :
    cell.number? = alone.number? ↔
      kind ≠ .float ∨ ∀ value, alone = .int value → Cell.Short value.toInt := by
  cases beside with
  | missing | float => exact iff_of_true rfl (.inr nofun)
  | int value noFloats => exact iff_of_true rfl (.inl noFloats)
  | rounded value floats =>
      refine (Cell.number?_floatOfInt_iff value).trans ⟨fun short => .inr ?_, ?_⟩
      · rintro _ ⟨⟩
        exact short
      · rintro (noFloats | short)
        · exact absurd floats noFloats
        · exact short value rfl

end Beside

/-- Arithmetic on integers by rows.  The column has the result of each row alone, and only
whether some row overflows decides between columns of integers and of floats.  In a column of
floats an exact result stands as the nearest float, which is the same number exactly when 53
bits are enough for it. -/
theorem arithmetic_rows (total : operator.Total) (leftUniform : left.Uniform)
    (rightUniform : right.Uniform) (leftKind : left.kind = .int) (rightKind : right.kind = .int)
    (sized : right.size = left.size) :
    ∃ column, arithmetic operator left right = .ok column ∧ column.size = left.size ∧
      (column.kind = .float ↔
        ∃ row < left.size, operator.Overflows (left.cellAt row) (right.cellAt row)) ∧
      ∀ row < left.size, ∃ alone,
        arithmetic operator (left.take [row]) (right.take [row]) = .ok ⟨alone.kind, [alone]⟩ ∧
        Beside column.kind alone (column.cellAt row) ∧
        ((column.cellAt row).number? = alone.number? ↔
          column.kind ≠ .float ∨ ∀ value, alone = .int value → Cell.Short value.toInt) := by
  refine ⟨_, arithmetic_eq leftUniform rightUniform leftKind rightKind operator sized, ?_, ?_, ?_⟩
  · rw [size_lossy, rowResults, List.length_map, List.length_range]
  · rw [lossy_eq]
    refine (kind_rowResults total left right _).trans (exists_congr fun row => ?_)
    rw [List.mem_range]
  · intro row inside
    have found : (rowResults operator left right (List.range left.size))[row]? =
        some (operator.onCells (left.cellAt row) (right.cellAt row)) := by
      rw [rowResults, List.getElem?_map, List.getElem?_range inside]
      rfl
    have beside := beside_coerce (numeric_rowResults total left right _)
      (List.mem_of_getElem? found)
    have kind (cells : List Cell) : (lossy cells).kind = lossyKind cells := by rw [lossy_eq]
    rw [cellAt, get?_lossy, found, kind]
    refine ⟨_, ?_, beside, beside.number?_iff⟩
    rw [arithmetic_take leftUniform rightUniform leftKind rightKind, rowResults,
      List.map_singleton, lossy_singleton]

/-- In a column of floats a short sum is still the same number. -/
theorem arithmetic_rows_short :
    ∃ column, arithmetic .add ⟨.int, [.int Int64.maxValue, .int 5]⟩ ⟨.int, [.int 1, .int 7]⟩ =
        .ok column ∧ column.kind = .float ∧ (column.cellAt 1).number? = some 12 := by
  obtain ⟨column, applied, -, float, rows⟩ :=
    @arithmetic_rows .add ⟨.int, [.int Int64.maxValue, .int 5]⟩ ⟨.int, [.int 1, .int 7]⟩
      (by decide) (by decide) (by decide) rfl rfl rfl
  refine ⟨column, applied, float.mpr ⟨0, by decide, Int64.maxValue, 1, rfl, rfl, ?_⟩, ?_⟩
  · rintro value ⟨⟩
    decide
  · obtain ⟨alone, sum, -, same⟩ := rows 1 (by decide)
    obtain rfl : alone = .int 12 := by
      have single : Column.mk .int [.int 12] = ⟨alone.kind, [alone]⟩ := Except.ok.inj sum
      exact (List.singleton_inj.mp (congrArg cells single)).symm
    exact same.mpr (.inr fun value isSum => by cases isSum; exact ⟨12, 0, rfl, by decide⟩)

/-- Alone the sum of the second row is exact.  Beside a row that overflows it is another
number. -/
theorem row_rounded_by_another :
    ∃ column, arithmetic .add ⟨.int, [.int Int64.maxValue, .int 9007199254740993]⟩
          ⟨.int, [.int 1, .int 0]⟩ = .ok column ∧
      arithmetic .add ⟨.int, [.int 9007199254740993]⟩ ⟨.int, [.int 0]⟩ =
          .ok ⟨.int, [.int 9007199254740993]⟩ ∧
      (column.cellAt 1).number? ≠ (Cell.int 9007199254740993).number? := by
  refine ⟨_, rfl, rfl, fun same => ?_⟩
  have short := (Cell.number?_floatOfInt_iff 9007199254740993).mp same
  obtain ⟨mantissa, exponent, divided, small⟩ := short
  have value : (9007199254740993 : Int64).toInt = 9007199254740993 := by decide
  rw [value] at divided
  cases exponent with
  | zero =>
      rw [pow_zero, mul_one] at divided
      omega
  | succ exponent =>
      rw [pow_succ, ← mul_assoc] at divided
      generalize mantissa * 2 ^ exponent = half at divided
      omega

end Column

end LogPipe
