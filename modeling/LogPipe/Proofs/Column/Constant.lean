import LogPipe.Proofs.Column.Lossy

/-!
# Columns that repeat a cell

Operations on two columns work row by row: they read nothing of a column but its cells,
and on columns that repeat one cell each they repeat what they make of the two cells.
-/

namespace LogPipe

namespace Column

/-- Making a column of one cell changes no cell. -/
theorem cells_lossy_replicate (count : Nat) (cell : Cell) :
    (lossy (List.replicate count cell)).cells = List.replicate count cell := by
  apply @cells_lossy_of_kind _ cell.kind
  intro other member
  rw [(List.mem_replicate.mp member).2]

theorem cells_replicate (count : Nat) (cell : Cell) :
    (replicate count cell).cells = List.replicate count cell :=
  cells_lossy_replicate count cell

theorem get?_of_cells_eq_replicate {column : Column} {rows row : Nat} {cell : Cell}
    (repeats : column.cells = List.replicate rows cell) (inside : row < rows) :
    column.get? row = some cell := by
  rw [get?, repeats, List.getElem?_replicate, if_pos inside]

/-- An operation that works row by row. -/
structure RowByRow (operation : Column → Column → Except ColumnError Column) : Prop where
  congr : ∀ {left right otherLeft otherRight : Column}, left.cells = otherLeft.cells →
    right.cells = otherRight.cells → operation left right = operation otherLeft otherRight
  repeats : ∀ a b : Cell, ∃ result : Except ColumnError Cell,
    ∀ {rows : Nat} {left right : Column}, 0 < rows → left.cells = List.replicate rows a →
      right.cells = List.replicate rows b →
      (operation left right).map cells = result.map (List.replicate rows)

section

variable {left right : Column} {rows : Nat} {a b : Cell}

theorem size_eq_of_repeats (leftRepeats : left.cells = List.replicate rows a)
    (rightRepeats : right.cells = List.replicate rows b) : left.size = right.size := by
  rw [size, size, leftRepeats, rightRepeats, List.length_replicate, List.length_replicate]

theorem zipTruths_rowByRow (f : Cell → Cell → Option Bool) : RowByRow (zipTruths f) := by
  constructor
  · intro left right otherLeft otherRight leftSame rightSame
    rw [zipTruths, zipTruths, size, size, size, size, leftSame, rightSame]
  · intro a b
    refine ⟨.ok (Cell.ofTruth (f a b)), ?_⟩
    intro rows left right _ leftRepeats rightRepeats
    have sized := size_eq_of_repeats leftRepeats rightRepeats
    have zipped : List.zipWith f left.cells right.cells = List.replicate rows (f a b) := by
      rw [leftRepeats, rightRepeats, List.zipWith_replicate, Nat.min_self]
    have compared : zipTruths f left right =
        .ok (ofTruths (List.replicate rows (f a b))) := by
      rw [zipTruths, sized, zipped]
      simp
    rw [compared]
    simp only [Except.map, ofTruths, List.map_replicate]
    cases f a b <;> rfl

theorem arithmeticCells_replicate (operator : Arithmetic) (someRow : 0 < rows) :
    arithmeticCells operator (List.replicate rows a) (List.replicate rows b) =
      (operator.apply a b).map (List.replicate rows) := by
  induction rows with
  | zero => cases someRow
  | succ rows induction =>
      rw [List.replicate_succ, List.replicate_succ, arithmeticCells]
      cases applied : operator.apply a b with
      | error error => rfl
      | ok cell =>
          cases rows with
          | zero => rfl
          | succ rows =>
              rw [induction (Nat.succ_pos rows), applied]
              rfl

theorem arithmetic_rowByRow (operator : Arithmetic) : RowByRow (arithmetic operator) := by
  constructor
  · intro left right otherLeft otherRight leftSame rightSame
    rw [arithmetic, arithmetic, size, size, size, size, leftSame, rightSame]
  · intro a b
    refine ⟨operator.apply a b, ?_⟩
    intro rows left right someRow leftRepeats rightRepeats
    have sized := size_eq_of_repeats leftRepeats rightRepeats
    have computed : arithmetic operator left right =
        ((operator.apply a b).map (List.replicate rows)).map lossy := by
      rw [arithmetic, sized, leftRepeats, rightRepeats,
        arithmeticCells_replicate operator someRow]
      simp
    rw [computed]
    cases operator.apply a b with
    | error error => rfl
    | ok cell => exact congrArg Except.ok (cells_lossy_replicate rows cell)

end

theorem compare_rowByRow (operator : Comparison) : RowByRow (compare operator) :=
  zipTruths_rowByRow operator.apply

theorem and_rowByRow : RowByRow and :=
  zipTruths_rowByRow _

theorem or_rowByRow : RowByRow or :=
  zipTruths_rowByRow _

theorem not_cells_congr {column other : Column} (same : column.cells = other.cells) :
    column.not = other.not := by
  rw [not, not, same]

theorem not_of_repeats {column : Column} {rows : Nat} {cell : Cell}
    (repeats : column.cells = List.replicate rows cell) :
    column.not.cells =
      List.replicate rows (Cell.ofTruth (cell.truth.map fun value => !value)) := by
  simp only [not, ofTruths, repeats, List.map_replicate]
  cases cell.truth <;> rfl

end Column

end LogPipe
