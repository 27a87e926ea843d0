import LogPipe.Proofs.Column.Lossy
import LogPipe.Proofs.Column.Constant

/-!
# Rows in another order

When the rows of a column are taken in another order, whatever is computed row by row is
computed for the same rows.  It fails in both orders or in none, and since a lossy column
reads only which kinds occur among its cells, the computed columns have one kind and differ
only by the order of their rows.
-/

namespace LogPipe

/-- Two results that both fail, with whatever errors, or are values that are related. -/
inductive Alike {ε δ α β : Type} (same : α → β → Prop) : Except ε α → Except δ β → Prop
  | error (left : ε) (right : δ) : Alike same (.error left) (.error right)
  | ok {left : α} {right : β} (shown : same left right) : Alike same (.ok left) (.ok right)

theorem Alike.map {ε δ α β γ η : Type} {same : α → β → Prop} {final : γ → η → Prop}
    {left : Except ε α} {right : Except δ β} {view : α → γ} {other : β → η}
    (alike : Alike same left right)
    (keeps : ∀ left right, same left right → final (view left) (other right)) :
    Alike final (left.map view) (right.map other) := by
  cases alike with
  | error left right => exact .error left right
  | ok shown => exact .ok (keeps _ _ shown)

/-- A list is read off position by position. -/
theorem map_range_getElem? {α : Type} (items : List α) (outside : α) :
    (List.range items.length).map (fun position => items[position]?.getD outside) = items := by
  apply List.ext_getElem
  · rw [List.length_map, List.length_range]
  · intro position _ inside
    rw [List.getElem_map, List.getElem_range, List.getElem?_eq_getElem inside, Option.getD_some]

section

variable {ε α β : Type} {step : α → Except ε β} {items : List α}

theorem mapM_eq_map {view : α → β} (each : ∀ item ∈ items, step item = .ok (view item)) :
    items.mapM step = .ok (items.map view) := by
  induction items with
  | nil => rfl
  | cons item items induction =>
      rw [List.forall_mem_cons] at each
      rw [List.mapM_cons, each.1, induction each.2]
      rfl

theorem exists_error_of_mapM {item : α} (member : item ∈ items)
    (fails : ∃ error, step item = .error error) : ∃ error, items.mapM step = .error error := by
  induction items with
  | nil => cases member
  | cons head items induction =>
      rw [List.mapM_cons]
      cases stepped : step head with
      | error error => exact ⟨error, rfl⟩
      | ok value =>
          rcases List.mem_cons.mp member with rfl | later
          · obtain ⟨error, failed⟩ := fails
            rw [failed] at stepped
            cases stepped
          · obtain ⟨error, failed⟩ := induction later
            rw [failed]
            exact ⟨error, rfl⟩

end

namespace Column

/-- A column with a number of rows beside the same column with its rows in another order. -/
structure Reordered (rows : Nat) (positions : List Nat) (column other : Column) : Prop where
  size_eq : column.size = rows
  taken : other = column.take positions

variable {rows : Nat} {positions : List Nat} {left right column : Column}

theorem cells_eq_map (sized : column.size = rows) :
    column.cells = (List.range rows).map column.cellAt := by
  subst sized
  exact (map_range_getElem? column.cells (Cell.missingFor column.kind)).symm

/-- A canonical column is made once more of cells that are read one after the other. -/
theorem lossy_map_range (canonical : lossy column.cells = column)
    {read : Nat → Cell} (each : ∀ position, read position = column.cells[position]?.getD .null) :
    lossy ((List.range column.size).map read) = column := by
  have cells : (List.range column.size).map read = column.cells := by
    rw [funext each]
    exact map_range_getElem? column.cells .null
  rw [cells, canonical]

section

variable (inside : ∀ position ∈ positions, position < rows)

include inside

/-- A column that is given row by row is given in another order by the rows in that order. -/
theorem reordered_map (kind : Kind) (view : Nat → Cell) :
    Reordered rows positions ⟨kind, (List.range rows).map view⟩ ⟨kind, positions.map view⟩ := by
  refine ⟨(List.length_map _).trans List.length_range, congrArg (mk kind) ?_⟩
  apply List.map_congr_left
  intro position member
  have shown : (List.range rows)[position]? = some position :=
    List.getElem?_range (inside position member)
  rw [cellAt, get?, List.getElem?_map, shown]
  rfl

theorem reordered_not (sized : column.size = rows) :
    Reordered rows positions column.not (column.take positions).not := by
  have mapped := cells_eq_map sized
  rw [not, not, ofTruths, ofTruths, mapped, take, List.map_map, List.map_map, List.map_map,
    List.map_map]
  exact reordered_map inside .bool _

end

theorem lt_of_reordering (reordering : positions.Perm (List.range rows)) :
    ∀ position ∈ positions, position < rows :=
  fun _ member => List.mem_range.mp (reordering.mem_iff.mp member)

/-- The kind of a lossy column does not depend on the order of its cells. -/
theorem lossyKind_perm {cells other : List Cell} (reordering : other.Perm cells) :
    lossyKind other = lossyKind cells :=
  lossyKind_congr (fun _ member => Or.inr (reordering.mem_iff.mp member))
    (fun _ member => Or.inr (reordering.mem_iff.mpr member))

variable (reordering : positions.Perm (List.range rows))

include reordering

/-- Lossy columns of the same cells in another order differ only by that order. -/
theorem reordered_lossy (view : Nat → Cell) :
    Reordered rows positions (lossy ((List.range rows).map view)) (lossy (positions.map view)) := by
  have sameKind := lossyKind_perm (reordering.map view)
  rw [lossy_eq, lossy_eq, sameKind, List.map_map, List.map_map]
  exact reordered_map (lt_of_reordering reordering) _ _

theorem reordered_replicate (cell : Cell) :
    Reordered rows positions (replicate rows cell) (replicate rows cell) := by
  have lossyRows := reordered_lossy reordering fun _ => cell
  have length : positions.length = rows := reordering.length_eq.trans List.length_range
  rwa [List.map_const', List.map_const', length, List.length_range] at lossyRows

/-- What may fail in a row fails in both orders or in none, and makes the same column. -/
theorem alike_rows {ε : Type} (step : Nat → Except ε Cell) :
    Alike (fun cells other => Reordered rows positions (lossy cells) (lossy other))
      ((List.range rows).mapM step) (positions.mapM step) := by
  by_cases fails : ∃ row ∈ List.range rows, ∃ error, step row = .error error
  · obtain ⟨row, member, failed⟩ := fails
    obtain ⟨error, inOrder⟩ := exists_error_of_mapM member failed
    obtain ⟨other, reordered⟩ := exists_error_of_mapM (reordering.mem_iff.mpr member) failed
    rw [inOrder, reordered]
    exact .error error other
  · have each : ∀ row ∈ List.range rows, step row = .ok ((step row).toOption.getD .null) := by
      intro row member
      cases stepped : step row with
      | error error => exact absurd ⟨row, member, error, stepped⟩ fails
      | ok cell => rfl
    have eachReordered := fun row member => each row (reordering.mem_iff.mp member)
    rw [mapM_eq_map each, mapM_eq_map eachReordered]
    exact .ok (reordered_lossy reordering _)

omit reordering in
theorem arithmeticCells_map (operator : Arithmetic) (left right : Nat → Cell)
    (positions : List Nat) :
    arithmeticCells operator (positions.map left) (positions.map right) =
      positions.mapM fun position => operator.apply (left position) (right position) := by
  induction positions with
  | nil => rfl
  | cons position positions induction =>
      rw [List.map_cons, List.map_cons, arithmeticCells, List.mapM_cons, induction]
      cases operator.apply (left position) (right position) with
      | error error => rfl
      | ok cell =>
          cases positions.mapM fun position =>
              operator.apply (left position) (right position) with
          | error error => rfl
          | ok cells => rfl

omit reordering in
theorem size_eq_of_take (left right : Column) (positions : List Nat) :
    ((left.take positions).size != (right.take positions).size) = false := by
  simp [size, take]

omit reordering in
theorem size_eq_of_rows (leftSize : left.size = rows) (rightSize : right.size = rows) :
    (left.size != right.size) = false := by
  simp [leftSize, rightSize]

theorem alike_arithmetic (operator : Arithmetic) (leftSize : left.size = rows)
    (rightSize : right.size = rows) :
    Alike (Reordered rows positions) (arithmetic operator left right)
      (arithmetic operator (left.take positions) (right.take positions)) := by
  rw [arithmetic, arithmetic, size_eq_of_rows leftSize rightSize, size_eq_of_take,
    cells_eq_map leftSize, cells_eq_map rightSize, take, take, arithmeticCells_map,
    arithmeticCells_map]
  exact (alike_rows reordering _).map fun _ _ reordered => reordered

theorem alike_zipTruths (f : Cell → Cell → Option Bool) (leftSize : left.size = rows)
    (rightSize : right.size = rows) :
    Alike (Reordered rows positions) (zipTruths f left right)
      (zipTruths f (left.take positions) (right.take positions)) := by
  rw [zipTruths, zipTruths, size_eq_of_rows leftSize rightSize, size_eq_of_take,
    cells_eq_map leftSize, cells_eq_map rightSize, take, take, List.zipWith_map,
    List.zipWith_map, List.zipWith_self, List.zipWith_self, ofTruths, ofTruths, List.map_map,
    List.map_map]
  exact .ok (reordered_map (lt_of_reordering reordering) .bool _)

end Column

end LogPipe
