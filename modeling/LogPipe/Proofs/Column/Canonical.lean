import LogPipe.Proofs.Cell.Rounding
import LogPipe.Proofs.Column.Reordering
import LogPipe.Proofs.Column.Restacking

/-!
# Lossy columns are canonical

Cells that are made a lossy column all get the kind of the column, apart from missing
markers.  No cell is lost or made up on the way, making a column of the cells of the column
once more changes nothing, and the order of the cells only decides their order in the column.
-/

namespace LogPipe

theorem Cell.isNaN_floatOfBool (value : Bool) : (Cell.floatOfBool value).isNaN = false := by
  cases value <;> decide +kernel

namespace Column

variable {kind : Kind} {cell : Cell}

theorem isMissing_wrap (cell : Cell) : (wrap cell).isMissing = cell.isMissing := by
  rw [wrap.eq_def]
  split
  · rfl
  · split
    · next missing => exact missing.symm
    · next present => exact (Bool.eq_false_iff.mpr present).symm

theorem isMissing_asText (cell : Cell) : (asText cell).isMissing = cell.isMissing := by
  rw [asText.eq_def]
  split
  · rfl
  · split
    · next missing => exact missing.symm
    · next present => exact (Bool.eq_false_iff.mpr present).symm

/-- A cell that a column can hold is missing in the column exactly when it was before. -/
theorem isMissing_coerce_eq (under : Kind.Under cell.kind kind) :
    (coerce kind cell).isMissing = cell.isMissing := by
  unfold Kind.Under at under
  cases kind with
  | list => exact isMissing_wrap cell
  | text => exact isMissing_asText cell
  | float =>
      cases cell with
      | bool value => exact Cell.isNaN_floatOfBool value
      | int value => exact Cell.isNaN_floatOfInt value
      | _ => rfl
  | _ => cases cell <;> first | rfl | cases under

theorem lossy_lossy (cells : List Cell) : lossy (lossy cells).cells = lossy cells := by
  rw [lossy_eq cells, lossy_eq, lossyKind_map_coerce, List.map_map]
  refine congrArg (mk (lossyKind cells)) (List.map_congr_left fun cell member => ?_)
  exact coerce_coerce_self (under_lossyKind member)

theorem isMissing_get?_lossy (cells : List Cell) (position : Nat) :
    ((lossy cells).get? position).map Cell.isMissing = cells[position]?.map Cell.isMissing := by
  rw [get?_lossy, Option.map_map]
  cases found : cells[position]? with
  | none => rfl
  | some cell =>
      exact congrArg some (isMissing_coerce_eq (under_lossyKind (List.mem_of_getElem? found)))

/-- A lossy column is a canonical form of its cells.  It has a cell for each of them, which is
a missing marker or has the kind of the column and is missing exactly where the given cell
is; it is the lossy column of its own cells; and the given cells in another order have the
column with its cells in that order. -/
theorem lossy_canonical (cells : List Cell) :
    (lossy cells).size = cells.length ∧
      (∀ cell ∈ (lossy cells).cells, cell.kind = .null ∨ cell.kind = (lossy cells).kind) ∧
      (∀ position, ((lossy cells).get? position).map Cell.isMissing =
        cells[position]?.map Cell.isMissing) ∧
      lossy (lossy cells).cells = lossy cells ∧
      ∀ positions : List Nat, positions.Perm (List.range cells.length) →
        lossy (positions.map fun position => cells[position]?.getD .null) =
          (lossy cells).take positions := by
  refine ⟨size_lossy cells, uniform_lossy cells, isMissing_get?_lossy cells, lossy_lossy cells,
    fun positions reordering => ?_⟩
  have reordered := reordered_lossy reordering fun position => cells[position]?.getD .null
  rw [map_range_getElem?] at reordered
  exact reordered.taken

/-- A NaN, a number, a text and a truth value in the order third, first, fourth, second: the
column of texts has no cell for the NaN, and the others move. -/
theorem lossy_canonical_mixed :
    lossy [.text "a", .float (0.0 / 0.0), .bool true, .int 7] =
      ⟨.text, [.text "a", .null, .text "true", .text "7"]⟩ := by
  have taken := (lossy_canonical [.float (0.0 / 0.0), .int 7, .text "a", .bool true]).2.2.2.2
    [2, 0, 3, 1] (by decide)
  have inOrder : (lossy [.float (0.0 / 0.0), .int 7, .text "a", .bool true]).take [2, 0, 3, 1] =
      ⟨.text, [.text "a", .null, .text "true", .text "7"]⟩ := by
    decide +kernel
  exact taken.trans inOrder

end Column

end LogPipe
