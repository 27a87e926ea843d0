import LogPipe.Proofs.Column.Lossy
import LogPipe.Proofs.Except
import LogPipe.Proofs.Table.WellFormed

/-!
# Uniform columns

Every way in which the library builds a column gives a uniform one: the cells fit the kind
of the column, or are missing.  So they also fit when a column is gathered at positions that may
be absent, and the only thing that happens to them then is that a missing cell of another kind
becomes the marker of the column.
-/

namespace LogPipe

namespace Cell

theorem missingFor_fits (kind : Kind) : (missingFor kind).Fits kind := by
  cases kind <;> decide

/-- A cast gives a cell of the kind that it is asked for. -/
theorem castTo_fits {kind : Kind} {cell result : Cell} (done : castTo kind cell = .ok result) :
    result.Fits kind := by
  cases kind <;> cases cell <;> simp only [castTo] at done <;>
    first
      | (cases done; done)
      | (cases done; first | exact Or.inl rfl | exact Or.inr rfl)
      | (repeat' split at done) <;> cases done <;> exact Or.inr rfl

end Cell

namespace Column

/-- A cell is coerced to a cell of the kind above it. -/
theorem coerce_fits {kind : Kind} {cell : Cell} (under : Kind.Under cell.kind kind) :
    (coerce kind cell).Fits kind := by
  unfold Kind.Under at under
  cases kind with
  | text =>
      rw [coerce, asText.eq_def]
      split
      · exact Or.inr rfl
      · split
        · exact Or.inl rfl
        · exact Or.inr rfl
  | list =>
      rw [coerce, wrap.eq_def]
      split
      · exact Or.inr rfl
      · split
        · exact Or.inl rfl
        · exact Or.inr rfl
  | _ =>
      cases cell <;> first | (cases under; done) | exact Or.inl rfl | exact Or.inr rfl

theorem uniform_lossy (cells : List Cell) : (lossy cells).Uniform := by
  rw [lossy_eq]
  intro shown member
  obtain ⟨cell, inCells, rfl⟩ := List.mem_map.mp member
  exact coerce_fits (Kind.under_joinAll (List.mem_map_of_mem inCells))

theorem uniform_ofTruths (values : List (Option Bool)) : (ofTruths values).Uniform := by
  intro cell member
  obtain ⟨value, -, rfl⟩ := List.mem_map.mp member
  cases value with
  | none => exact Or.inl rfl
  | some value => exact Or.inr rfl

theorem size_ofTruths (values : List (Option Bool)) : (ofTruths values).size = values.length := by
  rw [size, ofTruths, List.length_map]

theorem uniform_replicate (count : Nat) (cell : Cell) : (replicate count cell).Uniform :=
  uniform_lossy _

theorem size_replicate (count : Nat) (cell : Cell) : (replicate count cell).size = count := by
  rw [replicate, size_lossy, List.length_replicate]

section Taking

variable {column : Column}

/-- Also outside the column there is a missing cell of its kind. -/
theorem cellAt_fits (uniform : column.Uniform) (position : Nat) :
    (column.cellAt position).Fits column.kind := by
  rw [cellAt]
  cases found : column.get? position with
  | none => exact Cell.missingFor_fits column.kind
  | some cell => exact uniform cell (List.mem_of_getElem? found)

theorem uniform_take (uniform : column.Uniform) (positions : List Nat) :
    (column.take positions).Uniform := by
  intro cell member
  obtain ⟨position, -, rfl⟩ := List.mem_map.mp member
  exact cellAt_fits uniform position

theorem size_take (column : Column) (positions : List Nat) :
    (column.take positions).size = positions.length := by
  rw [size, take, List.length_map]

end Taking

section OfKind

variable {kind : Kind}

theorem fits_of_fit {cell result : Cell} (fitted : fit kind cell = .ok result) :
    result.Fits kind := by
  rw [fit] at fitted
  split at fitted
  · next same =>
      cases fitted
      exact Or.inr (eq_of_beq same)
  · rw [Cell.cast.eq_def] at fitted
    split at fitted
    · cases fitted
      exact Cell.missingFor_fits kind
    · split at fitted
      · next same =>
          cases fitted
          exact Or.inr (eq_of_beq same)
      · exact Cell.castTo_fits fitted

theorem fitAll_eq_ok {cells fitted : List Cell} (done : fitAll kind cells = .ok fitted) :
    fitted.length = cells.length ∧ ∀ cell ∈ fitted, cell.Fits kind := by
  induction cells generalizing fitted with
  | nil =>
      cases done
      exact ⟨rfl, List.forall_mem_nil _⟩
  | cons cell cells induction =>
      rw [fitAll] at done
      cases headDone : fit kind cell with
      | error error =>
          rw [headDone] at done
          cases done
      | ok head =>
          rw [headDone] at done
          cases restDone : fitAll kind cells with
          | error error =>
              rw [restDone] at done
              cases done
          | ok rest =>
              rw [restDone] at done
              cases done
              obtain ⟨sameLength, fits⟩ := induction restDone
              exact ⟨congrArg Nat.succ sameLength,
                List.forall_mem_cons.mpr ⟨fits_of_fit headDone, fits⟩⟩

/-- A column that is built for a kind is uniform and has all cells. -/
theorem ofKind_eq_ok {cells : List Cell} {column : Column}
    (built : ofKind kind cells = .ok column) :
    column.size = cells.length ∧ column.Uniform := by
  obtain ⟨fitted, done, rfl⟩ := Except.map_eq_ok_iff.mp built
  exact fitAll_eq_ok done

end OfKind

section Reindexing

variable {kind : Kind} {column : Column}

/-- What a column of a kind shows for a cell that may be absent. -/
def shown (kind : Kind) : Option Cell → Cell
  | none => Cell.missingFor kind
  | some cell =>
      if cell.isMissing && cell.kind != kind then Cell.missingFor kind else cell

theorem fit_missingFor (kind : Kind) :
    fit kind (Cell.missingFor kind) = .ok (Cell.missingFor kind) := by
  cases kind <;> rfl

theorem fit_of_fits {cell : Cell} (fits : cell.Fits kind) :
    fit kind cell = .ok (shown kind (some cell)) := by
  by_cases same : cell.kind = kind
  · rw [fit, shown, if_pos (beq_iff_eq.mpr same)]
    simp [same]
  · have isNull : cell.kind = .null := fits.resolve_right same
    rw [fit, if_neg (mt beq_iff_eq.mp same)]
    cases cell with
    | missing marker =>
        have other : (Cell.missing marker).isMissing && (Cell.missing marker).kind != kind := by
          simpa [Cell.isMissing] using same
        rw [shown, if_pos other]
        rfl
    | _ => cases isNull

theorem fitAll_map {α : Type} {items : List α} {view fitted : α → Cell}
    (each : ∀ item ∈ items, fit kind (view item) = .ok (fitted item)) :
    fitAll kind (items.map view) = .ok (items.map fitted) := by
  induction items with
  | nil => rfl
  | cons item items induction =>
      rw [List.forall_mem_cons] at each
      rw [List.map_cons, fitAll, each.1, induction each.2]
      rfl

/-- Gathering a uniform column inside its rows succeeds. -/
theorem reindex_of_uniform (uniform : column.Uniform) {positions : List (Option Nat)}
    (inside : ∀ position, some position ∈ positions → position < column.size) :
    column.reindex positions =
      .ok ⟨column.kind, positions.map fun position =>
        shown column.kind (position.bind column.get?)⟩ := by
  rw [reindex, ofKind]
  refine congrArg (Except.map (Column.mk column.kind)) (fitAll_map ?_)
  intro position member
  cases position with
  | none => exact fit_missingFor column.kind
  | some position =>
      have there : column.get? position = some (column.cellAt position) := by
        rw [cellAt, get?, List.getElem?_eq_getElem (inside position member)]
        rfl
      simp only [Option.bind_some, there]
      exact fit_of_fits (uniform _ (List.mem_of_getElem? there))

end Reindexing

end Column

end LogPipe
