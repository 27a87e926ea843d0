import LogPipe.Proofs.Column.Uniformity

/-!
# Columns that are stacked in steps

Cells may come to a column alone, or out of a column of their own that has coerced them
already.  Their own column never changes the kind of the whole: it holds a cell of the kind
that its cells join to.  It changes what becomes of a cell only when the whole is a column
of texts or lists, since these keep the form that a number or a truth value was in.
-/

namespace LogPipe

namespace Kind

theorem joinAll_append (left right : List Kind) :
    joinAll (left ++ right) = join (joinAll left) (joinAll right) := by
  induction left with
  | nil => exact (null_join _).symm
  | cons kind left induction => rw [List.cons_append, joinAll, joinAll, induction, join_assoc]

end Kind

namespace Cell

theorem kind_under_float_of_isMissing {cell : Cell} (missing : cell.isMissing = true) :
    Kind.Under cell.kind .float := by
  cases cell <;> first | rfl | cases missing

theorem Fits.under {kind : Kind} {cell : Cell} (fits : cell.Fits kind) :
    Kind.Under cell.kind kind := by
  rcases fits with null | same
  · rw [null]
    exact Kind.null_join kind
  · rw [same]
    exact Kind.join_self kind

end Cell

namespace Column

section Kinds

variable {kind : Kind} {cell : Cell} {cells : List Cell}

theorem under_lossyKind (member : cell ∈ cells) : Kind.Under cell.kind (lossyKind cells) :=
  Kind.under_joinAll (List.mem_map_of_mem member)

theorem lossyKind_under (each : ∀ cell ∈ cells, Kind.Under cell.kind kind) :
    Kind.Under (lossyKind cells) kind := by
  apply Kind.joinAll_under
  intro other member
  obtain ⟨cell, inCells, rfl⟩ := List.mem_map.mp member
  exact each cell inCells

/-- A coerced cell has the kind that it is coerced to, unless it is missing. -/
theorem kind_coerce_or (under : Kind.Under cell.kind kind) :
    (coerce kind cell).kind = kind ∨ cell.kind = .null ∨
      cell.isMissing = true ∧ (kind = .text ∨ kind = .list) := by
  unfold Kind.Under at under
  cases missing : cell.isMissing with
  | true =>
      cases kind <;> cases cell <;>
        first
          | (cases under; done)
          | (cases missing; done)
          | simp [Cell.kind, coerce, fit]
  | false =>
      left
      cases kind <;> cases cell <;>
        first
          | (cases under; done)
          | (cases missing; done)
          | rfl
          | simp [coerce, wrap, asText, missing, Cell.kind]

/-- A kind above the numbers comes from a present cell, so some cell is coerced to a cell of
the kind that all of them join to. -/
theorem exists_kind_coerce (someKind : lossyKind cells ≠ .null) :
    ∃ cell ∈ cells, (coerce (lossyKind cells) cell).kind = lossyKind cells := by
  refine Classical.byContradiction fun none => someKind ?_
  have lost : ∀ cell ∈ cells, cell.kind = .null ∨
      cell.isMissing = true ∧ (lossyKind cells = .text ∨ lossyKind cells = .list) :=
    fun cell member => (kind_coerce_or (under_lossyKind member)).resolve_left fun same =>
      none ⟨cell, member, same⟩
  by_cases above : lossyKind cells = .text ∨ lossyKind cells = .list
  · have numeric : Kind.Under (lossyKind cells) .float := lossyKind_under fun cell member => by
      rcases lost cell member with null | ⟨missing, -⟩
      · rw [null]
        exact Kind.null_join _
      · exact Cell.kind_under_float_of_isMissing missing
    rcases above with isText | isList
    · rw [isText] at numeric
      cases numeric
    · rw [isList] at numeric
      cases numeric
  · have nulls : Kind.Under (lossyKind cells) .null := lossyKind_under fun cell member => by
      rw [(lost cell member).resolve_right fun other => above other.2]
      exact Kind.null_join _
    exact nulls.antisymm (Kind.null_join _)

/-- Coerced to the kind that they join to, cells still join to it. -/
theorem lossyKind_map_coerce (cells : List Cell) :
    lossyKind (cells.map (coerce (lossyKind cells))) = lossyKind cells := by
  refine Kind.Under.antisymm (lossyKind_under fun coerced member => ?_) ?_
  · obtain ⟨cell, inCells, rfl⟩ := List.mem_map.mp member
    exact (coerce_fits (under_lossyKind inCells)).under
  · by_cases isNull : lossyKind cells = .null
    · rw [isNull]
      exact Kind.null_join _
    · obtain ⟨cell, member, same⟩ := exists_kind_coerce isNull
      have under : Kind.Under (coerce (lossyKind cells) cell).kind _ :=
        under_lossyKind (List.mem_map_of_mem member)
      rwa [same] at under

end Kinds

theorem lossyKind_append (left right : List Cell) :
    lossyKind (left ++ right) = Kind.join (lossyKind left) (lossyKind right) := by
  rw [lossyKind, List.map_append, Kind.joinAll_append]
  rfl

/-- A column of their own does not change the kind that cells give to a larger one. -/
theorem lossyKind_restack (before inner after : List Cell) :
    lossyKind (before ++ (lossy inner).cells ++ after) = lossyKind (before ++ inner ++ after) := by
  simp only [lossyKind_append, lossy_eq, lossyKind_map_coerce]

/-- Cells that become the same in a column of a kind whether they come to it alone or out of
a column of their own. -/
def Transparent (kind : Kind) (cells : List Cell) : Prop :=
  ∀ cell ∈ cells, coerce kind (coerce (lossyKind cells) cell) = coerce kind cell

instance (kind : Kind) (cells : List Cell) : Decidable (Transparent kind cells) :=
  inferInstanceAs (Decidable (∀ cell ∈ cells, _))

/-- Whether kinds alone show that a column of their own changes nothing for cells: it has the
kind of the larger column, that one keeps no forms, or all present cells are of one kind. -/
def Aligned (kind : Kind) (cells : List Cell) : Prop :=
  lossyKind cells = kind ∨ (kind ≠ .text ∧ kind ≠ .list) ∨
    ∀ cell ∈ cells, cell.isMissing = true ∨ cell.kind = lossyKind cells

section Twice

variable {cell : Cell} {inner outer kind : Kind}

/-- A column of texts or lists has one form for missing cells. -/
theorem coerce_eq_null (missing : cell.isMissing = true)
    (keepsForms : kind = .text ∨ kind = .list) : coerce kind cell = .null := by
  rcases keepsForms with rfl | rfl <;> cases cell <;>
    first
      | (cases missing; done)
      | rfl
      | simp [coerce, wrap, asText, missing]

theorem isMissing_coerce (under : Kind.Under cell.kind kind) (missing : cell.isMissing = true) :
    (coerce kind cell).isMissing = true := by
  by_cases keepsForms : kind = .text ∨ kind = .list
  · rw [coerce_eq_null missing keepsForms]
    rfl
  · unfold Kind.Under at under
    rw [not_or] at keepsForms
    cases kind <;> first | (exact absurd rfl keepsForms.1) | (exact absurd rfl keepsForms.2) | skip
    all_goals
      cases cell <;> first | (cases under; done) | (cases missing; done) | rfl | exact missing

variable (lower : Kind.Under cell.kind inner) (upper : Kind.Under inner outer)

include lower upper

/-- Numbers and truth values get to a number on any way. -/
theorem coerce_coerce_of_ne (noText : outer ≠ .text) (noList : outer ≠ .list) :
    coerce outer (coerce inner cell) = coerce outer cell := by
  unfold Kind.Under at lower upper
  cases outer <;> first | contradiction | skip
  all_goals
    cases inner <;> first | (cases upper; done) | skip
  all_goals
    cases cell <;> first | (cases lower; done) | rfl | skip
  case float.int.bool value => cases value <;> rfl

theorem coerce_coerce_of_isMissing (missing : cell.isMissing = true) :
    coerce outer (coerce inner cell) = coerce outer cell := by
  by_cases keepsForms : outer = .text ∨ outer = .list
  · rw [coerce_eq_null missing keepsForms,
      coerce_eq_null (isMissing_coerce lower missing) keepsForms]
  · rw [not_or] at keepsForms
    exact coerce_coerce_of_ne lower upper keepsForms.1 keepsForms.2

omit lower upper in
theorem coerce_coerce_self (under : Kind.Under cell.kind kind) :
    coerce kind (coerce kind cell) = coerce kind cell := by
  by_cases missing : cell.isMissing = true
  · exact coerce_coerce_of_isMissing under (Kind.join_self kind) missing
  · have same : (coerce kind cell).kind = kind := by
      rcases kind_coerce_or under with same | null | ⟨isMissing, -⟩
      · exact same
      · cases cell <;> first | (cases null; done) | exact absurd rfl missing
      · exact absurd isMissing missing
    exact (congrArg (coerce · (coerce kind cell)) same).symm.trans (coerce_kind _)

end Twice

/-- Kinds can show that a column of their own changes nothing for cells. -/
theorem transparent_of_aligned {kind : Kind} {cells : List Cell}
    (under : Kind.Under (lossyKind cells) kind) (aligned : Aligned kind cells) :
    Transparent kind cells := by
  intro cell member
  have lower := under_lossyKind member
  rcases aligned with same | ⟨noText, noList⟩ | one
  · rw [same] at lower ⊢
    exact coerce_coerce_self lower
  · exact coerce_coerce_of_ne lower under noText noList
  · rcases one cell member with missing | same
    · exact coerce_coerce_of_isMissing lower under missing
    · rw [← same, coerce_kind]

/-- Cells stacked in steps are coerced twice, and in the end to the kind of all of them. -/
theorem lossy_restack (before inner after : List Cell) :
    lossy (before ++ (lossy inner).cells ++ after) =
      let kind := lossyKind (before ++ inner ++ after)
      ⟨kind, before.map (coerce kind) ++ inner.map (coerce kind ∘ coerce (lossyKind inner)) ++
        after.map (coerce kind)⟩ := by
  rw [lossy_eq, lossyKind_restack, lossy_eq inner]
  simp only [List.map_append, List.map_map]

/-- Stacked in steps or at once, the columns are the same exactly when the inner one is
transparent. -/
theorem lossy_restack_eq_iff {before inner after : List Cell} :
    lossy (before ++ (lossy inner).cells ++ after) = lossy (before ++ inner ++ after) ↔
      Transparent (lossyKind (before ++ inner ++ after)) inner := by
  rw [lossy_restack, lossy_eq, List.map_append, List.map_append]
  simp only [mk.injEq, true_and, List.append_cancel_right_eq, List.append_cancel_left_eq]
  exact List.map_inj_left

example : ¬Transparent .text [.int 1, .float 2.5] := by
  decide +kernel

end Column

end LogPipe
