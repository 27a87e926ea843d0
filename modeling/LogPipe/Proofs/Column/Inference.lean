import LogPipe.Proofs.Column.Reordering
import LogPipe.Proofs.Column.Uniformity
import Mathlib.Data.List.TakeWhile

/-!
# The kind of cells in another order

The common kind of some cells is found from the first cell to the last.  Two kinds that cannot
share a column stop the search, but only in front of the first list: behind it there is nothing
but the list kind.  So a list hides a conflict that comes later.  Where there is no list, or no
conflict, the search ends alike in every order, and the strict columns differ only by the order
of their cells.  Where there are both, one order is accepted and another refused.
-/

namespace LogPipe

namespace Kind

/-- Two kinds that can share a column. -/
def Mixes (left right : Kind) : Prop :=
  ∃ kind, common left right = .ok kind

instance (left right : Kind) : Decidable (Mixes left right) :=
  match found : common left right with
  | .ok kind => isTrue ⟨kind, found⟩
  | .error _ => isFalse fun ⟨_, other⟩ => nomatch found.symm.trans other

theorem Mixes.symm {left right : Kind} (mixes : Mixes left right) : Mixes right left := by
  revert mixes
  cases left <;> cases right <;> decide

theorem null_mixes (kind : Kind) : Mixes .null kind := by
  cases kind <;> decide

theorem mixes_list (kind : Kind) : Mixes kind .list := by
  cases kind <;> decide

/-- What shares a column with two kinds shares one with their common kind, lists apart. -/
theorem mixes_common_iff {left right kind : Kind} (other : Kind) (leftSingle : left ≠ .list)
    (rightSingle : right ≠ .list) (found : common left right = .ok kind) :
    Mixes kind other ↔ Mixes left other ∧ Mixes right other := by
  cases left <;> cases right <;>
    first
      | (cases found; done)
      | exact absurd rfl leftSingle
      | exact absurd rfl rightSingle
      | (cases found; cases other <;> decide)

/-- Only a list makes a list kind. -/
theorem common_ne_list {left right kind : Kind} (leftSingle : left ≠ .list)
    (rightSingle : right ≠ .list) (found : common left right = .ok kind) : kind ≠ .list := by
  rintro rfl
  have joined : join left right = .list := by rw [join, found]
  exact (join_eq_list_iff.mp joined).elim leftSingle rightSingle

/-- The kinds in front of the first list. -/
def beforeLists (cells : List Cell) : List Kind :=
  (cells.map Cell.kind).takeWhile (· != .list)

theorem beforeLists_eq {cells : List Cell} (noList : ∀ cell ∈ cells, cell.kind ≠ .list) :
    beforeLists cells = cells.map Cell.kind := by
  rw [beforeLists, List.takeWhile_eq_self_iff, List.forall_mem_map]
  exact fun cell member => bne_iff_ne.mpr (noList cell member)

/-- Nothing behind a list is looked at. -/
theorem commonFrom_list (cells : List Cell) : commonFrom .list cells = .ok .list := by
  induction cells with
  | nil => rfl
  | cons cell cells induction =>
      have absorbed : common .list cell.kind = .ok .list := by
        cases cell.kind <;> rfl
      rw [commonFrom, absorbed]
      exact induction

/-- The search for a common kind succeeds exactly when no two kinds in front of the first list
are in conflict. -/
theorem exists_commonFrom_iff {start : Kind} {cells : List Cell} (single : start ≠ .list) :
    (∃ kind, commonFrom start cells = .ok kind) ↔
      (start :: beforeLists cells).Pairwise Mixes := by
  induction cells generalizing start with
  | nil => exact iff_of_true ⟨start, rfl⟩ (List.pairwise_singleton _ _)
  | cons cell cells induction =>
      by_cases isList : cell.kind = .list
      · have found : common start cell.kind = .ok .list := by
          rw [isList]
          cases start <;> rfl
        have nothing : beforeLists (cell :: cells) = [] := by
          simp [beforeLists, isList]
        rw [commonFrom, found, nothing]
        exact iff_of_true ⟨.list, commonFrom_list cells⟩ (List.pairwise_singleton _ _)
      · have front : beforeLists (cell :: cells) = cell.kind :: beforeLists cells := by
          simp [beforeLists, isList]
        rw [front, commonFrom]
        cases met : common start cell.kind with
        | error error =>
            refine iff_of_false ?_ fun pairwise => ?_
            · rintro ⟨kind, found⟩
              cases found
            · obtain ⟨kind, found⟩ := List.rel_of_pairwise_cons pairwise List.mem_cons_self
              cases met.symm.trans found
        | ok next =>
            have mixes : Mixes start cell.kind := ⟨next, met⟩
            have each := fun other => mixes_common_iff other single isList met
            rw [induction (common_ne_list single isList met)]
            simp only [List.pairwise_cons, List.forall_mem_cons, each, mixes, true_and,
              forall_and, and_assoc]

/-- Cells that no list hides a conflict in: none of them is a list, or any two of them can share
a column. -/
def Clear (cells : List Cell) : Prop :=
  (∀ cell ∈ cells, cell.kind ≠ .list) ∨ (cells.map Cell.kind).Pairwise Mixes

instance (cells : List Cell) : Decidable (Clear cells) :=
  inferInstanceAs (Decidable (_ ∨ _))

section Reordering

variable {cells other : List Cell} {kind otherKind : Kind}

theorem exists_infer_iff :
    (∃ kind, infer cells = .ok kind) ↔ (beforeLists cells).Pairwise Mixes := by
  rw [infer, exists_commonFrom_iff (by decide), List.pairwise_cons]
  exact and_iff_right fun kind _ => null_mixes kind

/-- The kind that is found does not depend on the order. -/
theorem infer_unique (reordered : other.Perm cells) (found : infer cells = .ok kind)
    (otherFound : infer other = .ok otherKind) : otherKind = kind := by
  obtain ⟨joined, -, -⟩ := commonFrom_ok found
  obtain ⟨otherJoined, -, -⟩ := commonFrom_ok otherFound
  rw [joined, otherJoined]
  exact congrArg (join .null) (Column.lossyKind_perm reordered)

theorem pairwise_mixes_perm (reordered : other.Perm cells) :
    (other.map Cell.kind).Pairwise Mixes ↔ (cells.map Cell.kind).Pairwise Mixes :=
  (reordered.map Cell.kind).pairwise_iff Mixes.symm

/-- Without a hidden conflict a kind is found in every order or in none. -/
theorem Clear.exists_infer_perm (clear : Clear cells) (reordered : other.Perm cells) :
    (∃ kind, infer other = .ok kind) ↔ ∃ kind, infer cells = .ok kind := by
  rw [exists_infer_iff, exists_infer_iff]
  rcases clear with noList | mixed
  · have otherNoList : ∀ cell ∈ other, cell.kind ≠ .list :=
      fun cell member => noList cell (reordered.mem_iff.mp member)
    rw [beforeLists_eq noList, beforeLists_eq otherNoList]
    exact pairwise_mixes_perm reordered
  · have otherMixed := (pairwise_mixes_perm reordered).mpr mixed
    exact iff_of_true (otherMixed.sublist (List.takeWhile_sublist _))
      (mixed.sublist (List.takeWhile_sublist _))

/-- A list in front of all else hides every conflict. -/
theorem infer_list_first {first : Cell} (isList : first.kind = .list) :
    infer (first :: cells) = .ok .list := by
  rw [infer, commonFrom, isList]
  exact commonFrom_list cells

/-- A conflict in front of all else is found. -/
theorem infer_conflict_first {first second : Cell} (conflict : ¬Mixes first.kind second.kind) :
    ¬∃ kind, infer (first :: second :: cells) = .ok kind := by
  have firstSingle : first.kind ≠ .list := fun isList =>
    conflict (isList ▸ (mixes_list second.kind).symm)
  have secondSingle : second.kind ≠ .list := fun isList =>
    conflict (isList ▸ mixes_list first.kind)
  have front : beforeLists (first :: second :: cells) =
      first.kind :: second.kind :: beforeLists cells := by
    simp [beforeLists, firstSingle, secondSingle]
  rw [exists_infer_iff, front]
  exact fun pairwise => conflict (List.rel_of_pairwise_cons pairwise List.mem_cons_self)

/-- A hidden conflict shows in one order and is hidden in another. -/
theorem exists_orders_of_not_clear (notClear : ¬Clear cells) :
    (∃ accepted, accepted.Perm cells ∧ ∃ kind, infer accepted = .ok kind) ∧
      ∃ refused, refused.Perm cells ∧ ¬∃ kind, infer refused = .ok kind := by
  obtain ⟨someList, unmixed⟩ := not_or.mp notClear
  constructor
  · obtain ⟨first, member, isList⟩ : ∃ first ∈ cells, first.kind = .list := by
      simpa using someList
    exact ⟨first :: cells.erase first, (List.perm_cons_erase member).symm, .list,
      infer_list_first isList⟩
  · rw [List.pairwise_map, List.pairwise_iff_forall_sublist] at unmixed
    obtain ⟨first, second, both, conflict⟩ : ∃ first second, [first, second].Sublist cells ∧
        ¬Mixes first.kind second.kind := by
      simpa using unmixed
    obtain ⟨rest, reordered⟩ := both.exists_perm_append
    exact ⟨[first, second] ++ rest, reordered.symm, infer_conflict_first conflict⟩

end Reordering

end Kind

namespace Column

section Strict

variable {cells other : List Cell} {kind : Kind}

/-- A cell that shares a column of a kind can be made to fit it. -/
theorem exists_fit {cell : Cell} (shares : Kind.Shares cell.kind kind) :
    ∃ fitted, fit kind cell = .ok fitted := by
  unfold Kind.Shares at shares
  cases cell <;> cases kind <;> first | exact ⟨_, rfl⟩ | cases shares

/-- Cells with a common kind make a column of it, cell by cell. -/
theorem exists_ofCells (found : Kind.infer cells = .ok kind) :
    ∃ view : Cell → Cell, ∀ other : List Cell, (∀ cell ∈ other, cell ∈ cells) →
      ofKind kind other = .ok ⟨kind, other.map view⟩ := by
  obtain ⟨-, -, shares⟩ := Kind.commonFrom_ok found
  refine ⟨fun cell => ((fit kind cell).toOption.getD cell), fun other covered => ?_⟩
  have each : ∀ cell ∈ other, fit kind cell = .ok ((fit kind cell).toOption.getD cell) := by
    intro cell member
    obtain ⟨fitted, fits⟩ := exists_fit (shares cell (covered cell member))
    rw [fits]
    rfl
  have all : fitAll kind (other.map id) = .ok (other.map _) := fitAll_map each
  rw [List.map_id] at all
  rw [ofKind, all]
  rfl

/-- A strict column is built exactly when its cells have a common kind. -/
theorem exists_ofCells_iff :
    (∃ column, ofCells cells = .ok column) ↔ ∃ kind, Kind.infer cells = .ok kind := by
  constructor
  · rintro ⟨column, built⟩
    rw [ofCells] at built
    cases found : Kind.infer cells with
    | ok kind => exact ⟨kind, rfl⟩
    | error error =>
        rw [found] at built
        cases built
  · rintro ⟨kind, found⟩
    obtain ⟨view, built⟩ := exists_ofCells found
    exact ⟨_, by rw [ofCells, found]; exact built cells fun _ member => member⟩

/-- A column of the same kind with the same cells in some order. -/
def Rearranged (column other : Column) : Prop :=
  other.kind = column.kind ∧ other.cells.Perm column.cells

/-- Without a hidden conflict the strict columns fail alike or differ only by the order. -/
theorem alike_ofCells (clear : Kind.Clear cells) (reordered : other.Perm cells) :
    Alike Rearranged (ofCells cells) (ofCells other) := by
  have agree := clear.exists_infer_perm reordered
  cases found : Kind.infer cells with
  | error error =>
      have notFound : ¬∃ kind, Kind.infer other = .ok kind := by
        rw [agree, found]
        exact fun ⟨_, same⟩ => nomatch same
      cases otherFound : Kind.infer other with
      | error otherError =>
          rw [ofCells, ofCells, found, otherFound]
          exact .error error otherError
      | ok kind => exact absurd ⟨kind, otherFound⟩ notFound
  | ok kind =>
      obtain ⟨otherKind, otherFound⟩ := agree.mpr ⟨kind, found⟩
      obtain rfl := Kind.infer_unique reordered found otherFound
      obtain ⟨view, built⟩ := exists_ofCells found
      have inOrder := built cells fun _ member => member
      have rearranged := built other fun _ member => reordered.mem_iff.mp member
      rw [ofCells, ofCells, found, otherFound]
      simp only [inOrder, rearranged]
      exact .ok ⟨rfl, reordered.map view⟩

/-- The kind of cells does not depend on their order.  That there is one does not either, and
the strict column has its cells in the other order, exactly when there is no list among the
cells or no two of them are in conflict. -/
theorem ofCells_reordered (cells : List Cell) :
    (∀ other kind otherKind, other.Perm cells → Kind.infer cells = .ok kind →
      Kind.infer other = .ok otherKind → otherKind = kind) ∧
    ((∀ other, other.Perm cells →
      ((∃ kind, Kind.infer other = .ok kind) ↔ ∃ kind, Kind.infer cells = .ok kind)) ↔
        Kind.Clear cells) ∧
    ((∀ other, other.Perm cells → Alike Rearranged (ofCells cells) (ofCells other)) ↔
      Kind.Clear cells) := by
  have clear_of_agree (agree : ∀ other, other.Perm cells →
      ((∃ kind, Kind.infer other = .ok kind) ↔ ∃ kind, Kind.infer cells = .ok kind)) :
      Kind.Clear cells := by
    refine Classical.byContradiction fun notClear => ?_
    obtain ⟨⟨accepted, acceptedPerm, found⟩, refused, refusedPerm, notFound⟩ :=
      Kind.exists_orders_of_not_clear notClear
    exact notFound ((agree refused refusedPerm).mpr ((agree accepted acceptedPerm).mp found))
  refine ⟨fun other kind otherKind => Kind.infer_unique,
    ⟨clear_of_agree, fun clear other => clear.exists_infer_perm⟩,
    fun alike => clear_of_agree fun other reordered => ?_, fun clear other => alike_ofCells clear⟩
  have both := alike other reordered
  rw [← exists_ofCells_iff, ← exists_ofCells_iff]
  generalize ofCells cells = built, ofCells other = rearranged at both ⊢
  cases both with
  | error => exact iff_of_false (fun ⟨_, same⟩ => nomatch same) fun ⟨_, same⟩ => nomatch same
  | ok => exact iff_of_true ⟨_, rfl⟩ ⟨_, rfl⟩

/-- Status codes and response times beside a truth value, in two orders. -/
theorem ofCells_reordered_statuses :
    Kind.Clear [.int 200, .float 0.25, .bool false] ∧
      [Cell.bool false, .int 200, .float 0.25].Perm [.int 200, .float 0.25, .bool false] ∧
      Kind.infer [.int 200, .float 0.25, .bool false] = .ok .float ∧
      Kind.infer [.bool false, .int 200, .float 0.25] = .ok .float ∧
      Alike Rearranged (ofCells [.int 200, .float 0.25, .bool false])
        (ofCells [.bool false, .int 200, .float 0.25]) := by
  have clear : Kind.Clear [.int 200, .float 0.25, .bool false] := by decide
  have reordered : [Cell.bool false, .int 200, .float 0.25].Perm
      [.int 200, .float 0.25, .bool false] := by decide
  exact ⟨clear, reordered, rfl, rfl,
    (ofCells_reordered [.int 200, .float 0.25, .bool false]).2.2.mpr clear _ reordered⟩

/-- A list in front hides that a text and an integer cannot share a column. -/
theorem infer_hidden_conflict :
    [Cell.list [.text "b"], .text "a", .int 1].Perm [.text "a", .int 1, .list [.text "b"]] ∧
      Kind.infer [.list [.text "b"], .text "a", .int 1] = .ok .list ∧
      Kind.infer [.text "a", .int 1, .list [.text "b"]] =
        .error (.incompatible .text .int) :=
  ⟨by decide, rfl, rfl⟩

end Strict

end Column

end LogPipe
