import LogPipe.Proofs.Cell.Comparison
import LogPipe.Proofs.Cell.Sorting
import LogPipe.Proofs.Stats.Accumulator
import LogPipe.Proofs.Stats.Tallies

/-!
# Reducers that see no order

Four reducers treat the present cells of a group as a set or as a bag: they count them, they
count their keys, or they choose the first or the last of them in the order of cells.  Where
this order is linear, the chosen cell is the only one that comes before, or after, all others.
-/

namespace LogPipe

open Reducer

theorem Reducer.present_perm {cells others : List Cell} (perm : cells.Perm others) :
    (present cells).Perm (present others) :=
  perm.filter _

section Extremes

variable {kind : Kind} {cells others : List Cell} {wanted : Ordering}

/-- A cell that comes before every other one in the wanted direction. -/
def IsExtreme (wanted : Ordering) (cells : List Cell) (best : Cell) : Prop :=
  best ∈ cells ∧ ∀ cell ∈ cells, cell = best ∨ best.totalCompare cell = wanted

theorem Cell.Sorts.trans_of_ne (sorts : Cell.Sorts kind) (directed : wanted ≠ .eq)
    {first second third : Cell} (isFirst : Cell.IsPresent kind first)
    (isSecond : Cell.IsPresent kind second) (isThird : Cell.IsPresent kind third)
    (lower : first.totalCompare second = wanted) (upper : second.totalCompare third = wanted) :
    first.totalCompare third = wanted := by
  cases wanted with
  | eq => exact absurd rfl directed
  | lt => exact sorts.trans isFirst isSecond isThird lower upper
  | gt =>
      -- downwards is upwards with the operands exchanged
      rw [Cell.totalCompare_swap, Ordering.swap_eq_gt] at lower upper ⊢
      exact sorts.trans isThird isSecond isFirst upper lower

/-- Of two present cells of a sorted kind the better one comes first. -/
theorem better_cases (sorts : Cell.Sorts kind) (directed : wanted ≠ .eq) {best cell : Cell}
    (isBest : Cell.IsPresent kind best) (isCell : Cell.IsPresent kind cell) :
    better wanted best cell = cell ∧ cell.totalCompare best = wanted ∨
      better wanted best cell = best ∧ (cell = best ∨ best.totalCompare cell = wanted) := by
  rw [better]
  by_cases improves : cell.totalCompare best = wanted
  · exact Or.inl ⟨if_pos (beq_iff_eq.mpr improves), improves⟩
  · refine Or.inr ⟨if_neg (mt beq_iff_eq.mp improves), ?_⟩
    rw [Cell.totalCompare_swap cell best]
    cases compared : cell.totalCompare best with
    | eq => exact Or.inl (sorts.eq_of_eq isCell isBest compared)
    | lt => cases wanted <;> simp_all
    | gt => cases wanted <;> simp_all

theorem isExtreme_foldFrom (sorts : Cell.Sorts kind) (directed : wanted ≠ .eq)
    (present : ∀ cell ∈ cells, Cell.IsPresent kind cell) {best : Cell}
    (folded : foldFrom id (better wanted) cells = some best) : IsExtreme wanted cells best := by
  induction cells using List.reverseRecOn generalizing best with
  | nil => cases folded
  | append_singleton cells cell induction =>
      rw [List.forall_mem_append, List.forall_mem_singleton] at present
      obtain ⟨presentBefore, isCell⟩ := present
      rw [foldFrom_append_singleton, Option.some_inj] at folded
      cases earlier : foldFrom id (better wanted) cells with
      | none =>
          have empty := foldFrom_eq_none_iff.mp earlier
          rw [earlier] at folded
          subst empty folded
          exact ⟨List.mem_singleton_self _,
            fun other member => Or.inl (List.mem_singleton.mp member)⟩
      | some previous =>
          obtain ⟨member, first⟩ := induction presentBefore earlier
          have isPrevious := presentBefore previous member
          rw [earlier] at folded
          rw [Option.map_some, Option.getD_some] at folded
          rw [IsExtreme, List.forall_mem_append, List.forall_mem_singleton, List.mem_append,
            List.mem_singleton, ← folded]
          rcases better_cases sorts directed isPrevious isCell with
            ⟨chosen, improves⟩ | ⟨chosen, last⟩
          · rw [chosen]
            refine ⟨Or.inr rfl, fun other inBefore => Or.inr ?_, Or.inl rfl⟩
            rcases first other inBefore with rfl | below
            · exact improves
            · exact sorts.trans_of_ne directed isCell isPrevious (presentBefore other inBefore)
                improves below
          · rw [chosen]
            exact ⟨Or.inl member, first, last⟩

theorem IsExtreme.perm {best : Cell} (isBest : IsExtreme wanted cells best)
    (perm : cells.Perm others) : IsExtreme wanted others best :=
  ⟨perm.mem_iff.mp isBest.1, fun cell member => isBest.2 cell (perm.mem_iff.mpr member)⟩

theorem IsExtreme.unique (directed : wanted ≠ .eq) {best other : Cell}
    (isBest : IsExtreme wanted cells best) (isOther : IsExtreme wanted cells other) :
    best = other := by
  rcases isBest.2 other isOther.1 with same | before
  · exact same.symm
  · rcases isOther.2 best isBest.1 with same | after
    · exact same
    · -- each of two different cells cannot come before the other
      rw [Cell.totalCompare_swap, after] at before
      cases wanted with
      | eq => exact absurd rfl directed
      | lt => cases before
      | gt => cases before

/-- The extreme of present cells of a sorted kind does not depend on their order. -/
theorem extreme_perm (sorts : Cell.Sorts kind) (directed : wanted ≠ .eq)
    (ofKind : ∀ cell ∈ cells, cell.isMissing = false → cell.kind = kind)
    (perm : cells.Perm others) : extreme wanted cells = extreme wanted others := by
  have isPresent : ∀ cell ∈ Reducer.present cells, Cell.IsPresent kind cell := by
    intro cell member
    obtain ⟨inCells, there⟩ := List.mem_filter.mp member
    rw [Bool.not_eq_true'] at there
    exact ⟨ofKind cell inCells there, there⟩
  have reordered := present_perm perm
  rw [extreme_eq, extreme_eq]
  cases folded : foldFrom id (better wanted) (Reducer.present cells) with
  | none =>
      rw [foldFrom_eq_none_iff.mp folded] at reordered
      rw [reordered.symm.eq_nil]
      rfl
  | some best =>
      cases otherFolded : foldFrom id (better wanted) (Reducer.present others) with
      | none =>
          rw [foldFrom_eq_none_iff.mp otherFolded] at reordered
          rw [reordered.eq_nil] at folded
          cases folded
      | some other =>
          have isBest := isExtreme_foldFrom sorts directed isPresent folded
          have isOther := isExtreme_foldFrom sorts directed
            (fun cell member => isPresent cell (reordered.mem_iff.mpr member)) otherFolded
          rw [isBest.unique directed (isOther.perm reordered.symm)]

end Extremes

/-- Cells have numbers when each of them that is present has one. -/
theorem Number.ofCells_error_iff {cells : List Cell} :
    (∃ error, ofCells cells = .error error) ↔
      ∃ cell ∈ cells, ∃ error, ofCell cell = .error error := by
  induction cells with
  | nil => simp [ofCells]
  | cons cell cells induction =>
      simp only [List.mem_cons, exists_eq_or_imp]
      rw [← induction, ofCells]
      cases ofCell cell with
      | error error => simp
      | ok number => cases ofCells cells <;> simp

/-- Whether a reducer fails does not depend on the order of the cells. -/
theorem AggregateFunction.reduce_error_perm {function : AggregateFunction}
    {cells others : List Cell} (perm : cells.Perm others) :
    (∃ error, function.reduce cells = .error error) ↔
      ∃ error, function.reduce others = .error error := by
  have reordered := present_perm perm
  rw [reduce_error_iff, reduce_error_iff, numbers, numbers, Number.ofCells_error_iff,
    Number.ofCells_error_iff]
  simp only [reordered.mem_iff]

/-- A function that sees its cells as a set or as a bag. -/
def AggregateFunction.IsSetLike (function : AggregateFunction) : Prop :=
  function ∈ [.count, .min, .max, .distinctCount]

instance (function : AggregateFunction) : Decidable function.IsSetLike :=
  inferInstanceAs (Decidable (function ∈ _))

/-- Such a function reduces the cells of a sorted kind the same way in every order. -/
theorem AggregateFunction.IsSetLike.reduce_perm {function : AggregateFunction}
    (setLike : function.IsSetLike) {kind : Kind} (noList : kind ≠ .list) {cells others : List Cell}
    (ofKind : ∀ cell ∈ cells, cell.isMissing = false → cell.kind = kind)
    (perm : cells.Perm others) : function.reduce cells = function.reduce others := by
  have sorts := Cell.sorts_of_ne_list noList
  have least : Reducer.min cells = Reducer.min others :=
    extreme_perm sorts (by decide) ofKind perm
  have greatest : Reducer.max cells = Reducer.max others :=
    extreme_perm sorts (by decide) ofKind perm
  have number : Reducer.count cells = Reducer.count others := by
    rw [Reducer.count, Reducer.count, (present_perm perm).length_eq]
  have distinct : Reducer.distinctCount cells = Reducer.distinctCount others := by
    rw [Reducer.distinctCount, Reducer.distinctCount,
      Tally.length_ofCells_perm (present_perm perm)]
  cases function with
  | count => exact congrArg Except.ok number
  | min => exact congrArg Except.ok least
  | max => exact congrArg Except.ok greatest
  | distinctCount => exact congrArg Except.ok distinct
  | _ => exact absurd setLike (by decide)

end LogPipe
