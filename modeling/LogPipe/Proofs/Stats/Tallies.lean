import LogPipe.Stats.Reducer
import Mathlib.Data.List.Induction

/-!
# Cells counted by their keys

Counting cells one after the other keeps three things: every key that was seen has one tally,
a tally shows the first cell with its key and how many cells have it, and the tallies are in the
order in which their keys were first seen.
-/

namespace LogPipe.Tally

variable {cells : List Cell} {tallies : List Tally} {cell : Cell} {tally : Tally}

/-! ## Counting a cell -/

/-- What counting a cell makes of a tally. -/
def counting (cell : Cell) (tally : Tally) : Tally :=
  if tally.key == cell.key then { tally with count := tally.count + 1 } else tally

theorem key_counting (cell : Cell) (tally : Tally) : (counting cell tally).key = tally.key := by
  rw [counting]
  split <;> rfl

theorem map_key_counting (cell : Cell) (tallies : List Tally) :
    (tallies.map (counting cell)).map Tally.key = tallies.map Tally.key := by
  rw [List.map_map]
  exact List.map_congr_left fun tally _ => key_counting cell tally

theorem insert_known (known : cell.key ∈ tallies.map Tally.key) :
    insert tallies cell = tallies.map (counting cell) := by
  rw [insert, if_pos (by simpa using known)]
  rfl

theorem insert_new (unknown : cell.key ∉ tallies.map Tally.key) :
    insert tallies cell = tallies ++ [⟨cell.key, cell, 1⟩] := by
  rw [insert, if_neg (by simpa using unknown)]

theorem ofCells_append_singleton (cells : List Cell) (cell : Cell) :
    ofCells (cells ++ [cell]) = insert (ofCells cells) cell := by
  rw [ofCells, List.foldl_append]
  rfl

/-! ## The keys -/

/-- The tallies of cells are those of their keys, each key once. -/
theorem keys_ofCells (cells : List Cell) :
    ((ofCells cells).map Tally.key).Nodup ∧
      ∀ key, key ∈ (ofCells cells).map Tally.key ↔ key ∈ cells.map Cell.key := by
  induction cells using List.reverseRecOn with
  | nil => exact ⟨List.nodup_nil, fun key => Iff.rfl⟩
  | append_singleton cells cell induction =>
      obtain ⟨distinct, listed⟩ := induction
      rw [ofCells_append_singleton]
      simp only [List.map_append, List.map_singleton, List.mem_append, List.mem_singleton]
      by_cases known : cell.key ∈ (ofCells cells).map Tally.key
      · rw [insert_known known, map_key_counting]
        refine ⟨distinct, fun key => ?_⟩
        rw [listed]
        constructor
        · exact Or.inl
        · rintro (earlier | rfl)
          · exact earlier
          · exact (listed _).mp known
      · rw [insert_new known, List.map_append]
        refine ⟨(List.perm_append_singleton _ _).nodup_iff.mpr
          (List.nodup_cons.mpr ⟨known, distinct⟩), fun key => ?_⟩
        rw [List.mem_append, List.map_singleton, List.mem_singleton, listed]

theorem length_ofCells_perm {cells others : List Cell} (perm : cells.Perm others) :
    (ofCells cells).length = (ofCells others).length := by
  obtain ⟨distinct, listed⟩ := keys_ofCells cells
  obtain ⟨otherDistinct, otherListed⟩ := keys_ofCells others
  have sameKeys : ((ofCells cells).map Tally.key).Perm ((ofCells others).map Tally.key) := by
    rw [List.perm_ext_iff_of_nodup distinct otherDistinct]
    intro key
    rw [listed, otherListed]
    exact (perm.map Cell.key).mem_iff
  have lengths := sameKeys.length_eq
  rwa [List.length_map, List.length_map] at lengths

/-! ## What a tally shows -/

/-- A tally that shows the first cell with its key and counts the cells with the key. -/
structure Counts (cells : List Cell) (tally : Tally) : Prop where
  first : cells.find? (fun cell => cell.key == tally.key) = some tally.cell
  count : tally.count = (cells.map Cell.key).count tally.key

theorem Counts.key_cell (counts : tally.Counts cells) : tally.cell.key = tally.key := by
  have same := List.find?_some counts.first
  exact beq_iff_eq.mp same

theorem Counts.key_mem (counts : tally.Counts cells) : tally.key ∈ cells.map Cell.key :=
  List.mem_map.mpr ⟨tally.cell, List.mem_of_find?_eq_some counts.first, counts.key_cell⟩

/-- A tally of another key is not touched by a cell. -/
theorem Counts.other (counts : tally.Counts cells) (other : tally.key ≠ cell.key) :
    tally.Counts (cells ++ [cell]) := by
  refine ⟨?_, ?_⟩
  · rw [List.find?_append, counts.first, Option.some_or]
  · rw [List.map_append, List.count_append, counts.count, List.map_singleton,
      List.count_singleton, if_neg (by simpa using Ne.symm other), Nat.add_zero]

/-- The tally of its key counts a cell. -/
theorem Counts.again (counts : tally.Counts cells) (same : tally.key = cell.key) :
    ({ tally with count := tally.count + 1 } : Tally).Counts (cells ++ [cell]) := by
  refine ⟨?_, ?_⟩
  · rw [List.find?_append, counts.first, Option.some_or]
  · rw [List.map_append, List.count_append, ← counts.count, List.map_singleton,
      List.count_singleton, if_pos (by simpa using same.symm)]

theorem Counts.counting (counts : tally.Counts cells) (cell : Cell) :
    (counting cell tally).Counts (cells ++ [cell]) := by
  rw [Tally.counting]
  split
  · next same => exact counts.again (beq_iff_eq.mp same)
  · next other => exact counts.other fun same => other (beq_iff_eq.mpr same)

/-- A cell whose key was not seen gets a tally of its own. -/
theorem counts_new (unseen : cell.key ∉ cells.map Cell.key) :
    (⟨cell.key, cell, 1⟩ : Tally).Counts (cells ++ [cell]) := by
  refine ⟨?_, ?_⟩
  · have none : cells.find? (fun other => other.key == cell.key) = none := by
      rw [List.find?_eq_none]
      intro other member same
      exact unseen (List.mem_map.mpr ⟨other, member, beq_iff_eq.mp same⟩)
    rw [List.find?_append, none, Option.none_or, List.find?_singleton, beq_self_eq_true, if_pos rfl]
  · rw [List.map_append, List.count_append, List.count_eq_zero_of_not_mem unseen,
      List.map_singleton, List.count_singleton_self, Nat.zero_add]

/-! ## The order of the tallies -/

/-- The position at which the key of a tally is first seen. -/
def seenAt (cells : List Cell) (tally : Tally) : Nat :=
  (cells.map Cell.key).idxOf tally.key

/-- More cells do not move what was seen before. -/
theorem Counts.seenAt_append (counts : tally.Counts cells) (later : List Cell) :
    tally.seenAt (cells ++ later) = tally.seenAt cells := by
  rw [seenAt, seenAt, List.map_append, List.idxOf_append, if_pos counts.key_mem]

theorem Counts.seenAt_counting (counts : tally.Counts cells) (cell : Cell) :
    (Tally.counting cell tally).seenAt (cells ++ [cell]) = tally.seenAt cells := by
  rw [← counts.seenAt_append [cell], seenAt, seenAt, key_counting]

/-- Tallies of cells in the order in which their keys are first seen. -/
structure Tallies (cells : List Cell) (tallies : List Tally) : Prop where
  counts : ∀ tally ∈ tallies, tally.Counts cells
  ordered : tallies.Pairwise fun earlier later => earlier.seenAt cells < later.seenAt cells

/-- A cell that the tallies count leaves them in their order. -/
theorem Tallies.again (before : Tallies cells tallies) (cell : Cell) :
    Tallies (cells ++ [cell]) (tallies.map (counting cell)) := by
  refine ⟨?_, ?_⟩
  · rw [List.forall_mem_map]
    exact fun tally member => (before.counts tally member).counting cell
  · rw [List.pairwise_map]
    refine before.ordered.imp_of_mem fun isEarlier isLater earlier => ?_
    rwa [(before.counts _ isEarlier).seenAt_counting, (before.counts _ isLater).seenAt_counting]

/-- A cell whose key was not seen is the last that is seen. -/
theorem seenAt_new (unseen : cell.key ∉ cells.map Cell.key) :
    (⟨cell.key, cell, 1⟩ : Tally).seenAt (cells ++ [cell]) = cells.length := by
  rw [seenAt, List.map_append, List.idxOf_append, if_neg unseen, List.map_singleton,
    List.idxOf_cons_self, Nat.zero_add, List.length_map]

theorem Tallies.new (before : Tallies cells tallies) (unseen : cell.key ∉ cells.map Cell.key) :
    Tallies (cells ++ [cell]) (tallies ++ [⟨cell.key, cell, 1⟩]) := by
  refine ⟨?_, ?_⟩
  · rw [List.forall_mem_append, List.forall_mem_singleton]
    refine ⟨fun tally member => (before.counts tally member).other ?_, counts_new unseen⟩
    exact fun same => unseen (same ▸ (before.counts tally member).key_mem)
  · rw [List.pairwise_append]
    refine ⟨?_, List.pairwise_singleton _ _, ?_⟩
    · refine before.ordered.imp_of_mem fun isEarlier isLater earlier => ?_
      rwa [(before.counts _ isEarlier).seenAt_append, (before.counts _ isLater).seenAt_append]
    · intro tally member
      rw [List.forall_mem_singleton, seenAt_new unseen, (before.counts tally member).seenAt_append,
        seenAt, ← List.length_map Cell.key]
      exact List.idxOf_lt_length_of_mem (before.counts tally member).key_mem

/-- Counting all cells gives the tallies of them. -/
theorem tallies_ofCells (cells : List Cell) : Tallies cells (ofCells cells) := by
  induction cells using List.reverseRecOn with
  | nil => exact ⟨List.forall_mem_nil _, List.Pairwise.nil⟩
  | append_singleton cells cell induction =>
      rw [ofCells_append_singleton]
      by_cases known : cell.key ∈ (ofCells cells).map Tally.key
      · rw [insert_known known]
        exact induction.again cell
      · rw [insert_new known]
        exact induction.new (mt ((keys_ofCells cells).2 cell.key).mpr known)

end LogPipe.Tally
