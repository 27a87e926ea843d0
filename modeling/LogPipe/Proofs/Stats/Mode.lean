import LogPipe.Proofs.Stats.Tallies
import Mathlib.Data.List.Basic

/-!
# The most frequent value

Counting cells gives one entry for each key: how many cells have it, and where the first of them
is.  Entries are chosen by a linear order, so it does not matter in which order they are listed.
The chosen one has the most cells, and its first cell comes before that of any other with as many.
-/

namespace LogPipe

namespace Occurrence

/-! ## The choice -/

section Choice

variable {left right best : Occurrence} {occurrences others : List Occurrence}

/-- An occurrence that is not preferred to another one: it is rarer, or it is as frequent and not
earlier. -/
def Below (occurrence best : Occurrence) : Prop :=
  occurrence.count < best.count ∨ occurrence.count = best.count ∧ best.first ≤ occurrence.first

theorem below_refl (occurrence : Occurrence) : occurrence.Below occurrence :=
  Or.inr ⟨rfl, Nat.le_refl _⟩

theorem Below.trans (lower : left.Below right) (upper : right.Below best) : left.Below best := by
  simp only [Below] at *
  omega

theorem Below.antisymm (lower : left.Below right) (upper : right.Below left) : left = right := by
  cases left
  cases right
  simp only [Below, Occurrence.mk.injEq] at *
  omega

theorem below_total (left right : Occurrence) : left.Below right ∨ right.Below left := by
  simp only [Below]
  omega

theorem order_eq_gt_iff : left.order right = .gt ↔ ¬left.Below right := by
  rw [order, Below, Ordering.then_eq_gt, Nat.compare_eq_gt, Nat.compare_eq_eq, Nat.compare_eq_gt]
  omega

theorem later_cases (left right : Occurrence) :
    later left right = left ∧ right.Below left ∨ later left right = right ∧ left.Below right := by
  rw [later]
  split
  · next after =>
      rw [beq_iff_eq, order_eq_gt_iff] at after
      exact Or.inl ⟨rfl, (below_total left right).resolve_left after⟩
  · next before =>
      rw [beq_iff_eq, order_eq_gt_iff, not_not] at before
      exact Or.inr ⟨rfl, before⟩

/-- An occurrence of a list to which no other is preferred. -/
structure IsLast (occurrences : List Occurrence) (best : Occurrence) : Prop where
  member : best ∈ occurrences
  upper : ∀ occurrence ∈ occurrences, occurrence.Below best

theorem IsLast.unique {other : Occurrence} (isBest : IsLast occurrences best)
    (isOther : IsLast occurrences other) : best = other :=
  (isOther.upper best isBest.member).antisymm (isBest.upper other isOther.member)

theorem IsLast.perm (isBest : IsLast occurrences best) (perm : occurrences.Perm others) :
    IsLast others best :=
  ⟨perm.mem_iff.mp isBest.member, fun other listed => isBest.upper other (perm.mem_iff.mpr listed)⟩

/-- One step of the choice drops an occurrence that is not preferred to the other one. -/
theorem IsLast.step (isBest : IsLast (later left right :: occurrences) best) :
    IsLast (left :: right :: occurrences) best := by
  obtain ⟨member, upper⟩ := isBest
  rw [List.forall_mem_cons] at upper
  rw [List.mem_cons] at member
  obtain ⟨chosen, above⟩ | ⟨chosen, above⟩ := later_cases left right
  · rw [chosen] at member upper
    refine ⟨?_, ?_⟩
    · rw [List.mem_cons, List.mem_cons]
      exact member.imp_right Or.inr
    · rw [List.forall_mem_cons, List.forall_mem_cons]
      exact ⟨upper.1, above.trans upper.1, upper.2⟩
  · rw [chosen] at member upper
    refine ⟨List.mem_cons_of_mem _ (List.mem_cons.mpr member), ?_⟩
    rw [List.forall_mem_cons, List.forall_mem_cons]
    exact ⟨above.trans upper.1, upper.1, upper.2⟩

theorem isLast_foldl (occurrences : List Occurrence) (best : Occurrence) :
    IsLast (best :: occurrences) (occurrences.foldl later best) := by
  induction occurrences generalizing best with
  | nil =>
      refine ⟨List.mem_singleton_self _, ?_⟩
      rw [List.foldl_nil, List.forall_mem_singleton]
      exact below_refl best
  | cons occurrence occurrences induction => exact (induction (later best occurrence)).step

theorem last?_eq_none_iff : last? occurrences = none ↔ occurrences = [] := by
  cases occurrences with
  | nil => exact iff_of_true rfl rfl
  | cons occurrence occurrences => exact iff_of_false nofun nofun

theorem last?_eq_some_iff : last? occurrences = some best ↔ IsLast occurrences best := by
  cases occurrences with
  | nil => exact iff_of_false nofun fun isBest => List.not_mem_nil isBest.member
  | cons occurrence occurrences =>
      have isLast := isLast_foldl occurrences occurrence
      rw [last?, Option.some_inj]
      constructor
      · rintro rfl
        exact isLast
      · exact isLast.unique

/-- The choice does not depend on how the occurrences are listed. -/
theorem last?_perm (perm : occurrences.Perm others) : last? occurrences = last? others := by
  refine Option.ext fun best => ?_
  rw [last?_eq_some_iff, last?_eq_some_iff]
  exact ⟨fun isBest => isBest.perm perm, fun isBest => isBest.perm perm.symm⟩

end Choice

end Occurrence

/-! ## The entries -/

namespace Tally

variable {cells : List Cell} {tally : Tally}

/-- The occurrence that a tally of cells stands for. -/
def occurrence (cells : List Cell) (tally : Tally) : Occurrence :=
  ⟨tally.count, tally.seenAt cells⟩

/-- The first cell of a key stands where the key is first seen. -/
theorem Counts.getElem?_seenAt (counts : tally.Counts cells) :
    cells[tally.seenAt cells]? = some tally.cell := by
  rw [← counts.first, List.find?_eq_getElem?_findIdx, seenAt, List.idxOf, List.findIdx_map]
  rfl

end Tally

namespace Occurrence

theorem ofCells_append_singleton (cells : List Cell) (cell : Cell) :
    ofCells (cells ++ [cell]) = record (ofCells cells) cell cells.length := by
  rw [ofCells, List.zipIdx_append, List.foldl_append, Nat.zero_add, List.zipIdx_singleton]
  rfl

theorem record_known {entries : List (Key × Occurrence)} {cell : Cell}
    (known : cell.key ∈ entries.map Prod.fst) (position : Nat) :
    record entries cell position = entries.map fun (key, occurrence) =>
      (key, if key == cell.key then { occurrence with count := occurrence.count + 1 }
        else occurrence) := by
  rw [record, if_pos (by simpa using known)]

theorem record_new {entries : List (Key × Occurrence)} {cell : Cell}
    (unknown : cell.key ∉ entries.map Prod.fst) (position : Nat) :
    record entries cell position = entries ++ [(cell.key, ⟨1, position⟩)] := by
  rw [record, if_neg (by simpa using unknown)]

/-- The entries of cells are those of their tallies. -/
theorem ofCells_eq (cells : List Cell) :
    ofCells cells =
      (Tally.ofCells cells).map fun tally => (tally.key, tally.occurrence cells) := by
  induction cells using List.reverseRecOn with
  | nil => rfl
  | append_singleton cells cell induction =>
      have keys : (ofCells cells).map Prod.fst = (Tally.ofCells cells).map Tally.key := by
        rw [induction, List.map_map]
        rfl
      have before := Tally.tallies_ofCells cells
      rw [ofCells_append_singleton, Tally.ofCells_append_singleton]
      by_cases known : cell.key ∈ (Tally.ofCells cells).map Tally.key
      · rw [record_known (keys ▸ known), Tally.insert_known known, induction, List.map_map,
          List.map_map]
        refine List.map_congr_left fun tally member => ?_
        have place := (before.counts tally member).seenAt_counting cell
        simp only [Function.comp, Tally.key_counting, Tally.occurrence, place]
        rw [Tally.counting]
        split <;> rfl
      · have unseen := mt ((Tally.keys_ofCells cells).2 cell.key).mpr known
        rw [record_new (keys ▸ known), Tally.insert_new known, induction, List.map_append]
        have same : (Tally.ofCells cells).map (fun tally => (tally.key, tally.occurrence cells)) =
            (Tally.ofCells cells).map fun tally =>
              (tally.key, tally.occurrence (cells ++ [cell])) := by
          refine List.map_congr_left fun tally member => ?_
          rw [Tally.occurrence, Tally.occurrence, (before.counts tally member).seenAt_append]
        rw [same, List.map_singleton, Tally.occurrence, Tally.seenAt_new unseen]

end Occurrence

/-! ## The chosen cell -/

namespace Reducer

section Modes

variable {cells : List Cell} {cell other : Cell} {entries others : List (Key × Occurrence)}

/-- The first cell of a key that no key surpasses in cells, and no key with as many cells is seen
before it. -/
structure IsMode (cells : List Cell) (cell : Cell) : Prop where
  first : cells.find? (fun other => other.key == cell.key) = some cell
  most : ∀ other ∈ cells,
    (cells.map Cell.key).count other.key ≤ (cells.map Cell.key).count cell.key
  earliest : ∀ other ∈ cells,
    (cells.map Cell.key).count other.key = (cells.map Cell.key).count cell.key →
      (cells.map Cell.key).idxOf cell.key ≤ (cells.map Cell.key).idxOf other.key

theorem IsMode.mem (isMode : IsMode cells cell) : cell ∈ cells :=
  List.mem_of_find?_eq_some isMode.first

theorem IsMode.unique (isMode : IsMode cells cell) (isOther : IsMode cells other) :
    cell = other := by
  have counts := Nat.le_antisymm (isOther.most cell isMode.mem) (isMode.most other isOther.mem)
  have places := Nat.le_antisymm (isMode.earliest other isOther.mem counts.symm)
    (isOther.earliest cell isMode.mem counts)
  have keys : cell.key = other.key :=
    (List.idxOf_inj (List.mem_map_of_mem isMode.mem)).mp places
  have first := isMode.first
  rw [keys, isOther.first] at first
  exact (Option.some.inj first).symm

theorem modeOf_perm (perm : entries.Perm others) (found : List Cell) :
    modeOf entries found = modeOf others found := by
  rw [modeOf, modeOf, Occurrence.last?_perm (perm.map Prod.snd)]

/-- The tally of the chosen entry shows the mode. -/
theorem isMode_of_isLast {tally : Tally} (member : tally ∈ Tally.ofCells cells)
    (isLast : Occurrence.IsLast ((Tally.ofCells cells).map (Tally.occurrence cells))
      (tally.occurrence cells)) : IsMode cells tally.cell := by
  have tallies := Tally.tallies_ofCells cells
  have counts := tallies.counts tally member
  have key := counts.key_cell
  have below : ∀ other ∈ cells,
      (cells.map Cell.key).count other.key < (cells.map Cell.key).count tally.key ∨
        (cells.map Cell.key).count other.key = (cells.map Cell.key).count tally.key ∧
          (cells.map Cell.key).idxOf tally.key ≤ (cells.map Cell.key).idxOf other.key := by
    intro other inCells
    obtain ⟨rival, isRival, rivalKey⟩ := List.mem_map.mp
      (((Tally.keys_ofCells cells).2 other.key).mpr (List.mem_map_of_mem inCells))
    have upper := isLast.upper _ (List.mem_map_of_mem isRival)
    rwa [Occurrence.Below, Tally.occurrence, Tally.occurrence, counts.count,
      (tallies.counts rival isRival).count, Tally.seenAt, Tally.seenAt, rivalKey] at upper
  rw [← key] at below
  refine ⟨?_, fun other inCells => ?_, fun other inCells same => ?_⟩
  · rw [key]
    exact counts.first
  · obtain rarer | ⟨same, -⟩ := below other inCells
    · exact Nat.le_of_lt rarer
    · exact Nat.le_of_eq same
  · obtain rarer | ⟨-, earlier⟩ := below other inCells
    · exact absurd same (Nat.ne_of_lt rarer)
    · exact earlier

/-- Whatever cells are there, one of them is chosen. -/
theorem isMode_modeOf (some : cells ≠ []) :
    IsMode cells (modeOf (Occurrence.ofCells cells) cells) := by
  have listed : (Occurrence.ofCells cells).map Prod.snd =
      (Tally.ofCells cells).map (Tally.occurrence cells) := by
    rw [Occurrence.ofCells_eq, List.map_map]
    rfl
  rw [modeOf, listed]
  split
  · next best chosen =>
      have isLast := Occurrence.last?_eq_some_iff.mp chosen
      obtain ⟨tally, member, rfl⟩ := List.mem_map.mp isLast.member
      have first := ((Tally.tallies_ofCells cells).counts tally member).getElem?_seenAt
      rw [Tally.occurrence, first, Option.getD_some]
      exact isMode_of_isLast member isLast
  · next none =>
      rw [Occurrence.last?_eq_none_iff, List.map_eq_nil_iff] at none
      obtain ⟨cell, member⟩ := List.exists_mem_of_ne_nil cells some
      have known := ((Tally.keys_ofCells cells).2 cell.key).mpr (List.mem_map_of_mem member)
      rw [none] at known
      exact absurd known List.not_mem_nil

/-- The mode of cells does not depend on the order in which the entries of the counted keys are
listed.  It is missing when all cells are, and otherwise the one cell that is the first of its key
among the present cells, where no key has more of them, and where every key with as many is seen
later. -/
theorem mode_in_any_order (cells : List Cell)
    (listed : entries.Perm (Occurrence.ofCells (present cells))) :
    modeOf entries (present cells) = mode cells ∧
      ((∀ cell ∈ cells, cell.isMissing = true) → mode cells = .null) ∧
      ((∃ cell ∈ cells, cell.isMissing = false) →
        ∀ cell, mode cells = cell ↔ IsMode (present cells) cell) := by
  refine ⟨modeOf_perm listed _, fun missing => ?_, fun ⟨cell, member, there⟩ => ?_⟩
  · have none : present cells = [] := by
      rw [present, List.filter_eq_nil_iff]
      intro cell member
      rw [missing cell member]
      decide
    rw [mode, none]
    rfl
  · have some : cell ∈ present cells :=
      List.mem_filter.mpr ⟨member, by rw [there]; rfl⟩
    have chosen := isMode_modeOf (List.ne_nil_of_mem some)
    intro other
    constructor
    · rintro rfl
      exact chosen
    · exact chosen.unique

/-- One and seven, twice three and seven again: the first seven is chosen, also when the entries are
listed in reverse.  Nothing is chosen where everything is missing. -/
theorem mode_in_any_order_reversed :
    let cells : List Cell :=
      [.null, .int 1, .float 7.0, .int 3, .float 3.0, .float (.ofBits 0x7FF8000000000000), .int 7]
    let entries := (Occurrence.ofCells (present cells)).reverse
    entries.Perm (Occurrence.ofCells (present cells)) ∧
      modeOf entries (present cells) = .float 7.0 ∧ IsMode (present cells) (.float 7.0) ∧
      mode [.null, .float (.ofBits 0x7FF8000000000000)] = .null := by
  intro cells entries
  have listed : entries.Perm (Occurrence.ofCells (present cells)) := List.reverse_perm _
  obtain ⟨same, -, chosen⟩ := mode_in_any_order cells listed
  have seven : modeOf entries (present cells) = .float 7.0 := by decide +kernel
  have some : ∃ cell ∈ cells, cell.isMissing = false := ⟨.int 1, by decide, by decide⟩
  have missing : ∀ cell ∈ [Cell.null, .float (.ofBits 0x7FF8000000000000)],
      cell.isMissing = true := by decide +kernel
  exact ⟨listed, seven, (chosen some _).mp (same.symm.trans seven),
    (mode_in_any_order _ (List.Perm.refl _)).2.1 missing⟩

end Modes

end Reducer

end LogPipe
