import LogPipe.Table.Join
import LogPipe.Proofs.Stats.Partition
import Mathlib.Data.List.Nodup

/-!
# Which rows a join pairs

Rows are paired by their keys, as the tables show them.  A left row is paired with the
right rows that have its keys, in their order; a row with a missing key cell has no
partner.  What the index of the right keys gives for a left row is exactly that.
-/

namespace LogPipe.Join

open Grouping

/-- The right rows that have the keys of a left row. -/
def partners (left right : Table) (keys : List String) (row : Nat) : List Nat :=
  if left.HasKeys keys row then right.rowsWith keys (left.keysAt keys row) else []

/-- The pairs that a left row gives. -/
def pairsOf (left right : Table) (keys : List String) (kind : JoinKind) (row : Nat) :
    List RowPair :=
  if partners left right keys row = [] then
    if kind.keepsLeft then [(some row, none)] else []
  else
    (partners left right keys row).map fun other => (some row, some other)

/-- The right rows that are the partner of no left row. -/
def alone (left right : Table) (keys : List String) : List Nat :=
  (List.range right.rows).filter fun other =>
    decide (∀ row < left.rows, other ∉ partners left right keys row)

/-- The rows of a join: the pairs of the left rows in order, then the right rows that are
kept without a partner. -/
def rowPairs (left right : Table) (keys : List String) (kind : JoinKind) : List RowPair :=
  (List.range left.rows).flatMap (pairsOf left right keys kind) ++
    if kind.keepsRight then (alone left right keys).map fun other => (none, some other) else []

variable {left right : Table} {keys : List String} {kind : JoinKind}
  {leftColumns rightColumns : List Column}

theorem lt_of_mem_partners {row other : Nat} (member : other ∈ partners left right keys row) :
    other < right.rows := by
  rw [partners] at member
  split at member
  · exact List.mem_range.mp (List.mem_filter.mp member).1
  · cases member

theorem mem_pairsOf {row : Nat} {pair : RowPair}
    (member : pair ∈ pairsOf left right keys kind row) :
    pair.1 = some row ∧ ∀ other, pair.2 = some other → other ∈ partners left right keys row := by
  rw [pairsOf] at member
  split at member
  · split at member
    · cases List.mem_singleton.mp member
      exact ⟨rfl, nofun⟩
    · cases member
  · obtain ⟨other, isPartner, rfl⟩ := List.mem_map.mp member
    refine ⟨rfl, ?_⟩
    rintro _ ⟨⟩
    exact isPartner

theorem exists_mem_pairsOf_iff {row other : Nat} :
    (∃ pair ∈ pairsOf left right keys kind row, pair.2 = some other) ↔
      other ∈ partners left right keys row := by
  constructor
  · rintro ⟨pair, member, isRight⟩
    exact (mem_pairsOf member).2 other isRight
  · intro isPartner
    have someone : partners left right keys row ≠ [] := List.ne_nil_of_mem isPartner
    rw [pairsOf, if_neg someone]
    exact ⟨_, List.mem_map_of_mem isPartner, rfl⟩

theorem lt_of_mem_rowPairs {pair : RowPair} (member : pair ∈ rowPairs left right keys kind) :
    (∀ row, pair.1 = some row → row < left.rows) ∧
      ∀ row, pair.2 = some row → row < right.rows := by
  rcases List.mem_append.mp member with paired | single
  · obtain ⟨row, inRange, ofRow⟩ := List.mem_flatMap.mp paired
    obtain ⟨isRow, arePartners⟩ := mem_pairsOf ofRow
    constructor
    · intro other isOther
      rw [isRow] at isOther
      cases isOther
      exact List.mem_range.mp inRange
    · intro other isOther
      exact lt_of_mem_partners (arePartners other isOther)
  · split at single
    · obtain ⟨other, isAlone, rfl⟩ := List.mem_map.mp single
      refine ⟨nofun, ?_⟩
      rintro _ ⟨⟩
      exact List.mem_range.mp (List.mem_filter.mp isAlone).1
    · cases single

/-- Two rows are paired exactly when the left one has keys and the right one has the same. -/
theorem mem_rowPairs_iff {row other : Nat} :
    (some row, some other) ∈ rowPairs left right keys kind ↔
      row < left.rows ∧ other < right.rows ∧ left.HasKeys keys row ∧
        right.keysAt keys other = left.keysAt keys row := by
  have isPartner : other ∈ partners left right keys row ↔
      other < right.rows ∧ left.HasKeys keys row ∧
        right.keysAt keys other = left.keysAt keys row := by
    rw [partners]
    by_cases has : left.HasKeys keys row
    · simp [has, Table.rowsWith]
    · simp [has]
  rw [← isPartner]
  constructor
  · intro member
    rcases List.mem_append.mp member with paired | single
    · obtain ⟨source, inRange, ofRow⟩ := List.mem_flatMap.mp paired
      obtain ⟨isRow, arePartners⟩ := mem_pairsOf ofRow
      cases isRow
      exact ⟨List.mem_range.mp inRange, arePartners other rfl⟩
    · split at single
      · obtain ⟨_, -, ⟨⟩⟩ := List.mem_map.mp single
      · cases single
  · rintro ⟨inside, member⟩
    have someone : partners left right keys row ≠ [] := List.ne_nil_of_mem member
    have ofRow : (some row, some other) ∈ pairsOf left right keys kind row := by
      rw [pairsOf, if_neg someone]
      exact List.mem_map_of_mem member
    exact List.mem_append_left _
      (List.mem_flatMap.mpr ⟨row, List.mem_range.mpr inside, ofRow⟩)

/-- No pair of rows occurs twice in a join. -/
theorem nodup_rowPairs : (rowPairs left right keys kind).Nodup := by
  have nodupPartners : ∀ row, (partners left right keys row).Nodup := by
    intro row
    rw [partners]
    split
    · exact List.nodup_range.filter _
    · exact List.nodup_nil
  have nodupPairs : ∀ row, (pairsOf left right keys kind row).Nodup := by
    intro row
    rw [pairsOf]
    split
    · split
      · exact List.nodup_singleton _
      · exact List.nodup_nil
    · exact (nodupPartners row).map fun a b same => by simpa using same
  refine List.nodup_append.mpr ⟨List.nodup_flatMap.mpr ⟨fun row _ => nodupPairs row, ?_⟩, ?_, ?_⟩
  · -- The pairs of different left rows differ in their left half.
    refine List.nodup_range.imp fun apart pair ofFirst ofSecond => ?_
    have same := (mem_pairsOf ofFirst).1.symm.trans (mem_pairsOf ofSecond).1
    exact apart (Option.some.inj same)
  · split
    · exact (List.nodup_range.filter _).map fun a b same => by simpa using same
    · exact List.nodup_nil
  · rintro pair paired other single rfl
    obtain ⟨row, -, ofRow⟩ := List.mem_flatMap.mp paired
    split at single
    · obtain ⟨_, -, rfl⟩ := List.mem_map.mp single
      cases (mem_pairsOf ofRow).1
    · cases single

/-- The right rows that are found under the key of a left row are its partners. -/
theorem pairsOfRow_eq (wellLeft : left.WellFormed) (wellRight : right.WellFormed)
    (leftFound : columnsOf left keys = .ok leftColumns)
    (rightFound : columnsOf right keys = .ok rightColumns) {row : Nat}
    (inside : row < left.rows) :
    pairsOfRow kind (keyed right.rows rightColumns) row (rowKey leftColumns row) =
      pairsOf left right keys kind row := by
  cases hasKey : rowKey leftColumns row with
  | none =>
      have noKeys := (rowKey_eq_none_iff wellLeft leftFound inside).mp hasKey
      have noPartner : partners left right keys row = [] := if_neg noKeys
      rw [pairsOf, if_pos noPartner]
      rfl
  | some key =>
      obtain ⟨has, same⟩ := (rowKey_eq_some_iff wellLeft leftFound inside).mp hasKey
      have found : (keyed right.rows rightColumns).filter (fun entry => entry.2 == some key) =
          (partners left right keys row).map fun other => (other, rowKey rightColumns other) := by
        rw [partners, if_pos has, same,
          ← rowsOf_eq_rowsWith wellRight rightFound (present_of_hasKeys has same)]
        exact List.filter_map
      simp only [pairsOfRow, found, List.isEmpty_map, List.isEmpty_iff, List.map_map, pairsOf]
      rfl

/-- The pairs that are computed from the keys are the rows of the join. -/
theorem pairs_eq (wellLeft : left.WellFormed) (wellRight : right.WellFormed)
    (leftFound : columnsOf left keys = .ok leftColumns)
    (rightFound : columnsOf right keys = .ok rightColumns) :
    pairs kind (keyed left.rows leftColumns) (keyed right.rows rightColumns) =
      rowPairs left right keys kind := by
  have paired : (keyed left.rows leftColumns).flatMap (fun entry =>
      pairsOfRow kind (keyed right.rows rightColumns) entry.1 entry.2) =
        (List.range left.rows).flatMap (pairsOf left right keys kind) := by
    refine (List.flatMap_map _ _ _).trans ?_
    rw [List.flatMap_def, List.flatMap_def]
    refine congrArg List.flatten (List.map_congr_left fun row inRange => ?_)
    exact pairsOfRow_eq wellLeft wellRight leftFound rightFound (List.mem_range.mp inRange)
  have single : ((keyed right.rows rightColumns).filter fun entry =>
      !((List.range left.rows).flatMap (pairsOf left right keys kind)).any
        fun pair => pair.2 == some entry.1) =
        (alone left right keys).map fun other => (other, rowKey rightColumns other) := by
    rw [keyed, List.filter_map, alone]
    refine congrArg _ (List.filter_congr fun other _ => ?_)
    rw [Bool.eq_iff_iff, decide_eq_true_iff]
    simp only [Function.comp_apply, Bool.not_eq_true', List.any_eq_false, beq_iff_eq,
      List.mem_flatMap, List.mem_range]
    constructor
    · intro unpaired row inside isPartner
      obtain ⟨pair, member, isRight⟩ := exists_mem_pairsOf_iff.mpr isPartner
      exact unpaired pair ⟨row, inside, member⟩ isRight
    · rintro noPartner pair ⟨row, inside, member⟩ isRight
      exact noPartner row inside ((mem_pairsOf member).2 other isRight)
  rw [pairs, paired]
  simp only [single, List.map_map, rowPairs]
  split
  · rfl
  · exact (List.append_nil _).symm

end LogPipe.Join
