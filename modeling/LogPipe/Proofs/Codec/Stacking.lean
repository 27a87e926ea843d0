import LogPipe.Proofs.Codec.Records
import LogPipe.Proofs.Column.Canonical

/-!
# Stacks of tables as JSON records

Tables that JSON records keep may be stacked.  Plain cells stay plain in the columns of the
stack: these are never columns of floats or times, because no such cell is there to begin with.
A column becomes one of lists only beside a list, so the records of the stack are nested no
deeper than a reader that reads the records of its parts goes.
-/

namespace LogPipe

def Kind.Plain (kind : Kind) : Prop :=
  kind ≠ .float ∧ kind ≠ .time

instance (kind : Kind) : Decidable kind.Plain :=
  inferInstanceAs (Decidable (_ ∧ _))

theorem Kind.Plain.join {left right : Kind} (leftPlain : left.Plain) (rightPlain : right.Plain) :
    (Kind.join left right).Plain := by
  revert leftPlain rightPlain
  cases left <;> cases right <;> decide

theorem Cell.Plain.kind {cell : Cell} (plain : cell.Plain) : cell.kind.Plain := by
  cases plain <;> exact ⟨nofun, nofun⟩

namespace Column

variable {cells : List Cell} {cell : Cell} {kind : Kind}

theorem plain_lossyKind (plain : ∀ cell ∈ cells, cell.Plain) : (lossyKind cells).Plain := by
  induction cells with
  | nil => decide
  | cons cell cells induction =>
      obtain ⟨first, others⟩ := List.forall_mem_cons.mp plain
      exact first.kind.join (induction others)

theorem plain_wrap (plain : cell.Plain) : (wrap cell).Plain := by
  rw [wrap.eq_def]
  split
  · exact plain
  · split
    · exact .null
    · exact .list (List.forall_mem_singleton.mpr plain)

theorem plain_asText (cell : Cell) : (asText cell).Plain := by
  rw [asText.eq_def]
  split
  · exact .text _
  · split
    · exact .null
    · exact .text _

theorem plain_coerce (plain : cell.Plain) (kindPlain : kind.Plain)
    (under : Kind.Under cell.kind kind) : (coerce kind cell).Plain := by
  unfold Kind.Under at under
  cases kind with
  | list => exact plain_wrap plain
  | text => exact plain_asText cell
  | float => exact absurd rfl kindPlain.1
  | time => exact absurd rfl kindPlain.2
  | null =>
      cases plain with
      | null => exact .null
      | _ => cases under
  | bool =>
      cases plain with
      | null => exact .null
      | bool value => exact .bool value
      | _ => cases under
  | int =>
      cases plain with
      | null => exact .null
      | bool value => exact .int _
      | int value => exact .int value
      | _ => cases under

/-- Only lists are nested. -/
theorem depth_toJson_of_ne_list (noList : cell.kind ≠ .list) : cell.toJson.depth = 0 := by
  cases cell with
  | list items => exact absurd rfl noList
  | float x =>
      rw [Cell.toJson]
      split <;> rfl
  | _ =>
      rw [Cell.toJson]
      rfl

theorem depth_wrap_le (cell : Cell) : (wrap cell).toJson.depth ≤ max 1 cell.toJson.depth := by
  rw [wrap.eq_def]
  split
  · exact Nat.le_max_right _ _
  · next noList =>
      split
      · exact Nat.zero_le _
      · have flat : cell.toJson.depth = 0 := by
          apply depth_toJson_of_ne_list
          cases cell with
          | list items => exact absurd rfl (noList items)
          | _ =>
              intro same
              cases same
        rw [Cell.toJson, Cell.toJsonList, Cell.toJsonList, Json.depth, Json.itemsDepth,
          Json.itemsDepth, flat]
        exact Nat.le_max_left _ _

theorem depth_coerce_le (under : Kind.Under cell.kind kind) :
    (coerce kind cell).toJson.depth ≤ max 1 cell.toJson.depth := by
  by_cases isList : kind = .list
  · rw [isList]
    exact depth_wrap_le cell
  · have noList : (coerce kind cell).kind ≠ .list := by
      rcases coerce_fits under with null | same
      · rw [null]
        nofun
      · rwa [same]
    rw [depth_toJson_of_ne_list noList]
    exact Nat.zero_le _

end Column

namespace Json

theorem itemsDepth_le_iff {items : List Json} {bound : Nat} :
    itemsDepth items ≤ bound ↔ ∀ item ∈ items, item.depth ≤ bound := by
  induction items with
  | nil => exact iff_of_true (Nat.zero_le _) (List.forall_mem_nil _)
  | cons item items induction =>
      rw [itemsDepth, Nat.max_le, induction, List.forall_mem_cons]

theorem membersDepth_le_iff {members : List (String × Json)} {bound : Nat} :
    membersDepth members ≤ bound ↔ ∀ member ∈ members, member.2.depth ≤ bound := by
  induction members with
  | nil => exact iff_of_true (Nat.zero_le _) (List.forall_mem_nil _)
  | cons member members induction =>
      obtain ⟨name, value⟩ := member
      rw [membersDepth, Nat.max_le, induction, List.forall_mem_cons]

end Json

namespace Table

variable {tables : List Table} {property : Cell → Prop}

/-- What holds of missing cells and of all cells of some tables holds in their stack. -/
theorem forall_cellsIn (null : property .null)
    (each : ∀ table ∈ tables, ∀ entry ∈ table.columns, ∀ cell ∈ entry.2.cells, property cell)
    (name : String) : ∀ cell ∈ cellsIn tables name, property cell := by
  intro cell member
  obtain ⟨table, inTables, inTable⟩ := List.mem_flatMap.mp member
  rw [cellsOf] at inTable
  split at inTable
  · next column found =>
      exact each table inTables (name, column) (mem_of_lookup found) cell inTable
  · rw [List.eq_of_mem_replicate inTable]
    exact null

end Table

namespace Codec

variable {table first second : Table}

theorem Recordable.concat (firstKept : Recordable first) (secondKept : Recordable second) :
    Recordable (Table.concat [first, second]) where
  wellFormed := Table.wellFormed_concat_pair firstKept.wellFormed secondKept.wellFormed
  someRow := Nat.lt_of_lt_of_le firstKept.someRow (Nat.le_add_right _ _)
  plain := by
    intro entry member
    obtain ⟨name, -, rfl⟩ := List.mem_map.mp member
    have plain := Table.forall_cellsIn Cell.Plain.null
      (List.forall_mem_cons.mpr ⟨firstKept.plain, List.forall_mem_singleton.mpr secondKept.plain⟩)
      name
    intro cell inColumn
    rw [Table.cellsIn] at plain
    rw [Column.lossy_eq] at inColumn
    obtain ⟨source, inTables, rfl⟩ := List.mem_map.mp inColumn
    exact Column.plain_coerce (plain source inTables) (Column.plain_lossyKind plain)
      (Column.under_lossyKind inTables)
  canonical := by
    intro entry member
    obtain ⟨name, -, rfl⟩ := List.mem_map.mp member
    exact Column.lossy_lossy _

/-- The records of a table are nested two deeper than its cells. -/
theorem depth_recordsOf_le_iff (wellFormed : table.WellFormed) {bound : Nat} :
    (Json.array (recordsOf table)).depth ≤ bound + 2 ↔
      ∀ entry ∈ table.columns, ∀ cell ∈ entry.2.cells, cell.toJson.depth ≤ bound := by
  have record (row : Nat) : (Json.object (rowMembers table row)).depth ≤ bound + 1 ↔
      ∀ entry ∈ table.columns, (memberValue row entry.2).depth ≤ bound := by
    rw [Json.depth, Nat.add_le_add_iff_right, Json.membersDepth_le_iff, rowMembers]
    exact List.forall_mem_map
  rw [Json.depth, Nat.add_le_add_iff_right, Json.itemsDepth_le_iff, recordsOf_eq, List.map_map,
    List.forall_mem_map]
  simp only [Function.comp_apply, record]
  constructor
  · intro rows entry column cell member
    obtain ⟨row, shown⟩ := List.mem_iff_getElem?.mp member
    have inside : row < table.rows := by
      rw [← wellFormed.sizes entry column]
      exact (List.getElem?_eq_some_iff.mp shown).1
    have deep := rows row (List.mem_range.mpr inside) entry column
    rwa [memberValue, Column.get?, shown] at deep
  · intro cells row _ entry column
    rw [memberValue, Column.get?]
    cases shown : entry.2.cells[row]? with
    | none => exact Nat.zero_le _
    | some cell => exact cells entry column cell (List.mem_of_getElem? shown)

/-- A table that JSON records keep and whose text is read back as it was written. -/
structure Storable (table : Table) : Prop where
  recordable : Recordable table
  reads : Json.read? (writeJson table) = some (.array (recordsOf table))

theorem storable_iff : Storable table ↔ Recordable table ∧
    ∀ entry ∈ table.columns, ∀ cell ∈ entry.2.cells, cell.toJson.depth ≤ 125 := by
  have limit : Json.maxDepth = 125 + 2 := rfl
  constructor
  · rintro ⟨recordable, reads⟩
    have deep := (read?_write_iff recordable (.inl rfl)).mp reads
    rw [limit, depth_recordsOf_le_iff recordable.wellFormed] at deep
    exact ⟨recordable, deep⟩
  · rintro ⟨recordable, deep⟩
    refine ⟨recordable, (read?_write_iff recordable (.inl rfl)).mpr ?_⟩
    rwa [limit, depth_recordsOf_le_iff recordable.wellFormed]

theorem Storable.readJson (storable : Storable table) : readJson (writeJson table) = .ok table :=
  readJson_writeJson storable.recordable storable.reads

/-- Tables that can be stored can be stored as a stack. -/
theorem Storable.concat (firstStorable : Storable first) (secondStorable : Storable second) :
    Storable (Table.concat [first, second]) := by
  obtain ⟨firstKept, firstFlat⟩ := storable_iff.mp firstStorable
  obtain ⟨secondKept, secondFlat⟩ := storable_iff.mp secondStorable
  refine storable_iff.mpr ⟨firstKept.concat secondKept, fun entry member cell inColumn => ?_⟩
  obtain ⟨name, -, rfl⟩ := List.mem_map.mp member
  rw [Column.lossy_eq] at inColumn
  obtain ⟨source, inTables, rfl⟩ := List.mem_map.mp inColumn
  have null : Cell.null.toJson.depth ≤ 125 := by decide
  have flat := Table.forall_cellsIn null
    (List.forall_mem_cons.mpr ⟨firstFlat, List.forall_mem_singleton.mpr secondFlat⟩) name source
    inTables
  calc
    _ ≤ max 1 source.toJson.depth := Column.depth_coerce_le (Column.under_lossyKind inTables)
    _ ≤ 125 := Nat.max_le.mpr ⟨by decide, flat⟩

end Codec

end LogPipe
