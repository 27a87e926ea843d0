import LogPipe.Stats.Grouping
import LogPipe.Proofs.Except
import LogPipe.Proofs.Table.Columns
import Mathlib.Algebra.BigOperators.Group.List.Lemmas
import Mathlib.Algebra.GroupWithZero.Nat

/-!
# Groups as a partition

Rows are described by their keys: a row with a missing key cell has none, and rows with
the same keys are alike.  Grouping is a partition of the rows that have keys: the groups
stand for distinct keys, each holds the rows of its key in ascending order, and every
row with keys knows its group.
-/

namespace LogPipe

/-- A list with the members of another one, each once, counts all of its items. -/
theorem sum_count_of_mem_iff {α : Type} [DecidableEq α] {distinct items : List α}
    (nodup : distinct.Nodup) (members : ∀ item, item ∈ distinct ↔ item ∈ items) :
    (distinct.map fun item => items.count item).sum = items.length := by
  have same : distinct.Perm items.dedup := by
    apply (List.perm_ext_iff_of_nodup nodup (List.nodup_dedup _)).mpr
    intro item
    rw [members, List.mem_dedup]
  rw [(same.map _).sum_eq, List.sum_map_count_dedup_eq_length]

/-- Only a missing cell has the key of the missing. -/
theorem Cell.key_eq_missing_iff {cell : Cell} : cell.key = .missing ↔ cell.isMissing = true := by
  cases cell with
  | float x =>
      rw [Cell.key, Cell.isMissing]
      by_cases nan : x.isNaN = true
      · rw [if_pos nan]
        exact ⟨fun _ => nan, fun _ => rfl⟩
      · have some : Cell.floatKey x ≠ .missing := by
          unfold Cell.floatKey
          split
          · split
            · exact fun same => (nomatch same)
            · exact fun same => (nomatch same)
          · exact fun same => (nomatch same)
        rw [if_neg nan]
        exact ⟨fun same => absurd same some, fun same => absurd same nan⟩
  | _ => simp [Cell.key, Cell.isMissing]

namespace Table

/-- The keys of a row in some columns. -/
def keysAt (table : Table) (names : List String) (row : Nat) : List (Option Key) :=
  names.map fun name => (table.value? name row).map Cell.key

/-- Whether all key cells of a row are there and none is missing. -/
def HasKeys (table : Table) (names : List String) (row : Nat) : Prop :=
  ∀ name ∈ names, (table.value? name row).any (fun cell => !cell.isMissing) = true

instance (table : Table) (names : List String) (row : Nat) :
    Decidable (table.HasKeys names row) :=
  inferInstanceAs (Decidable (∀ name ∈ names, _))

/-- Whether a row has keys can be read off them. -/
theorem hasKeys_iff {table : Table} {names : List String} {row : Nat} :
    table.HasKeys names row ↔
      ∀ key ∈ table.keysAt names row, key ≠ none ∧ key ≠ some .missing := by
  simp only [HasKeys, keysAt, List.forall_mem_map]
  constructor
  · intro has name member
    have present := has name member
    cases value : table.value? name row with
    | none =>
        rw [value] at present
        cases present
    | some cell =>
        rw [value] at present
        refine ⟨nofun, fun missing => ?_⟩
        rw [Option.map_some, Option.some.injEq, Cell.key_eq_missing_iff] at missing
        simp [missing] at present
  · intro keyed name member
    obtain ⟨there, present⟩ := keyed name member
    cases value : table.value? name row with
    | none =>
        rw [value] at there
        exact absurd rfl there
    | some cell =>
        rw [value, Option.map_some, ne_eq, Option.some.injEq, Cell.key_eq_missing_iff] at present
        simp [present]

/-- The rows that have some keys, in ascending order. -/
def rowsWith (table : Table) (names : List String) (keys : List (Option Key)) : List Nat :=
  (List.range table.rows).filter fun row => table.keysAt names row == keys

/-- The rows up to a bound that have the keys of a row, in ascending order. -/
def rowsLike (table : Table) (names : List String) (row bound : Nat) : List Nat :=
  (List.range bound).filter fun other => table.keysAt names other == table.keysAt names row

end Table

namespace Grouping

/-- The grouping columns are those of the names. -/
theorem columnsOf_eq_ok {table : Table} {names : List String} {columns : List Column}
    (found : columnsOf table names = .ok columns) :
    names.map table.column? = columns.map some := by
  induction names generalizing columns with
  | nil =>
      cases found
      rfl
  | cons name names induction =>
      rw [columnsOf] at found
      obtain ⟨column, head, afterHead⟩ := Except.bind_eq_ok_iff.mp found
      obtain ⟨later, rest, finished⟩ := Except.bind_eq_ok_iff.mp afterHead
      cases finished
      rw [List.map_cons, Table.require_eq_ok_iff.mp head, induction rest]
      rfl

theorem column?_of_columnsOf {table : Table} {names : List String} {columns : List Column}
    (found : columnsOf table names = .ok columns) {position : Nat} {column : Column}
    (there : columns[position]? = some column) :
    ∃ name, names[position]? = some name ∧ table.column? name = some column := by
  have same : (names.map table.column?)[position]? = (columns.map some)[position]? := by
    rw [columnsOf_eq_ok found]
  rw [List.getElem?_map, List.getElem?_map, there] at same
  obtain ⟨name, isName, isColumn⟩ := Option.map_eq_some_iff.mp same
  exact ⟨name, isName, isColumn⟩

/-- The cells of a row with a key are present and have that key. -/
theorem rowCells_of_rowKey {columns : List Column} {row : Nat} {key : List Key}
    (keyed : rowKey columns row = some key) :
    (rowCells columns row).map Cell.key = key ∧
      ∀ cell ∈ rowCells columns row, cell.isMissing = false := by
  simp only [rowKey] at keyed
  split at keyed
  · cases keyed
  · next nothingMissing =>
      refine ⟨Option.some.inj keyed, fun cell member => ?_⟩
      simp only [List.any_eq_true, not_exists, not_and] at nothingMissing
      simpa using nothingMissing cell member

/-- The grouping columns give the cells of a row. -/
theorem values_eq_rowCells {table : Table} (wellFormed : table.WellFormed) {names : List String}
    {columns : List Column} (found : columnsOf table names = .ok columns) {row : Nat}
    (inside : row < table.rows) :
    (names.map fun name => table.value? name row) = (rowCells columns row).map some := by
  apply List.ext_getElem?
  intro position
  have same : (names.map table.column?)[position]? = (columns.map some)[position]? := by
    rw [columnsOf_eq_ok found]
  rw [List.getElem?_map, List.getElem?_map] at same
  rw [rowCells, List.map_map, List.getElem?_map, List.getElem?_map]
  cases named : names[position]? with
  | none =>
      rw [named] at same
      rw [Option.map_eq_none_iff.mp same.symm]
      rfl
  | some name =>
      rw [named] at same
      obtain ⟨column, there, shown⟩ := Option.map_eq_some_iff.mp same.symm
      rw [there, Option.map_some, Option.map_some, wellFormed.value?_eq shown.symm inside]
      rfl

theorem keysAt_eq {table : Table} (wellFormed : table.WellFormed) {names : List String}
    {columns : List Column} (found : columnsOf table names = .ok columns) {row : Nat}
    (inside : row < table.rows) :
    table.keysAt names row = ((rowCells columns row).map Cell.key).map some := by
  have mapped := congrArg (List.map (Option.map Cell.key))
    (values_eq_rowCells wellFormed found inside)
  rw [List.map_map, List.map_map] at mapped
  rw [List.map_map]
  exact mapped

/-- A row has a key exactly when it has keys, and the key is made of them. -/
theorem rowKey_eq_some_iff {table : Table} (wellFormed : table.WellFormed)
    {names : List String} {columns : List Column}
    (found : columnsOf table names = .ok columns) {row : Nat} (inside : row < table.rows)
    {key : List Key} :
    rowKey columns row = some key ↔
      table.HasKeys names row ∧ table.keysAt names row = key.map some := by
  have values := values_eq_rowCells wellFormed found inside
  have present : table.HasKeys names row ↔ (rowCells columns row).any Cell.isMissing = false := by
    have all : table.HasKeys names row ↔
        ∀ value ∈ names.map fun name => table.value? name row,
          value.any (fun cell => !cell.isMissing) = true := by
      simp only [Table.HasKeys, List.forall_mem_map]
    rw [all, values]
    simp
  have unwrapped : ∀ {left right : List Key}, left.map some = right.map some ↔ left = right := by
    intro left right
    exact List.map_inj_right fun _ _ same => Option.some.inj same
  rw [rowKey, present, keysAt_eq wellFormed found inside, unwrapped]
  by_cases gap : (rowCells columns row).any Cell.isMissing = true
  · simp [gap]
  · simp [gap]

theorem rowKey_eq_none_iff {table : Table} (wellFormed : table.WellFormed)
    {names : List String} {columns : List Column}
    (found : columnsOf table names = .ok columns) {row : Nat} (inside : row < table.rows) :
    rowKey columns row = none ↔ ¬table.HasKeys names row := by
  cases key : rowKey columns row with
  | some keys =>
      have keyed := (rowKey_eq_some_iff wellFormed found inside).mp key
      simp [keyed.1]
  | none =>
      simp only [true_iff]
      intro has
      have some := (rowKey_eq_some_iff wellFormed found inside).mpr
        ⟨has, keysAt_eq wellFormed found inside⟩
      rw [key] at some
      cases some

/-- The rows of a key among the first rows, in ascending order. -/
def rowsOf (keyOf : Nat → Option (List Key)) (bound : Nat) (key : List Key) : List Nat :=
  (List.range bound).filter fun row => keyOf row == some key

theorem mem_rowsOf {keyOf : Nat → Option (List Key)} {bound : Nat} {key : List Key}
    {row : Nat} : row ∈ rowsOf keyOf bound key ↔ row < bound ∧ keyOf row = some key := by
  simp [rowsOf]

/-- The rows of a key of present cells are those that have its keys. -/
theorem rowsOf_eq_rowsWith {table : Table} (wellFormed : table.WellFormed)
    {names : List String} {columns : List Column}
    (found : columnsOf table names = .ok columns) {key : List Key}
    (present : ∀ part ∈ key, part ≠ .missing) :
    rowsOf (rowKey columns) table.rows key = table.rowsWith names (key.map some) := by
  apply List.filter_congr
  intro row inRange
  rw [Bool.eq_iff_iff, beq_iff_eq, beq_iff_eq,
    rowKey_eq_some_iff wellFormed found (List.mem_range.mp inRange)]
  constructor
  · exact And.right
  · intro same
    refine ⟨Table.hasKeys_iff.mpr ?_, same⟩
    rw [same, List.forall_mem_map]
    intro part isPart
    exact ⟨nofun, fun missing => present part isPart (Option.some.inj missing)⟩

theorem present_of_hasKeys {table : Table} {names : List String} {row : Nat} {key : List Key}
    (has : table.HasKeys names row) (same : table.keysAt names row = key.map some) :
    ∀ part ∈ key, part ≠ .missing := by
  rw [Table.hasKeys_iff, same, List.forall_mem_map] at has
  intro part isPart missing
  exact (has part isPart).2 (congrArg some missing)

/-- The rows of the key of a row are those with its keys. -/
theorem rowsOf_eq_rowsLike {table : Table} (wellFormed : table.WellFormed)
    {names : List String} {columns : List Column}
    (found : columnsOf table names = .ok columns) {row bound : Nat} {key : List Key}
    (inside : row < table.rows) (keyed : rowKey columns row = some key)
    (bounded : bound ≤ table.rows) :
    rowsOf (rowKey columns) bound key = table.rowsLike names row bound := by
  obtain ⟨has, keys⟩ := (rowKey_eq_some_iff wellFormed found inside).mp keyed
  apply List.filter_congr
  intro other inRange
  have otherInside : other < table.rows :=
    Nat.lt_of_lt_of_le (List.mem_range.mp inRange) bounded
  rw [Bool.eq_iff_iff, beq_iff_eq, beq_iff_eq,
    rowKey_eq_some_iff wellFormed found otherInside, keys]
  constructor
  · exact fun same => same.2
  · intro same
    refine ⟨?_, same⟩
    rw [Table.hasKeys_iff, same, ← keys]
    exact Table.hasKeys_iff.mp has

/-- A grouping is described by the distinct keys of the first rows. -/
structure Partitions (grouping : Grouping) (rows : Nat) (keyOf : Nat → Option (List Key))
    (cellsOf : Nat → List Cell) (distinct : List (List Key)) : Prop where
  nodup : distinct.Nodup
  covers : ∀ row < rows, ∀ key, keyOf row = some key → key ∈ distinct
  occupied : 0 < rows → ∀ key ∈ distinct, ∃ row < rows, keyOf row = some key
  members : grouping.members = distinct.map (rowsOf keyOf rows)
  keys : grouping.keys = grouping.members.map fun group => cellsOf (group.headD 0)
  groupOf : grouping.groupOf =
    (List.range rows).map fun row => (keyOf row).bind fun key => distinct.idxOf? key

theorem nodup_eraseDups (keys : List (List Key)) : keys.eraseDups.Nodup := by
  cases keys with
  | nil => exact List.nodup_nil
  | cons key rest =>
      rw [List.eraseDups_cons, List.nodup_cons]
      refine ⟨?_, nodup_eraseDups _⟩
      intro member
      have kept := (List.mem_filter.mp (List.mem_eraseDups.mp member)).2
      simp at kept
termination_by keys.length
decreasing_by
  have bounded := List.length_filter_le (fun other => !other == key) rest
  rw [List.length_cons]
  omega

theorem ofColumns_partitions (rows : Nat) (columns : List Column) :
    ∃ distinct, (ofColumns rows columns).Partitions rows (rowKey columns) (rowCells columns)
      distinct := by
  let keyed := (List.range rows).map fun row => (row, rowKey columns row)
  have listed : ∀ key, key ∈ (keyed.filterMap Prod.snd).eraseDups ↔
      ∃ row < rows, rowKey columns row = some key := by
    intro key
    rw [List.mem_eraseDups, List.mem_filterMap]
    constructor
    · rintro ⟨entry, member, hasKey⟩
      obtain ⟨row, inRange, rfl⟩ := List.mem_map.mp member
      exact ⟨row, List.mem_range.mp inRange, hasKey⟩
    · rintro ⟨row, inside, hasKey⟩
      exact ⟨(row, rowKey columns row),
        List.mem_map.mpr ⟨row, List.mem_range.mpr inside, rfl⟩, hasKey⟩
  refine ⟨(keyed.filterMap Prod.snd).eraseDups, nodup_eraseDups _, ?_, ?_, ?_, rfl, ?_⟩
  · intro row inside key hasKey
    exact (listed key).mpr ⟨row, inside, hasKey⟩
  · intro _ key member
    exact (listed key).mp member
  · apply List.map_congr_left
    intro key _
    rw [List.filter_map, List.map_map, rowsOf]
    exact List.map_id _
  · have paired : (ofColumns rows columns).groupOf = keyed.map fun entry =>
        entry.2.bind fun key => (keyed.filterMap Prod.snd).eraseDups.idxOf? key := rfl
    rw [paired, List.map_map]
    rfl

theorem whole_partitions (rows : Nat) :
    (whole rows).Partitions rows (rowKey []) (rowCells []) [[]] := by
  refine ⟨by simp, ?_, ?_, ?_, rfl, ?_⟩
  · intro row _ key hasKey
    cases hasKey
    exact List.mem_cons_self
  · intro some key member
    cases List.mem_singleton.mp member
    exact ⟨0, some, rfl⟩
  · have all : rowsOf (rowKey []) rows [] = List.range rows := by
      rw [rowsOf, List.filter_eq_self]
      intro row _
      rfl
    rw [List.map_singleton, all]
    rfl
  · have zero : ∀ row, ((rowKey [] row).bind fun key => [[]].idxOf? key) = some 0 :=
      fun _ => rfl
    simp only [zero, List.map_const', List.length_range]
    rfl

theorem ofTable_partitions {table : Table} {groupBy : List String} {grouping : Grouping}
    (grouped : ofTable table groupBy = .ok grouping) :
    ∃ columns distinct, columnsOf table groupBy = .ok columns ∧
      grouping.Partitions table.rows (rowKey columns) (rowCells columns) distinct := by
  rw [ofTable] at grouped
  by_cases empty : groupBy.isEmpty = true
  · rw [if_pos empty] at grouped
    cases grouped
    rw [List.isEmpty_iff.mp empty]
    exact ⟨[], [[]], rfl, whole_partitions table.rows⟩
  · rw [if_neg empty] at grouped
    cases found : columnsOf table groupBy with
    | error error =>
        rw [found] at grouped
        cases grouped
    | ok columns =>
        rw [found] at grouped
        cases grouped
        obtain ⟨distinct, partitions⟩ := ofColumns_partitions table.rows columns
        exact ⟨columns, distinct, rfl, partitions⟩

theorem exists_columnsOf {table : Table} {names : List String}
    (has : ∀ name ∈ names, table.hasColumn name = true) :
    ∃ columns, columnsOf table names = .ok columns := by
  induction names with
  | nil => exact ⟨[], rfl⟩
  | cons name names induction =>
      obtain ⟨column, shown⟩ := Table.exists_column_of_hasColumn (has name List.mem_cons_self)
      obtain ⟨columns, found⟩ := induction fun other member =>
        has other (List.mem_cons_of_mem name member)
      refine ⟨column :: columns, ?_⟩
      rw [columnsOf, Table.require_eq_ok_iff.mpr shown, found]
      rfl

/-- Columns that exist can be grouped by. -/
theorem exists_grouping {table : Table} {groupBy : List String}
    (has : ∀ name ∈ groupBy, table.hasColumn name = true) :
    ∃ grouping, ofTable table groupBy = .ok grouping := by
  obtain ⟨columns, found⟩ := exists_columnsOf has
  rw [ofTable]
  by_cases empty : groupBy.isEmpty = true
  · exact ⟨whole table.rows, if_pos empty⟩
  · rw [if_neg empty, found]
    exact ⟨ofColumns table.rows columns, rfl⟩

section

variable {grouping : Grouping} {rows : Nat} {keyOf : Nat → Option (List Key)}
  {cellsOf : Nat → List Cell} {distinct : List (List Key)}

/-- The key cells of a group: those of its first row. -/
def cellsOfKey (keyOf : Nat → Option (List Key)) (cellsOf : Nat → List Cell) (rows : Nat)
    (key : List Key) : List Cell :=
  cellsOf ((rowsOf keyOf rows key).headD 0)

/-- Sorting only changes the order of the keys. -/
theorem Partitions.exists_order
    (partitions : grouping.Partitions rows keyOf cellsOf distinct) :
    ∃ order : List (List Key), order.Perm distinct ∧
      grouping.sorted =
        order.map fun key => (cellsOfKey keyOf cellsOf rows key, rowsOf keyOf rows key) := by
  let entryOf := fun key => (cellsOfKey keyOf cellsOf rows key, rowsOf keyOf rows key)
  have zipped : grouping.keys.zip grouping.members = distinct.map entryOf := by
    rw [partitions.keys, partitions.members, List.map_map, List.zip_map']
    rfl
  refine ⟨distinct.mergeSort fun left right =>
    compareKeys (entryOf left).1 (entryOf right).1 != .gt, List.mergeSort_perm _ _, ?_⟩
  rw [sorted, zipped, List.map_mergeSort]
  intro left _ right _
  rfl

/-- A group that has rows starts with one of its rows. -/
theorem headD_rowsOf {key : List Key} (occupied : ∃ row < rows, keyOf row = some key) :
    (rowsOf keyOf rows key).headD 0 < rows ∧
      keyOf ((rowsOf keyOf rows key).headD 0) = some key := by
  obtain ⟨row, inside, keyed⟩ := occupied
  have member : row ∈ rowsOf keyOf rows key := mem_rowsOf.mpr ⟨inside, keyed⟩
  cases listed : rowsOf keyOf rows key with
  | nil =>
      rw [listed] at member
      cases member
  | cons first later =>
      have isFirst : first ∈ rowsOf keyOf rows key := by
        rw [listed]
        exact List.mem_cons_self
      exact mem_rowsOf.mp isFirst

/-- Spreading one value per group over the rows gives each row the value of its key. -/
theorem Partitions.spread (partitions : grouping.Partitions rows keyOf cellsOf distinct)
    (value : List Nat → Cell) :
    (grouping.groupOf.map fun group =>
      match group with
      | some index => (grouping.members.map value)[index]?.getD .null
      | none => .null) =
    (List.range rows).map fun row =>
      (keyOf row).elim .null fun key => value (rowsOf keyOf rows key) := by
  rw [partitions.groupOf, partitions.members, List.map_map, List.map_map]
  apply List.map_congr_left
  intro row member
  simp only [Function.comp_apply]
  cases keyed : keyOf row with
  | none => rfl
  | some key =>
      have listed : key ∈ distinct :=
        partitions.covers row (List.mem_range.mp member) key keyed
      cases indexed : distinct.idxOf? key with
      | none => exact absurd listed (List.idxOf?_eq_none_iff.mp indexed)
      | some index =>
          obtain ⟨inside, same, -⟩ := List.idxOf?_eq_some_iff.mp indexed
          simp only [Option.bind_some, indexed, List.getElem?_map,
            List.getElem?_eq_getElem inside, same, Option.map_some, Option.getD_some,
            Function.comp_apply, Option.elim_some]

end

end Grouping

end LogPipe
