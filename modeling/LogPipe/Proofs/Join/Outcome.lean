import LogPipe.Proofs.Column.Lossy
import LogPipe.Proofs.Column.Uniformity
import LogPipe.Proofs.Join.Pairing

/-!
# What a join makes of two tables

A join of well-formed tables is refused for three reasons only: there is no key, a table
lacks one, or two output columns would have the same name.  Otherwise it has the rows of
the pairs.  All columns are gathered along the same pairs, so that the cells of a row of
the join stem from the two rows that were paired.
-/

namespace LogPipe.Join

open Grouping

/-- The name a left column has in the join. -/
def leftName (right : Table) (keys : List String) (name : String) : String :=
  if name ∈ keys then name else if right.hasColumn name then name ++ "_x" else name

/-- The name a right column that is no key has in the join. -/
def rightName (left : Table) (name : String) : String :=
  if left.hasColumn name then name ++ "_y" else name

/-- The names of the columns of a join. -/
def outputNames (left right : Table) (keys : List String) : List String :=
  left.names.map (leftName right keys) ++
    (right.names.filter fun name => !keys.contains name).map (rightName left)

/-- Why two tables are not joined. -/
inductive Refused (left right : Table) (keys : List String) : JoinError → Prop where
  | noKeys : keys = [] → Refused left right keys .noKeys
  | missingLeft {name : String} :
      keys.find? (fun key => !left.hasColumn key) = some name →
      Refused left right keys (.missingKey "left" name)
  | missingRight {name : String} :
      (∀ key ∈ keys, left.hasColumn key = true) →
      keys.find? (fun key => !right.hasColumn key) = some name →
      Refused left right keys (.missingKey "right" name)
  | duplicate {name : String} :
      keys ≠ [] → (∀ key ∈ keys, left.hasColumn key = true) →
      (∀ key ∈ keys, right.hasColumn key = true) →
      Table.FirstRepeated (outputNames left right keys) name →
      Refused left right keys (.table (.duplicateColumn name))

/-- The key cell of a pair: that of the left row where there is one. -/
def keyCell (left right : Table) (name : String) (pair : RowPair) : Cell :=
  ((pair.1.bind (left.value? name)) <|> (pair.2.bind (right.value? name))).getD .null

/-- A table that is the join of two others. -/
structure Joined (left right : Table) (keys : List String) (kind : JoinKind) (out : Table) :
    Prop where
  names : out.names = outputNames left right keys
  rows : out.rows = (rowPairs left right keys kind).length
  keyColumn : ∀ name ∈ keys, out.column? name =
    some (Column.lossy ((rowPairs left right keys kind).map (keyCell left right name)))
  leftColumn : ∀ name, name ∉ keys → ∀ column, left.column? name = some column →
    out.column? (leftName right keys name) =
      some ⟨column.kind, (rowPairs left right keys kind).map fun pair =>
        Column.shown column.kind (pair.1.bind (left.value? name))⟩
  rightColumn : ∀ name, name ∉ keys → ∀ column, right.column? name = some column →
    out.column? (rightName left name) =
      some ⟨column.kind, (rowPairs left right keys kind).map fun pair =>
        Column.shown column.kind (pair.2.bind (right.value? name))⟩

theorem keyColumns_of_missing {side : String} {table : Table} {keys : List String}
    {name : String} (missing : keys.find? (fun key => !table.hasColumn key) = some name) :
    keyColumns side table keys = .error (.missingKey side name) := by
  induction keys with
  | nil => cases missing
  | cons key keys induction =>
      rw [List.find?_cons, Table.hasColumn] at missing
      rw [keyColumns]
      cases shown : table.column? key with
      | none =>
          rw [shown] at missing
          cases missing
          rfl
      | some column =>
          rw [shown] at missing
          simp only [induction missing]
          rfl

/-- Key columns that are all there are those a grouping has. -/
theorem exists_keyColumns {table : Table} {keys : List String}
    (has : ∀ key ∈ keys, table.hasColumn key = true) (side : String) :
    ∃ columns, keyColumns side table keys = .ok columns ∧
      columnsOf table keys = .ok columns := by
  induction keys with
  | nil => exact ⟨[], rfl, rfl⟩
  | cons key keys induction =>
      rw [List.forall_mem_cons] at has
      obtain ⟨column, shown⟩ := Table.exists_column_of_hasColumn has.1
      obtain ⟨columns, built, found⟩ := induction has.2
      refine ⟨column :: columns, ?_, ?_⟩
      · simp only [keyColumns, shown, built]
        rfl
      · rw [columnsOf, Table.require_eq_ok_iff.mpr shown, found]
        rfl

theorem buildColumns_of_ok {build : String × Column → Except JoinError (String × Column)}
    {made : String × Column → String × Column} {entries : List (String × Column)}
    (each : ∀ entry ∈ entries, build entry = .ok (made entry)) :
    buildColumns build entries = .ok (entries.map made) := by
  induction entries with
  | nil => rfl
  | cons entry entries induction =>
      rw [List.forall_mem_cons] at each
      rw [buildColumns, each.1, induction each.2]
      rfl

/-- A source column gathered along one side of the pairs. -/
def gathered (table : Table) (positions : List (Option Nat)) (entry : String × Column) :
    Column :=
  ⟨entry.2.kind, positions.map fun position =>
    Column.shown entry.2.kind (position.bind (table.value? entry.1))⟩

/-- What becomes of a left column. -/
def leftEntry (left right : Table) (keys : List String) (kind : JoinKind)
    (entry : String × Column) : String × Column :=
  (leftName right keys entry.1,
    if entry.1 ∈ keys then
      Column.lossy ((rowPairs left right keys kind).map (keyCell left right entry.1))
    else gathered left ((rowPairs left right keys kind).map Prod.fst) entry)

/-- What becomes of a right column that is no key. -/
def rightEntry (left right : Table) (keys : List String) (kind : JoinKind)
    (entry : String × Column) : String × Column :=
  (rightName left entry.1, gathered right ((rowPairs left right keys kind).map Prod.snd) entry)

section

variable {left right : Table} {keys : List String} {kind : JoinKind}

theorem reindex_eq_gathered {table : Table} (wellFormed : table.WellFormed)
    {entry : String × Column} (member : entry ∈ table.columns) {positions : List (Option Nat)}
    (inside : ∀ position, some position ∈ positions → position < table.rows) :
    entry.2.reindex positions = .ok (gathered table positions entry) := by
  have named : table.column? entry.1 = some entry.2 :=
    Table.column?_of_mem wellFormed.names_nodup member
  have values : table.value? entry.1 = entry.2.get? := by
    funext row
    rw [Table.value?, named]
    rfl
  -- A uniform column has nothing that could not be fitted into it again.
  rw [← wellFormed.sizes entry member] at inside
  rw [Column.reindex_of_uniform (wellFormed.uniform entry member) inside, gathered, values]

theorem mergedCells_eq (wellLeft : left.WellFormed) (wellRight : right.WellFormed)
    {name : String} {leftColumn rightColumn : Column}
    (leftShown : left.column? name = some leftColumn)
    (rightShown : right.column? name = some rightColumn) :
    mergedCells leftColumn rightColumn (rowPairs left right keys kind) =
      (rowPairs left right keys kind).map (keyCell left right name) := by
  apply List.map_congr_left
  rintro ⟨leftRow, rightRow⟩ member
  obtain ⟨leftInside, rightInside⟩ := lt_of_mem_rowPairs member
  cases leftRow with
  | some row =>
      have there := wellLeft.value?_eq leftShown (leftInside row rfl)
      simp [keyCell, there]
  | none =>
      cases rightRow with
      | some row =>
          have there := wellRight.value?_eq rightShown (rightInside row rfl)
          simp [keyCell, there]
      | none => rfl

theorem leftColumn_eq (wellLeft : left.WellFormed) (wellRight : right.WellFormed)
    (has : ∀ key ∈ keys, right.hasColumn key = true) {entry : String × Column}
    (member : entry ∈ left.columns) :
    leftColumn right keys (rowPairs left right keys kind) entry =
      .ok (leftEntry left right keys kind entry) := by
  obtain ⟨name, column⟩ := entry
  have named : left.column? name = some column :=
    Table.column?_of_mem wellLeft.names_nodup member
  by_cases isKey : name ∈ keys
  · obtain ⟨other, shown⟩ := Table.exists_column_of_hasColumn (has name isKey)
    have merged := @mergedCells_eq _ _ keys kind wellLeft wellRight _ _ _ named shown
    simp [leftColumn, leftEntry, leftName, isKey, shown, merged]
  · have inside : ∀ position, some position ∈ (rowPairs left right keys kind).map Prod.fst →
        position < left.rows := by
      intro position listed
      obtain ⟨pair, inPairs, isRow⟩ := List.mem_map.mp listed
      exact (lt_of_mem_rowPairs inPairs).1 position isRow
    have reindexed : column.reindex ((rowPairs left right keys kind).map Prod.fst) = _ :=
      reindex_eq_gathered wellLeft member inside
    simp [leftColumn, leftEntry, leftName, isKey, reindexed]

theorem rightColumn_eq (wellRight : right.WellFormed) {entry : String × Column}
    (member : entry ∈ right.columns) :
    rightColumn left (rowPairs left right keys kind) entry =
      .ok (rightEntry left right keys kind entry) := by
  obtain ⟨name, column⟩ := entry
  have inside : ∀ position, some position ∈ (rowPairs left right keys kind).map Prod.snd →
      position < right.rows := by
    intro position listed
    obtain ⟨pair, inPairs, isRow⟩ := List.mem_map.mp listed
    exact (lt_of_mem_rowPairs inPairs).2 position isRow
  have reindexed : column.reindex ((rowPairs left right keys kind).map Prod.snd) = _ :=
    reindex_eq_gathered wellRight member inside
  simp [rightColumn, rightEntry, rightName, reindexed]

/-- The columns of a join. -/
def outputColumns (left right : Table) (keys : List String) (kind : JoinKind) :
    List (String × Column) :=
  left.columns.map (leftEntry left right keys kind) ++
    (right.columns.filter fun entry => !keys.contains entry.1).map
      (rightEntry left right keys kind)

theorem names_outputColumns :
    (outputColumns left right keys kind).map Prod.fst = outputNames left right keys := by
  rw [outputColumns, outputNames, List.map_append, List.map_map, List.map_map, Table.names,
    Table.names, List.map_map, List.filter_map, List.map_map]
  rfl

theorem sizes_outputColumns : ∀ entry ∈ outputColumns left right keys kind,
    entry.2.size = (rowPairs left right keys kind).length := by
  intro entry member
  rcases List.mem_append.mp member with onLeft | onRight
  · obtain ⟨source, -, rfl⟩ := List.mem_map.mp onLeft
    rw [leftEntry]
    split
    · rw [Column.size_lossy, List.length_map]
    · simp [gathered, Column.size]
  · obtain ⟨source, -, rfl⟩ := List.mem_map.mp onRight
    simp [rightEntry, gathered, Column.size]

/-- With keys that both tables have, only the names decide. -/
theorem tables_eq (wellLeft : left.WellFormed) (wellRight : right.WellFormed)
    (someKey : keys ≠ []) (leftHas : ∀ key ∈ keys, left.hasColumn key = true)
    (rightHas : ∀ key ∈ keys, right.hasColumn key = true) :
    tables left right keys kind =
      (Table.ofRows (rowPairs left right keys kind).length
        (outputColumns left right keys kind)).mapError .table := by
  obtain ⟨leftColumns, leftKeys, leftFound⟩ := exists_keyColumns leftHas "left"
  obtain ⟨rightColumns, rightKeys, rightFound⟩ := exists_keyColumns rightHas "right"
  have leftOut := buildColumns_of_ok fun entry member =>
    @leftColumn_eq _ _ _ kind wellLeft wellRight rightHas entry member
  have rightOut : buildColumns (rightColumn left (rowPairs left right keys kind))
      (right.columns.filter fun entry => !keys.contains entry.1) = _ :=
    buildColumns_of_ok fun entry member =>
      rightColumn_eq wellRight (List.mem_filter.mp member).1
  rw [tables, if_neg (by simpa using someKey), leftKeys, rightKeys]
  simp only [bind, Except.bind, pairs_eq wellLeft wellRight leftFound rightFound, leftOut,
    rightOut]
  rfl

theorem tables_of_refused (wellLeft : left.WellFormed) (wellRight : right.WellFormed)
    {error : JoinError} (refused : Refused left right keys error) :
    tables left right keys kind = .error error := by
  cases refused with
  | noKeys noKey =>
      subst noKey
      rfl
  | missingLeft missing =>
      have someKey : keys ≠ [] := List.ne_nil_of_mem (List.mem_of_find?_eq_some missing)
      rw [tables, if_neg (by simpa using someKey), keyColumns_of_missing missing]
      rfl
  | missingRight leftHas missing =>
      have someKey : keys ≠ [] := List.ne_nil_of_mem (List.mem_of_find?_eq_some missing)
      obtain ⟨leftColumns, leftKeys, -⟩ := exists_keyColumns leftHas "left"
      rw [tables, if_neg (by simpa using someKey), leftKeys, keyColumns_of_missing missing]
      rfl
  | duplicate someKey leftHas rightHas repeated =>
      rw [← @names_outputColumns _ _ _ kind] at repeated
      rw [tables_eq wellLeft wellRight someKey leftHas rightHas,
        Table.ofRows_of_firstRepeated sizes_outputColumns repeated]
      rfl

theorem joined_outputColumns (leftHas : ∀ key ∈ keys, left.hasColumn key = true)
    (distinct : (outputNames left right keys).Nodup) :
    Joined left right keys kind
      ⟨(rowPairs left right keys kind).length, outputColumns left right keys kind⟩ := by
  rw [← @names_outputColumns _ _ _ kind] at distinct
  have shows : ∀ {name column}, (name, column) ∈ outputColumns left right keys kind →
      (Table.mk (rowPairs left right keys kind).length
        (outputColumns left right keys kind)).column? name = some column :=
    fun member => Table.column?_of_mem distinct member
  refine ⟨names_outputColumns, rfl, ?_, ?_, ?_⟩
  · intro name isKey
    obtain ⟨column, shown⟩ := Table.exists_column_of_hasColumn (leftHas name isKey)
    have listed := List.mem_map_of_mem (f := leftEntry left right keys kind)
      (Table.mem_columns_of_column? shown)
    simp only [leftEntry, leftName, isKey, if_true] at listed
    exact shows (List.mem_append_left _ listed)
  · intro name noKey column shown
    have listed := List.mem_map_of_mem (f := leftEntry left right keys kind)
      (Table.mem_columns_of_column? shown)
    simp only [leftEntry, noKey, if_false, gathered, List.map_map] at listed
    exact shows (List.mem_append_left _ listed)
  · intro name noKey column shown
    have kept : (name, column) ∈ right.columns.filter fun entry => !keys.contains entry.1 := by
      rw [List.mem_filter]
      exact ⟨Table.mem_columns_of_column? shown, by simpa using noKey⟩
    have listed := List.mem_map_of_mem (f := rightEntry left right keys kind) kept
    simp only [rightEntry, gathered, List.map_map] at listed
    exact shows (List.mem_append_right _ listed)

theorem exists_joined (wellLeft : left.WellFormed) (wellRight : right.WellFormed)
    (fine : ¬∃ error, Refused left right keys error) :
    ∃ out, tables left right keys kind = .ok out ∧ Joined left right keys kind out := by
  have someKey : keys ≠ [] := fun noKey => fine ⟨_, .noKeys noKey⟩
  have leftHas : ∀ key ∈ keys, left.hasColumn key = true := by
    cases missing : keys.find? fun key => !left.hasColumn key with
    | some name => exact absurd ⟨_, .missingLeft missing⟩ fine
    | none => simpa using missing
  have rightHas : ∀ key ∈ keys, right.hasColumn key = true := by
    cases missing : keys.find? fun key => !right.hasColumn key with
    | some name => exact absurd ⟨_, .missingRight leftHas missing⟩ fine
    | none => simpa using missing
  have distinct : (outputNames left right keys).Nodup := by
    by_contra repeats
    obtain ⟨name, repeated⟩ := Table.exists_firstRepeated_iff.mpr repeats
    exact fine ⟨_, .duplicate someKey leftHas rightHas repeated⟩
  refine ⟨_, ?_, joined_outputColumns leftHas distinct⟩
  rw [← @names_outputColumns _ _ _ kind] at distinct
  rw [tables_eq wellLeft wellRight someKey leftHas rightHas,
    Table.ofRows_of_nodup sizes_outputColumns distinct]
  rfl

end

/-- Tables are joined unless there is a reason to refuse them: a key is missing, or two
columns of the join would have the same name. -/
theorem tables_joins (left right : Table) (keys : List String) (kind : JoinKind)
    (wellLeft : left.WellFormed) (wellRight : right.WellFormed) :
    (∀ error, tables left right keys kind = .error error ↔ Refused left right keys error) ∧
      ((¬∃ error, Refused left right keys error) →
        ∃ out, tables left right keys kind = .ok out ∧ Joined left right keys kind out) := by
  refine ⟨?_, exists_joined wellLeft wellRight⟩
  intro error
  constructor
  · intro failed
    by_cases refusal : ∃ other, Refused left right keys other
    · obtain ⟨other, refused⟩ := refusal
      rw [tables_of_refused wellLeft wellRight refused] at failed
      cases failed
      exact refused
    · obtain ⟨out, joined, -⟩ := @exists_joined _ _ _ kind wellLeft wellRight refusal
      rw [joined] at failed
      cases failed
  · exact tables_of_refused wellLeft wellRight

/-- Visits to three hosts, one of them unknown. -/
def visits : Table :=
  ⟨3, [("host", ⟨.text, [.text "a", .null, .text "b"]⟩), ("n", ⟨.int, [.int 1, .int 2, .int 3]⟩)]⟩

/-- The owners of two hosts. -/
def owners : Table :=
  ⟨2, [("host", ⟨.text, [.text "c", .text "a"]⟩), ("n", ⟨.int, [.int 4, .int 5]⟩)]⟩

/-- Only the first visit has an owner, and the first owner has no visit. -/
theorem tables_joins_sample :
    ∃ out, tables visits owners ["host"] .outer = .ok out ∧
      Joined visits owners ["host"] .outer out ∧
      rowPairs visits owners ["host"] .outer =
        [(some 0, some 1), (some 1, none), (some 2, none), (none, some 0)] := by
  obtain ⟨fails, joins⟩ := tables_joins visits owners ["host"] .outer (by decide) (by decide)
  have joined : (tables visits owners ["host"] .outer).isOk = true := by decide
  have fine : ¬∃ error, Refused visits owners ["host"] error := by
    rintro ⟨error, refused⟩
    rw [(fails error).mpr refused] at joined
    cases joined
  obtain ⟨out, computed, isJoin⟩ := joins fine
  exact ⟨out, computed, isJoin, by decide⟩

/-- A table with a column of markers only. -/
def markers : Table :=
  ⟨1, [("host", ⟨.text, [.text "a"]⟩), ("v", ⟨.null, [.missing .nan]⟩)]⟩

/-- A marker that is of the kind of its column is not replaced by the marker of the kind. -/
theorem marker_kept_of_null :
    ∃ out column, markers.WellFormed ∧ owners.WellFormed ∧
      tables markers owners ["host"] .inner = .ok out ∧
      markers.value? "v" 0 = some (.missing .nan) ∧
      out.column? "v" = some column ∧ column.cells ≠ [Cell.missingFor column.kind] := by
  refine ⟨⟨1, [("host", ⟨.text, [.text "a"]⟩), ("v", ⟨.null, [.missing .nan]⟩),
    ("n", ⟨.int, [.int 5]⟩)]⟩, ⟨.null, [.missing .nan]⟩, ?_⟩
  decide

end LogPipe.Join
