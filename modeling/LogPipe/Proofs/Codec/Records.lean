import LogPipe.Codec.Records
import LogPipe.Json.Cells
import LogPipe.Proofs.Column.Reordering
import LogPipe.Proofs.Json.Reading
import LogPipe.Proofs.Table.Stacking
import LogPipe.Proofs.Text.Trimming

/-!
# Tables as JSON records

A table of plain cells is put together again from the records of its rows: they all have the
names of the columns, in order, and a column that is the lossy column of its cells is made of
them once more.  The records survive their text in an array as well as one on each line.

Plain are the cells whose JSON form stands for no other cell: times, floats and the markers for
them are not, and lists of plain cells are, however deep.  The form is an exact value, so nothing
is lost in its text either.
-/

namespace LogPipe.Cell

open LogPipe.Decimal

/-- A cell that is read back from its JSON form. -/
inductive Plain : Cell → Prop where
  | null : Plain .null
  | bool (value : Bool) : Plain (.bool value)
  | int (value : Int64) : Plain (.int value)
  | text (value : String) : Plain (.text value)
  | list {items : List Cell} (each : ∀ item ∈ items, Plain item) : Plain (.list items)

theorem toJsonList_eq (items : List Cell) : toJsonList items = items.map toJson := by
  induction items with
  | nil => rw [toJsonList, List.map_nil]
  | cons item items induction => rw [toJsonList, induction, List.map_cons]

theorem ofJsonList_eq (items : List Json) : ofJsonList items = items.map ofJson := by
  induction items with
  | nil => rw [ofJsonList, List.map_nil]
  | cons item items induction => rw [ofJsonList, induction, List.map_cons]

variable {cell : Cell}

theorem ofJson_toJson (plain : Plain cell) : ofJson cell.toJson = cell := by
  induction plain with
  | null => rw [Cell.null, toJson, ofJson]; rfl
  | bool value => rw [toJson, ofJson]
  | int value => simp only [toJson, ofJson, int64?_toInt]
  | text value => rw [toJson, ofJson]
  | @list items each induction =>
      have kept : items.map (ofJson ∘ toJson) = items.map id := List.map_congr_left induction
      rw [toJson, ofJson, toJsonList_eq, ofJsonList_eq, List.map_map, kept, List.map_id]

theorem exact_toJson (plain : Plain cell) : cell.toJson.Exact := by
  induction plain with
  | null =>
      rw [Cell.null, toJson]
      exact .null
  | bool value =>
      rw [toJson]
      exact .bool value
  | int value =>
      rw [toJson]
      have low : -(twoTo 63 : Int) ≤ value.toInt := value.minValue_le_toInt
      have high : value.toInt ≤ 9223372036854775807 := value.toInt_le
      exact .int low (Int.lt_of_le_of_lt high (by decide))
  | text value =>
      rw [toJson]
      exact .string value
  | list each induction =>
      rw [toJson, toJsonList_eq]
      refine .array fun item member => ?_
      obtain ⟨source, inside, rfl⟩ := List.mem_map.mp member
      exact induction source inside

end LogPipe.Cell

namespace LogPipe.Codec

open LogPipe.Text LogPipe.Json

variable {table : Table}

/-! ## Records of rows -/

/-- The JSON form of the cell of a column at a row. -/
def memberValue (row : Nat) (column : Column) : Json :=
  ((column.get? row).map Cell.toJson).getD .null

/-- The members of the record of a row. -/
def rowMembers (table : Table) (row : Nat) : List (String × Json) :=
  table.columns.map fun entry => (entry.1, memberValue row entry.2)

theorem recordsOf_eq (table : Table) :
    recordsOf table = ((List.range table.rows).map (rowMembers table)).map Json.object := by
  rw [List.map_map]
  rfl

theorem names_rowMembers (table : Table) (row : Nat) :
    (rowMembers table row).map Prod.fst = table.names := by
  rw [rowMembers, List.map_map]
  rfl

theorem lookup_map {κ α β : Type} [BEq κ] (f : α → β) (entries : List (κ × α)) (key : κ) :
    (entries.map fun entry => (entry.1, f entry.2)).lookup key = (entries.lookup key).map f := by
  induction entries with
  | nil => rfl
  | cons entry entries induction =>
      rw [List.map_cons, List.lookup_cons, List.lookup_cons, induction]
      cases key == entry.1 <;> rfl

theorem lookup_rowMembers (wellFormed : table.WellFormed) {entry : String × Column}
    (column : entry ∈ table.columns) (row : Nat) :
    (rowMembers table row).lookup entry.1 = some (memberValue row entry.2) := by
  rw [rowMembers, lookup_map, Table.lookup_of_mem wellFormed.names_nodup column, Option.map_some]

/-! ## Names -/

theorem recordNames_eq (records : List (List (String × Json))) :
    recordNames records = (records.flatMap fun record => record.map Prod.fst).foldl
      Table.addName [] := by
  rw [recordNames, List.foldl_flatMap]
  simp only [List.foldl_map]
  rfl

theorem foldl_addName_of_nodup {known names : List String} (distinct : (known ++ names).Nodup) :
    names.foldl Table.addName known = known ++ names := by
  induction names generalizing known with
  | nil => exact (List.append_nil known).symm
  | cons name names induction =>
      have fresh : name ∉ known := by
        rw [List.nodup_append] at distinct
        exact fun isKnown => distinct.2.2 name isKnown name List.mem_cons_self rfl
      rw [List.append_cons] at distinct
      rw [List.foldl_cons, Table.addName, if_neg (mt List.contains_iff_mem.mp fresh),
        induction distinct, List.append_assoc]
      rfl

theorem foldl_addName_of_subset {known names : List String} (all : ∀ name ∈ names, name ∈ known) :
    names.foldl Table.addName known = known := by
  induction names with
  | nil => rfl
  | cons name names induction =>
      obtain ⟨first, others⟩ := List.forall_mem_cons.mp all
      rw [List.foldl_cons, Table.addName, if_pos (List.contains_iff_mem.mpr first),
        induction others]

/-- Records that all have the same distinct names have these names together. -/
theorem recordNames_of_same {records : List (List (String × Json))} {names : List String}
    (someRecord : records ≠ []) (distinct : names.Nodup)
    (same : ∀ record ∈ records, record.map Prod.fst = names) : recordNames records = names := by
  obtain ⟨record, others, rfl⟩ := List.exists_cons_of_ne_nil someRecord
  obtain ⟨first, later⟩ := List.forall_mem_cons.mp same
  have named : names.foldl Table.addName [] = names :=
    foldl_addName_of_nodup (show ([] ++ names).Nodup from distinct)
  rw [recordNames_eq, List.flatMap_cons, List.foldl_append, first, named]
  apply foldl_addName_of_subset
  intro name member
  obtain ⟨other, inOthers, inNames⟩ := List.mem_flatMap.mp member
  rwa [later other inOthers] at inNames

/-! ## Tables -/

/-- What JSON records keep of a table.  A table without rows has no record to name its columns,
and a cell must be the one that its JSON form stands for. -/
structure Recordable (table : Table) : Prop where
  wellFormed : table.WellFormed
  someRow : 0 < table.rows
  plain : ∀ entry ∈ table.columns, ∀ cell ∈ entry.2.cells, cell.Plain
  canonical : ∀ entry ∈ table.columns, Column.lossy entry.2.cells = entry.2

variable {entry : String × Column}

theorem ofJson_memberValue (recordable : Recordable table) (column : entry ∈ table.columns)
    (row : Nat) : Cell.ofJson (memberValue row entry.2) = entry.2.cells[row]?.getD .null := by
  rw [memberValue, Column.get?]
  cases shown : entry.2.cells[row]? with
  | none =>
      rw [Option.map_none, Option.getD_none, Option.getD_none, Cell.ofJson]
  | some cell =>
      exact Cell.ofJson_toJson (recordable.plain entry column cell (List.mem_of_getElem? shown))

/-- The column that is made of the members of one name in all records. -/
theorem lossy_members (recordable : Recordable table) (column : entry ∈ table.columns) :
    Column.lossy (((List.range table.rows).map (rowMembers table)).map fun record =>
      ((record.lookup entry.1).map Cell.ofJson).getD .null) = entry.2 := by
  have member (row : Nat) : (((rowMembers table row).lookup entry.1).map Cell.ofJson).getD .null =
      entry.2.cells[row]?.getD .null := by
    rw [lookup_rowMembers recordable.wellFormed column, Option.map_some, Option.getD_some,
      ofJson_memberValue recordable column]
  rw [List.map_map, ← recordable.wellFormed.sizes entry column]
  exact Column.lossy_map_range (recordable.canonical entry column) member

/-- The records of all rows make up the table. -/
theorem tableOfRecords_rowMembers (recordable : Recordable table) :
    tableOfRecords ((List.range table.rows).map (rowMembers table)) = .ok table := by
  have someRecord : (List.range table.rows).map (rowMembers table) ≠ [] := by
    rw [Ne, List.map_eq_nil_iff, List.range_eq_nil]
    exact Nat.ne_of_gt recordable.someRow
  have names : recordNames ((List.range table.rows).map (rowMembers table)) = table.names := by
    refine recordNames_of_same someRecord recordable.wellFormed.names_nodup fun record member => ?_
    obtain ⟨row, -, rfl⟩ := List.mem_map.mp member
    exact names_rowMembers table row
  have columns : (table.names.map fun name =>
      (name, Column.lossy (((List.range table.rows).map (rowMembers table)).map fun record =>
        ((record.lookup name).map Cell.ofJson).getD .null))) = table.columns.map id := by
    rw [Table.names, List.map_map]
    exact List.map_congr_left fun entry column =>
      congrArg (Prod.mk entry.1) (lossy_members recordable column)
  rw [tableOfRecords, names, columns, List.map_id, List.length_map, List.length_range,
    Table.ofRows_of_nodup recordable.wellFormed.sizes recordable.wellFormed.names_nodup]
  rfl

/-! ## Arrays of records -/

theorem expectRecords_objects (records : List (List (String × Json))) :
    expectRecords (records.map Json.object) = .ok records := by
  induction records with
  | nil => rfl
  | cons record records induction =>
      rw [List.map_cons, expectRecords, induction]
      rfl

theorem readJson_writeJson (recordable : Recordable table)
    (reads : Json.read? (writeJson table) = some (.array (recordsOf table))) :
    readJson (writeJson table) = .ok table := by
  rw [readJson, reads]
  simp only [recordsOf_eq, expectRecords_objects]
  exact tableOfRecords_rowMembers recordable

/-! ## Records on lines -/

theorem splitOn_terminated {texts : List (List Char)} (unbroken : ∀ text ∈ texts, '\n' ∉ text) :
    (texts.flatMap fun text => text ++ ['\n']).splitOn '\n' = texts ++ [[]] := by
  induction texts with
  | nil => rfl
  | cons text texts induction =>
      obtain ⟨first, others⟩ := List.forall_mem_cons.mp unbroken
      have whole : text.splitOn '\n' = [text] :=
        List.splitOnP_eq_singleton fun c member =>
          beq_eq_false_iff_ne.mpr fun isBreak => first (isBreak ▸ member)
      have parts : (text ++ '\n' :: texts.flatMap fun text => text ++ ['\n']).splitOn '\n' =
          text.splitOn '\n' ++ (texts.flatMap fun text => text ++ ['\n']).splitOn '\n' :=
        List.splitOnP_append_cons _ _ rfl
      rw [List.flatMap_cons, List.append_assoc, List.singleton_append, parts, whole,
        induction others]
      rfl

/-- Texts without breaks that each end in one are the lines. -/
theorem lines_terminated {texts : List (List Char)}
    (unbroken : ∀ text ∈ texts, '\n' ∉ text ∧ '\r' ∉ text) :
    lines (texts.flatMap fun text => text ++ ['\n']) = texts := by
  have kept : (texts.map fun text => if text.getLast? == some '\r' then text.dropLast else text) =
      texts.map id := by
    refine List.map_congr_left fun text member => if_neg fun isReturn => ?_
    exact (unbroken text member).2 (List.mem_of_getLast? (eq_of_beq isReturn))
  rw [lines, splitOn_terminated fun text member => (unbroken text member).1]
  simp only [List.dropLast_concat, List.getLast?_concat, kept, List.map_id]
  rfl

/-- The text of a record. -/
def recordText (record : List (String × Json)) : List Char :=
  (Json.object record).write.toList

theorem tight_recordText (record : List (String × Json)) : Tight (recordText record) := by
  rw [recordText, toList_write_object]
  refine ⟨fun c isFirst => ?_, fun c isLast => ?_⟩
  · rw [List.head?_cons, Option.some_inj] at isFirst
    exact isFirst ▸ by decide
  · rw [← List.cons_append, List.getLast?_concat, Option.some_inj] at isLast
    exact isLast ▸ by decide

/-- No record is taken for a blank line. -/
theorem isEmpty_trim_recordText (record : List (String × Json)) :
    (trim (recordText record)).isEmpty = false := by
  rw [trim_eq_self (tight_recordText record), recordText, toList_write_object]
  rfl

theorem readLines_recordText {records : List (List (String × Json))}
    (reads : ∀ record ∈ records, Json.read? (Json.object record).write = some (.object record)) :
    readLines (records.map recordText) = .ok records := by
  induction records with
  | nil => rfl
  | cons record records induction =>
      obtain ⟨first, others⟩ := List.forall_mem_cons.mp reads
      rw [List.map_cons, readLines, recordText, String.ofList_toList, first]
      simp only [induction others]
      rfl

theorem exact_rowMembers (recordable : Recordable table) (row : Nat) :
    (Json.object (rowMembers table row)).Exact := by
  refine .object ?_ fun member inside => ?_
  · rw [names_rowMembers]
    exact recordable.wellFormed.names_nodup
  · obtain ⟨entry, column, rfl⟩ := List.mem_map.mp inside
    rw [memberValue]
    cases shown : entry.2.get? row with
    | none => exact .null
    | some cell =>
        exact Cell.exact_toJson
          (recordable.plain entry column cell (List.mem_of_getElem? shown))

theorem unbroken_recordText (recordable : Recordable table) (row : Nat) :
    '\n' ∉ recordText (rowMembers table row) ∧ '\r' ∉ recordText (rowMembers table row) := by
  have visible := visible_write (exact_rowMembers recordable row)
  exact ⟨fun isBreak => absurd (visible _ isBreak) (by decide),
    fun isReturn => absurd (visible _ isReturn) (by decide)⟩

/-- The records stand on the lines of the text, and no line is blank. -/
theorem lines_writeJsonLines (recordable : Recordable table) :
    (lines (writeJsonLines table).toList).filter (fun line => !(trim line).isEmpty) =
      ((List.range table.rows).map (rowMembers table)).map recordText := by
  have text : (writeJsonLines table).toList =
      (((List.range table.rows).map (rowMembers table)).map recordText).flatMap fun text =>
        text ++ ['\n'] := by
    rw [writeJsonLines, String.toList_join, recordsOf_eq]
    simp only [List.flatMap_map]
    exact List.flatMap_congr fun record _ => String.toList_append
  rw [text, lines_terminated ?_]
  · rw [List.filter_eq_self]
    intro line member
    obtain ⟨record, -, rfl⟩ := List.mem_map.mp member
    rw [isEmpty_trim_recordText]
    rfl
  · intro line member
    obtain ⟨record, inside, rfl⟩ := List.mem_map.mp member
    obtain ⟨row, -, rfl⟩ := List.mem_map.mp inside
    exact unbroken_recordText recordable row

theorem readJsonLines_writeJsonLines (recordable : Recordable table)
    (reads : ∀ record ∈ recordsOf table, Json.read? record.write = some record) :
    readJsonLines (writeJsonLines table) = .ok table := by
  rw [recordsOf_eq] at reads
  rw [readJsonLines, lines_writeJsonLines recordable,
    readLines_recordText fun record member => reads _ (List.mem_map_of_mem member)]
  exact tableOfRecords_rowMembers recordable

/-! ## Round trip -/

/-- The text of every record, and of the array of all of them, is read back unless the value
is nested too deep. -/
theorem read?_write_iff (recordable : Recordable table) {value : Json}
    (written : value = .array (recordsOf table) ∨ value ∈ recordsOf table) :
    Json.read? value.write = some value ↔ value.depth ≤ maxDepth := by
  have records : ∀ record ∈ recordsOf table, record.Exact := by
    intro record member
    obtain ⟨row, -, rfl⟩ := List.mem_map.mp member
    exact exact_rowMembers recordable row
  have isExact : value.Exact := by
    rcases written with rfl | member
    · exact .array records
    · exact records value member
  rw [read?_write isExact]
  split
  · next fits => exact ⟨fun _ => fits, fun _ => rfl⟩
  · next deep => exact ⟨nofun, fun fits => absurd fits deep⟩

/-- JSON keeps a table.  Where reading undoes writing on the values that are written, a table
comes back from an array of its records and from one record on each line, whatever characters
stand in its names and texts.  Reading does undo writing there, unless lists are nested so
deep that the reader refuses the value. -/
theorem jsonForms_roundTrip (recordable : Recordable table) :
    (Json.read? (writeJson table) = some (.array (recordsOf table)) →
        readJson (writeJson table) = .ok table) ∧
      ((∀ record ∈ recordsOf table, Json.read? record.write = some record) →
        readJsonLines (writeJsonLines table) = .ok table) ∧
      ∀ value, value = .array (recordsOf table) ∨ value ∈ recordsOf table →
        (Json.read? value.write = some value ↔ value.depth ≤ maxDepth) :=
  ⟨readJson_writeJson recordable, readJsonLines_writeJsonLines recordable,
    fun _ written => read?_write_iff recordable written⟩

/-- Names and texts with quotes, line breaks and other letters, lists in lists, and a column
in which all cells are missing. -/
theorem jsonForms_roundTrip_nested :
    let table : Table := ⟨2,
      [("say \"\\\"", ⟨.text, [.text "a\r\nb", .text "größer"]⟩),
        ("", ⟨.list, [.list [.int (-3), .list [.null, .bool true, .list []]], .null]⟩),
        ("n\t", ⟨.null, [.null, .null]⟩)]⟩
    readJson (writeJson table) = .ok table ∧ readJsonLines (writeJsonLines table) = .ok table := by
  intro table
  have recordable : Recordable table :=
    { wellFormed := by decide
      someRow := by decide
      plain := by
        have flag : Cell.Plain (.list [.null, .bool true, .list []]) := by
          refine .list ?_
          simp [Cell.Plain.null, Cell.Plain.bool, Cell.Plain.list]
        have nested : Cell.Plain (.list [.int (-3), .list [.null, .bool true, .list []]]) := by
          refine .list ?_
          simp [Cell.Plain.int, flag]
        simp [table, nested, Cell.Plain.null, Cell.Plain.text]
      canonical := by decide }
  obtain ⟨array, lines, reads⟩ := jsonForms_roundTrip recordable
  exact ⟨array ((reads _ (Or.inl rfl)).mpr (by decide)),
    lines fun record member => (reads record (Or.inr member)).mpr (by
      revert record
      decide)⟩

end LogPipe.Codec
