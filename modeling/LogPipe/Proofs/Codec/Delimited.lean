import LogPipe.Cell.Written
import LogPipe.Codec.Delimited
import LogPipe.Proofs.Column.Reordering
import LogPipe.Proofs.Decimal.Numerals
import LogPipe.Proofs.Table.Columns
import LogPipe.Proofs.Text.Trimming

/-!
# Tables as delimited text

A written field is read back whatever it holds: one with a delimiter, a quote or a line break
stands in quotes, with its quotes doubled.  So every record comes back with the fields that it
was written with, and no record is taken for a blank line.

A table without floats, times and lists is read back from its delimited text as it was: the
records are, every cell is inferred from its field, and a column that is the lossy column of
its cells is made of them once more.
-/

namespace LogPipe.Codec

/-- A character that may stand between fields. -/
structure Separates (delimiter : Char) : Prop where
  ne_quote : delimiter ≠ '"'
  endsRecord : endsRecord delimiter = false
  ne_mark : delimiter ≠ '\ufeff'

/-- A character that ends a field: a delimiter, or the end of a written record. -/
def EndsField (delimiter c : Char) : Prop :=
  c = delimiter ∨ c = '\n'

variable {delimiter : Char} {fields : List String} {field rest : List Char}

section Fields

variable {c : Char}

theorem EndsField.ne_quote (separates : Separates delimiter) (ends : EndsField delimiter c) :
    c ≠ '"' := by
  rcases ends with rfl | rfl
  · exact separates.ne_quote
  · decide

theorem EndsField.eq_delimiter_or (ends : EndsField delimiter c) :
    (c == delimiter) = true ∨ (c == delimiter) = false ∧ endsRecord c = true := by
  by_cases isDelimiter : c = delimiter
  · exact Or.inl (beq_iff_eq.mpr isDelimiter)
  · exact Or.inr ⟨beq_eq_false_iff_ne.mpr isDelimiter, by rw [ends.resolve_left isDelimiter]; rfl⟩

/-! ### One character -/

theorem readRecords_bare :
    readRecords delimiter .bare field fields (c :: rest) =
      if c == delimiter then
        readRecords delimiter .fieldStart [] (String.ofList field.reverse :: fields) rest
      else if endsRecord c then
        (String.ofList field.reverse :: fields).reverse ::
          readRecords delimiter (afterRecord c) [] [] rest
      else readRecords delimiter .bare (c :: field) fields rest :=
  rfl

theorem readRecords_insideQuotes :
    readRecords delimiter .insideQuotes field fields (c :: rest) =
      if c == '"' then readRecords delimiter .afterQuote field fields rest
      else readRecords delimiter .insideQuotes (c :: field) fields rest :=
  rfl

/-- A closed field may be opened again; otherwise it goes on as bare text. -/
theorem readRecords_closed :
    readRecords delimiter .afterQuote field fields (c :: rest) =
      if c == '"' then readRecords delimiter .insideQuotes (c :: field) fields rest
      else readRecords delimiter .bare field fields (c :: rest) :=
  rfl

theorem readRecords_fieldStart :
    readRecords delimiter .fieldStart field fields (c :: rest) =
      if c == '"' then readRecords delimiter .insideQuotes [] fields rest
      else if c == delimiter then
        readRecords delimiter .fieldStart [] (String.ofList field.reverse :: fields) rest
      else if endsRecord c then
        (String.ofList field.reverse :: fields).reverse ::
          readRecords delimiter (afterRecord c) [] [] rest
      else readRecords delimiter .bare [c] fields rest :=
  rfl

/-- Between records blank lines are skipped, and a first field starts. -/
theorem readRecords_betweenRecords :
    readRecords delimiter .betweenRecords field fields (c :: rest) =
      if endsRecord c then readRecords delimiter .betweenRecords [] [] rest
      else readRecords delimiter .fieldStart field fields (c :: rest) :=
  rfl

/-- What a field ends with is read alike behind a closing quote and behind bare text. -/
theorem readRecords_afterQuote (separates : Separates delimiter) (ends : EndsField delimiter c) :
    readRecords delimiter .afterQuote field fields (c :: rest) =
      readRecords delimiter .bare field fields (c :: rest) := by
  have noQuote : (c == '"') = false := beq_eq_false_iff_ne.mpr (ends.ne_quote separates)
  rw [readRecords_closed, noQuote]
  rfl

/-- An empty field may stand behind a delimiter, and at the start of a record in front of a
delimiter. -/
theorem readRecords_empty {start : FieldState} (separates : Separates delimiter)
    (ends : EndsField delimiter c)
    (begins : start = .fieldStart ∨ start = .betweenRecords ∧ c = delimiter) :
    readRecords delimiter start [] fields (c :: rest) =
      readRecords delimiter .bare [] fields (c :: rest) := by
  have noQuote : (c == '"') = false := beq_eq_false_iff_ne.mpr (ends.ne_quote separates)
  have atField : readRecords delimiter .fieldStart [] fields (c :: rest) =
      readRecords delimiter .bare [] fields (c :: rest) := by
    rw [readRecords_fieldStart, readRecords_bare]
    rcases ends.eq_delimiter_or with isDelimiter | ⟨noDelimiter, isEnd⟩
    · simp [noQuote, isDelimiter]
    · simp [noQuote, noDelimiter, isEnd]
  rcases begins with rfl | ⟨rfl, rfl⟩
  · exact atField
  · rw [readRecords_betweenRecords, separates.endsRecord]
    exact atField

end Fields

/-- Characters that need no quotes are read as they are. -/
theorem readRecords_bare_append {chars : List Char}
    (unquoted : needsQuotes delimiter chars = false) :
    readRecords delimiter .bare field fields (chars ++ rest) =
      readRecords delimiter .bare (chars.reverse ++ field) fields rest := by
  induction chars generalizing field with
  | nil => rfl
  | cons c chars induction =>
      rw [needsQuotes, List.any_cons, Bool.or_eq_false_iff] at unquoted
      obtain ⟨⟨⟨⟨noDelimiter, noQuote⟩, noReturn⟩, noBreak⟩, unquotedRest⟩ := by
        simpa only [Bool.or_eq_false_iff] using unquoted
      have noEnd : endsRecord c = false := by rw [endsRecord, noBreak, noReturn]; rfl
      rw [List.cons_append, readRecords_bare]
      simp only [noDelimiter, noEnd, Bool.false_eq_true, if_false]
      rw [induction unquotedRest, List.reverse_cons, List.append_assoc]
      rfl

/-- A character inside quotes, where a quote is doubled. -/
def doubled (c : Char) : List Char :=
  if c == '"' then ['"', '"'] else [c]

/-- Characters inside quotes are read up to the closing quote. -/
theorem readRecords_insideQuotes_append (chars : List Char) :
    readRecords delimiter .insideQuotes field fields (chars.flatMap doubled ++ '"' :: rest) =
      readRecords delimiter .afterQuote (chars.reverse ++ field) fields rest := by
  induction chars generalizing field with
  | nil =>
      rw [List.flatMap_nil, List.nil_append, readRecords_insideQuotes]
      rfl
  | cons c chars induction =>
      have next : readRecords delimiter .insideQuotes field fields
            (doubled c ++ (chars.flatMap doubled ++ '"' :: rest)) =
          readRecords delimiter .insideQuotes (c :: field) fields
            (chars.flatMap doubled ++ '"' :: rest) := by
        rw [doubled]
        split
        · next isQuote =>
            rw [eq_of_beq isQuote]
            rfl
        · next noQuote =>
            rw [List.cons_append, readRecords_insideQuotes]
            simp only [noQuote]
            rfl
      rw [List.flatMap_cons, List.append_assoc, next, induction, List.reverse_cons,
        List.append_assoc]
      rfl

section Beginnings

variable {start : FieldState} (atStart : start = .fieldStart ∨ start = .betweenRecords)

include atStart

theorem readRecords_openQuote :
    readRecords delimiter start [] fields ('"' :: rest) =
      readRecords delimiter .insideQuotes [] fields rest := by
  rcases atStart with rfl | rfl <;> rfl

theorem readRecords_firstChar {c : Char} (unquoted : needsQuotes delimiter [c] = false) :
    readRecords delimiter start [] fields (c :: rest) =
      readRecords delimiter .bare [c] fields rest := by
  simp only [needsQuotes, List.any_cons, List.any_nil, Bool.or_false, Bool.or_eq_false_iff]
    at unquoted
  obtain ⟨⟨⟨noDelimiter, noQuote⟩, noReturn⟩, noBreak⟩ := unquoted
  have noEnd : endsRecord c = false := by rw [endsRecord, noBreak, noReturn]; rfl
  have atField : readRecords delimiter .fieldStart [] fields (c :: rest) =
      readRecords delimiter .bare [c] fields rest := by
    rw [readRecords_fieldStart, noQuote, noDelimiter, noEnd]
    rfl
  rcases atStart with rfl | rfl
  · exact atField
  · rw [readRecords_betweenRecords, noEnd]
    exact atField

end Beginnings

/-- A field is read as it was written, up to what ends it.  Only an empty one must not begin a
record that it also ends. -/
theorem readRecords_writeField {start : FieldState} (separates : Separates delimiter) {c : Char}
    (ends : EndsField delimiter c) (field : String)
    (begins : start = .fieldStart ∨
      start = .betweenRecords ∧ (field ≠ "" ∨ c = delimiter)) :
    readRecords delimiter start [] fields ((writeField delimiter field).toList ++ c :: rest) =
      readRecords delimiter .bare field.toList.reverse fields (c :: rest) := by
  have atStart : start = .fieldStart ∨ start = .betweenRecords := begins.imp_right And.left
  rw [writeField]
  split
  · rw [String.toList_ofList, List.append_assoc, List.cons_append, readRecords_openQuote atStart]
    have inside := @readRecords_insideQuotes_append delimiter fields [] (c :: rest) field.toList
    rw [List.append_nil] at inside
    exact inside.trans (readRecords_afterQuote separates ends)
  · next unquoted =>
      rw [Bool.not_eq_true] at unquoted
      cases chars : field.toList with
      | nil =>
          have isEmpty : field = "" := String.toList_inj.mp chars
          exact readRecords_empty separates ends
            (begins.imp_right fun ⟨between, visible⟩ =>
              ⟨between, visible.resolve_left fun notEmpty => notEmpty isEmpty⟩)
      | cons first others =>
          rw [chars, needsQuotes, List.any_cons, Bool.or_eq_false_iff] at unquoted
          have firstUnquoted : needsQuotes delimiter [first] = false := by
            rw [needsQuotes, List.any_cons, unquoted.1]
            rfl
          rw [List.cons_append, readRecords_firstChar atStart firstUnquoted,
            readRecords_bare_append unquoted.2, List.reverse_cons]

theorem readRecords_delimiter :
    readRecords delimiter .bare field fields (delimiter :: rest) =
      readRecords delimiter .fieldStart [] (String.ofList field.reverse :: fields) rest := by
  rw [readRecords_bare, beq_self_eq_true]
  rfl

theorem readRecords_lineBreak (separates : Separates delimiter) :
    readRecords delimiter .bare field fields ('\n' :: rest) =
      (String.ofList field.reverse :: fields).reverse ::
        readRecords delimiter .betweenRecords [] [] rest := by
  have noDelimiter : ('\n' == delimiter) = false := by
    rw [beq_eq_false_iff_ne]
    rintro rfl
    exact absurd separates.endsRecord (by decide)
  rw [readRecords_bare, noDelimiter]
  rfl

/-- The rest of a record is read after the fields in front of it. -/
theorem readRecords_fields {start : FieldState} (separates : Separates delimiter)
    (field : String) (others : List String)
    (begins : start = .fieldStart ∨
      start = .betweenRecords ∧ (field ≠ "" ∨ others ≠ [])) :
    readRecords delimiter start [] fields
        ([delimiter].intercalate ((field :: others).map fun field =>
          (writeField delimiter field).toList) ++ '\n' :: rest) =
      (fields.reverse ++ field :: others) ::
        readRecords delimiter .betweenRecords [] [] rest := by
  induction others generalizing start field fields with
  | nil =>
      have visible : start = .fieldStart ∨
          start = .betweenRecords ∧ (field ≠ "" ∨ '\n' = delimiter) :=
        begins.imp_right fun ⟨between, visible⟩ =>
          ⟨between, visible.imp_right fun others => absurd rfl others⟩
      rw [List.map_cons, List.map_nil, List.intercalate_singleton,
        readRecords_writeField separates (Or.inr rfl) field visible,
        readRecords_lineBreak separates, List.reverse_reverse, String.ofList_toList,
        List.reverse_cons]
  | cons next others induction =>
      have visible : start = .fieldStart ∨
          start = .betweenRecords ∧ (field ≠ "" ∨ delimiter = delimiter) :=
        begins.imp_right fun ⟨between, _⟩ => ⟨between, Or.inr rfl⟩
      have later := @induction (field :: fields) .fieldStart next (Or.inl rfl)
      rw [List.map_cons] at later
      rw [List.map_cons, List.map_cons, List.intercalate_cons_cons, List.append_assoc,
        List.append_assoc, List.singleton_append,
        readRecords_writeField separates (Or.inl rfl) field visible, readRecords_delimiter,
        List.reverse_reverse, String.ofList_toList, later, List.reverse_cons, List.append_assoc]
      rfl

section Written

variable {field : String} {others : List String}

theorem toList_writeField_ne_nil (visible : field ≠ "") :
    (writeField delimiter field).toList ≠ [] := by
  rw [writeField]
  split
  · rw [String.toList_ofList]
    exact List.cons_ne_nil _ _
  · exact mt String.toList_eq_nil_iff.mp visible

/-- Only a record of a single empty field has no characters. -/
theorem toList_fields_ne_nil (visible : field ≠ "" ∨ others ≠ []) :
    [delimiter].intercalate ((field :: others).map fun field =>
      (writeField delimiter field).toList) ≠ [] := by
  rw [List.map_cons]
  cases others with
  | nil =>
      rw [List.map_nil, List.intercalate_singleton]
      exact toList_writeField_ne_nil (visible.resolve_right fun others => others rfl)
  | cons next others =>
      rw [List.map_cons, List.intercalate_cons_cons, List.append_assoc]
      exact List.append_ne_nil_of_right_ne_nil _ (List.cons_ne_nil _ _)

theorem toList_writeRecord (visible : field ≠ "" ∨ others ≠ []) :
    (writeRecord delimiter (field :: others)).toList =
      [delimiter].intercalate ((field :: others).map fun field =>
        (writeField delimiter field).toList) ++ ['\n'] := by
  have line : ((String.singleton delimiter).intercalate
        ((field :: others).map (writeField delimiter))).toList =
      [delimiter].intercalate ((field :: others).map fun field =>
        (writeField delimiter field).toList) := by
    rw [String.toList_intercalate, String.toList_singleton, List.map_map]
    rfl
  have notBlank : ((String.singleton delimiter).intercalate
      ((field :: others).map (writeField delimiter))).isEmpty = false := by
    rw [Bool.eq_false_iff, Ne, String.isEmpty_iff, ← String.toList_eq_nil_iff, line]
    exact toList_fields_ne_nil visible
  rw [writeRecord, notBlank, String.toList_append]
  exact congrArg (· ++ ['\n']) line

end Written

/-- The record of a single empty field is written as quotes, so that it is no blank line. -/
theorem toList_writeRecord_empty : (writeRecord delimiter [""]).toList = ['"', '"', '\n'] := by
  have line : ((String.singleton delimiter).intercalate
      ([""].map (writeField delimiter))).isEmpty = true := by
    rw [String.isEmpty_iff, ← String.toList_eq_nil_iff, String.toList_intercalate]
    rfl
  rw [writeRecord, line, if_pos rfl, String.toList_append]
  rfl

/-- A record is read as it was written. -/
theorem readRecords_writeRecord (separates : Separates delimiter) {record : List String}
    (someField : record ≠ []) :
    readRecords delimiter .betweenRecords [] [] ((writeRecord delimiter record).toList ++ rest) =
      record :: readRecords delimiter .betweenRecords [] [] rest := by
  cases record with
  | nil => exact absurd rfl someField
  | cons field others =>
      by_cases blank : field = "" ∧ others = []
      · obtain ⟨rfl, rfl⟩ := blank
        have inside := @readRecords_insideQuotes_append delimiter [] [] ('\n' :: rest) []
        rw [toList_writeRecord_empty, List.cons_append, readRecords_openQuote (Or.inr rfl)]
        exact inside.trans ((readRecords_afterQuote separates (Or.inr rfl)).trans
          (readRecords_lineBreak separates))
      · have visible : field ≠ "" ∨ others ≠ [] := Decidable.not_and_iff_or_not.mp blank
        rw [toList_writeRecord visible, List.append_assoc]
        exact readRecords_fields separates field others (Or.inr ⟨rfl, visible⟩)

/-- Records are read as they were written. -/
theorem readRecords_join (separates : Separates delimiter) {records : List (List String)}
    (someFields : ∀ record ∈ records, record ≠ []) :
    readRecords delimiter .betweenRecords [] []
      (String.join (records.map (writeRecord delimiter))).toList = records := by
  rw [String.toList_join]
  induction records with
  | nil => rfl
  | cons record records induction =>
      obtain ⟨someField, someOthers⟩ := List.forall_mem_cons.mp someFields
      rw [List.map_cons, List.flatMap_cons, readRecords_writeRecord separates someField,
        induction someOthers]

section ByteOrderMark

variable {field : String} (unmarked : field.toList.head? ≠ some '\ufeff')

include unmarked

theorem head?_writeField_ne_mark :
    (writeField delimiter field).toList.head? ≠ some '\ufeff' := by
  rw [writeField]
  split
  · rw [String.toList_ofList, List.cons_append, List.head?_cons]
    decide
  · exact unmarked

/-- A written record starts with a byte-order mark only where its first field does. -/
theorem head?_writeRecord_ne_mark (separates : Separates delimiter) (others : List String) :
    ((writeRecord delimiter (field :: others)).toList ++ rest).head? ≠ some '\ufeff' := by
  by_cases blank : field = "" ∧ others = []
  · obtain ⟨rfl, rfl⟩ := blank
    rw [toList_writeRecord_empty, List.cons_append, List.head?_cons]
    decide
  · have first := @head?_writeField_ne_mark delimiter field unmarked
    rw [toList_writeRecord (Decidable.not_and_iff_or_not.mp blank), List.map_cons]
    cases chars : (writeField delimiter field).toList with
    | nil =>
        cases others with
        | nil =>
            rw [List.map_nil, List.intercalate_singleton, List.nil_append, List.cons_append,
              List.head?_cons]
            decide
        | cons next others =>
            rw [List.map_cons, List.intercalate_cons_cons]
            exact fun marked => separates.ne_mark (Option.some.inj marked)
    | cons c rest =>
        rw [chars] at first
        cases others with
        | nil => exact first
        | cons next others =>
            rw [List.map_cons, List.intercalate_cons_cons]
            exact first

end ByteOrderMark

/-- The records of a text are those that it was written from. -/
theorem delimitedRecords_join (separates : Separates delimiter) {field : String}
    {others : List String} {records : List (List String)}
    (unmarked : field.toList.head? ≠ some '\ufeff')
    (someFields : ∀ record ∈ records, record ≠ []) :
    delimitedRecords delimiter
      (String.join (((field :: others) :: records).map (writeRecord delimiter))) =
        (field :: others) :: records := by
  have read := readRecords_join separates
    (List.forall_mem_cons.mpr ⟨List.cons_ne_nil field others, someFields⟩)
  rw [delimitedRecords]
  split
  · next rest marked =>
      rw [String.toList_join, List.map_cons, List.flatMap_cons] at marked
      exact absurd (congrArg List.head? marked)
        (head?_writeRecord_ne_mark unmarked separates others)
  · exact read

end LogPipe.Codec

/-! ## Tables

A missing marker, a truth value and an integer are inferred from their written forms; a text is
inferred from itself only where it does not read as anything else. -/

namespace LogPipe.Cell

open LogPipe.Decimal LogPipe.Text

theorem isBlank_of_mem_toString {value : Int} {c : Char} (member : c ∈ (toString value).toList) :
    isBlank c = false := by
  rw [toList_toString] at member
  split at member
  · rcases List.mem_cons.mp member with rfl | digit
    · decide
    · exact isBlank_of_isDigit (isDigit_of_mem_toDigits digit)
  · exact isBlank_of_isDigit (isDigit_of_mem_toDigits member)

theorem infer_of_tight {text : String} (tight : Tight text.toList) (visible : text.toList ≠ []) :
    infer text = ofTrimmed text.toList := by
  rw [infer, trim_eq_self tight, List.isEmpty_eq_false_iff.mpr visible]
  rfl

theorem infer_toString (value : Int64) : infer (toString value.toInt) = .int value := by
  have visible : (toString value.toInt).toList ≠ [] := by
    rw [toList_toString]
    split
    · exact List.cons_ne_nil _ _
    · exact toDigits_ne_nil _
  rw [infer_of_tight (tight_of_solid fun c => isBlank_of_mem_toString) visible, ofTrimmed,
    readInt64?_toString]

theorem infer_written_missing (marker : Marker) : infer (Cell.missing marker).written = .null := by
  rw [written]
  rfl

theorem infer_written_bool (value : Bool) : infer (Cell.bool value).written = .bool value := by
  cases value <;> decide +kernel

theorem infer_written_int (value : Int64) : infer (Cell.int value).written = .int value := by
  rw [written]
  exact infer_toString value

end LogPipe.Cell

namespace LogPipe.Codec

theorem separates_comma : Separates ',' :=
  ⟨by decide, by decide, by decide⟩

theorem separates_tab : Separates '\t' :=
  ⟨by decide, by decide, by decide⟩

/-- What delimited text keeps of a table.  A field has no room for the kind of its cell, so the
missing cells are all alike, and a text must not read as a cell of another kind. -/
structure Delimitable (table : Table) : Prop where
  wellFormed : table.WellFormed
  someColumn : table.columns ≠ []
  unmarked : ∀ name, table.names.head? = some name → name.toList.head? ≠ some '\ufeff'
  kinds : ∀ entry ∈ table.columns, entry.2.kind ∈ [.null, .bool, .int, .text]
  missing : ∀ entry ∈ table.columns, ∀ cell ∈ entry.2.cells, cell.isMissing = true → cell = .null
  texts : ∀ entry ∈ table.columns, ∀ value, .text value ∈ entry.2.cells →
    Cell.infer value = .text value
  canonical : ∀ entry ∈ table.columns, Column.lossy entry.2.cells = entry.2

/-- What is asked of a table so that its delimited text is read as the table: its names can stand
in the first record, and its columns are made of the cells inferred from their fields. -/
structure Restorable (table : Table) : Prop where
  wellFormed : table.WellFormed
  someColumn : table.columns ≠ []
  unmarked : ∀ name, table.names.head? = some name → name.toList.head? ≠ some '\ufeff'
  restored : ∀ entry ∈ table.columns,
    Column.lossy (entry.2.cells.map fun cell => Cell.infer cell.written) = entry.2

variable {table : Table}

/-- The field of a cell stands for the cell. -/
theorem Delimitable.infer_written (delimitable : Delimitable table) {entry : String × Column}
    (column : entry ∈ table.columns) {cell : Cell} (member : cell ∈ entry.2.cells) :
    Cell.infer cell.written = cell := by
  have fits := delimitable.wellFormed.uniform entry column cell member
  have kinds := delimitable.kinds entry column
  cases cell with
  | missing marker =>
      rw [delimitable.missing entry column _ member rfl]
      exact Cell.infer_written_missing .null
  | bool value => exact Cell.infer_written_bool value
  | int value => exact Cell.infer_written_int value
  | text value =>
      rw [Cell.written]
      exact delimitable.texts entry column value member
  | _ =>
      rcases fits with isNull | sameKind
      · cases isNull
      · rw [← sameKind, Cell.kind] at kinds
        exact absurd kinds (by decide)

theorem Delimitable.restorable (delimitable : Delimitable table) : Restorable table where
  wellFormed := delimitable.wellFormed
  someColumn := delimitable.someColumn
  unmarked := delimitable.unmarked
  restored := by
    intro entry column
    have each : entry.2.cells.map (fun cell => Cell.infer cell.written) = entry.2.cells.map id :=
      List.map_congr_left fun cell member => delimitable.infer_written column member
    rw [each, List.map_id, delimitable.canonical entry column]

/-- The fields of a row. -/
def fieldsOf (table : Table) (row : Nat) : List String :=
  table.columns.map fun entry => ((entry.2.get? row).map Cell.written).getD ""

theorem infer_fieldsOf {index : Nat} {entry : String × Column}
    (found : table.columns[index]? = some entry) (row : Nat) :
    Cell.infer ((fieldsOf table row)[index]?.getD "") =
      (entry.2.cells.map fun cell => Cell.infer cell.written)[row]?.getD .null := by
  rw [fieldsOf, List.getElem?_map, found, Option.map_some, Option.getD_some, Column.get?,
    List.getElem?_map]
  cases entry.2.cells[row]? with
  | none => exact Cell.infer_written_missing .null
  | some cell => rfl

/-- The column that is made of the fields at one index of all rows. -/
theorem lossy_infer_fields (restorable : Restorable table) {index : Nat}
    {entry : String × Column} (found : table.columns[index]? = some entry) :
    Column.lossy (((List.range table.rows).map (fieldsOf table)).map fun record =>
      Cell.infer (record[index]?.getD "")) = entry.2 := by
  have column : entry ∈ table.columns := List.mem_of_getElem? found
  have cells := map_range_getElem? (entry.2.cells.map fun cell => Cell.infer cell.written) .null
  rw [List.length_map, ← funext (infer_fieldsOf found)] at cells
  rw [List.map_map, ← restorable.wellFormed.sizes entry column]
  exact (congrArg Column.lossy cells).trans (restorable.restored entry column)

theorem zipIdx_names_map (restorable : Restorable table) :
    (table.names.zipIdx.map fun (name, index) =>
      (name, Column.lossy (((List.range table.rows).map (fieldsOf table)).map fun record =>
        Cell.infer (record[index]?.getD "")))) = table.columns := by
  apply List.ext_getElem?
  intro index
  rw [List.getElem?_map, List.getElem?_zipIdx, Table.names, List.getElem?_map, Option.map_map,
    Option.map_map]
  cases found : table.columns[index]? with
  | none => rfl
  | some entry =>
      have column := lossy_infer_fields restorable found
      rw [Option.map_some, Function.comp_apply, Function.comp_apply, Nat.zero_add]
      exact congrArg (fun column => some (entry.1, column)) column

theorem ofColumns_columns (wellFormed : table.WellFormed) (someColumn : table.columns ≠ []) :
    Table.ofColumns table.columns = .ok table := by
  have whole := Table.ofRows_of_nodup wellFormed.sizes wellFormed.names_nodup
  rw [Table.ofColumns.eq_def]
  split
  · next none => exact absurd none someColumn
  · next name column rest split =>
      have size := wellFormed.sizes (name, column) (split ▸ List.mem_cons_self)
      exact size ▸ whole

/-- A text is read as the table that it was written from. -/
theorem Restorable.readDelimited_eq {delimiter : Char} (separates : Separates delimiter)
    (restorable : Restorable table) :
    readDelimited delimiter (writeDelimited delimiter table) = .ok table := by
  obtain ⟨name, others, split⟩ := List.exists_cons_of_ne_nil
    (mt List.map_eq_nil_iff.mp restorable.someColumn : table.names ≠ [])
  have someFields : ∀ record ∈ (List.range table.rows).map (fieldsOf table), record ≠ [] := by
    intro record member
    obtain ⟨row, -, rfl⟩ := List.mem_map.mp member
    exact mt List.map_eq_nil_iff.mp restorable.someColumn
  have unmarked := restorable.unmarked name (by rw [split]; rfl)
  have records := @delimitedRecords_join delimiter separates name others _ unmarked someFields
  rw [← split] at records
  have columns := zipIdx_names_map restorable
  have written : delimitedRecords delimiter (writeDelimited delimiter table) =
      table.names :: (List.range table.rows).map (fieldsOf table) := records
  simp only [readDelimited, written]
  rw [columns, ofColumns_columns restorable.wellFormed restorable.someColumn]
  rfl

/-- Delimited text keeps a table.  Whatever delimiters, quotes and line breaks stand in names
and texts, a table comes back from the text that it was written as. -/
theorem readDelimited_writeDelimited {delimiter : Char} (separates : Separates delimiter)
    (delimitable : Delimitable table) :
    readDelimited delimiter (writeDelimited delimiter table) = .ok table :=
  delimitable.restorable.readDelimited_eq separates

/-- Names and texts with delimiters, quotes and line breaks, a row of which all cells are
missing, and a column in which all are. -/
theorem readDelimited_writeDelimited_quoted :
    let table : Table := ⟨3,
      [("a,b", ⟨.text, [.text "x\ty,z", .null, .text "say \"no\"\r\n, no"]⟩),
        ("\"n\"", ⟨.int, [.int (-7), .null, .int 12]⟩),
        ("", ⟨.bool, [.bool false, .null, .null]⟩),
        ("blank\nname", ⟨.null, [.null, .null, .null]⟩)]⟩
    readDelimited ',' (writeDelimited ',' table) = .ok table ∧
      readDelimited '\t' (writeDelimited '\t' table) = .ok table := by
  intro table
  have delimitable : Delimitable table :=
    { wellFormed := by decide
      someColumn := by decide
      unmarked := by decide
      kinds := by decide
      missing := by decide
      texts := by
        intro entry column value member
        have first : value = "x\ty,z" ∨ value = "say \"no\"\r\n, no" := by
          revert member
          revert entry
          simp [table, Cell.null]
        rcases first with rfl | rfl <;> decide +kernel
      canonical := by decide }
  exact ⟨readDelimited_writeDelimited separates_comma delimitable,
    readDelimited_writeDelimited separates_tab delimitable⟩

end LogPipe.Codec
