import LogPipe.Codec.Format

/-!
# Delimited text

A record is a line of fields between delimiters. A field in quotes may hold delimiters,
line breaks, and quotes written twice. Blank lines are skipped. The first record names the
columns; a shorter record is filled up with missing cells and a longer one is cut.
-/

namespace LogPipe.Codec

/-- What has been read of the current record. -/
inductive FieldState where
  /-- Between records. -/
  | betweenRecords
  /-- Between records, after a carriage return. -/
  | afterReturn
  /-- At the start of a field that follows a delimiter. -/
  | fieldStart
  /-- In a field outside quotes. -/
  | bare
  /-- In a field inside quotes. -/
  | insideQuotes
  /-- After a quote inside quotes. -/
  | afterQuote
deriving DecidableEq, Repr

/-- Whether a character ends a record. -/
def endsRecord (c : Char) : Bool :=
  c == '\n' || c == '\r'

/-- The state after the end of a record. -/
def afterRecord (c : Char) : FieldState :=
  if c == '\r' then .afterReturn else .betweenRecords

/-- Reads records. `field` holds the current field from the last character to the first, and
`fields` the earlier ones from the last to the first. -/
def readRecords (delimiter : Char) (state : FieldState) (field : List Char)
    (fields : List String) : List Char → List (List String)
  | [] =>
      match state with
      | .betweenRecords => []
      | .afterReturn => []
      | _ => [(String.ofList field.reverse :: fields).reverse]
  | c :: rest =>
      let finished := String.ofList field.reverse :: fields
      match state with
      | .betweenRecords | .afterReturn | .fieldStart =>
          if state == .afterReturn && c == '\n' then
            readRecords delimiter .betweenRecords [] [] rest
          else if state != .fieldStart && endsRecord c then
            readRecords delimiter .betweenRecords [] [] rest
          else if c == '"' then readRecords delimiter .insideQuotes [] fields rest
          else if c == delimiter then readRecords delimiter .fieldStart [] finished rest
          else if endsRecord c then
            finished.reverse :: readRecords delimiter (afterRecord c) [] [] rest
          else readRecords delimiter .bare [c] fields rest
      | .bare =>
          if c == delimiter then readRecords delimiter .fieldStart [] finished rest
          else if endsRecord c then
            finished.reverse :: readRecords delimiter (afterRecord c) [] [] rest
          else readRecords delimiter .bare (c :: field) fields rest
      | .insideQuotes =>
          if c == '"' then readRecords delimiter .afterQuote field fields rest
          else readRecords delimiter .insideQuotes (c :: field) fields rest
      | .afterQuote =>
          if c == '"' then readRecords delimiter .insideQuotes (c :: field) fields rest
          else if c == delimiter then readRecords delimiter .fieldStart [] finished rest
          else if endsRecord c then
            finished.reverse :: readRecords delimiter (afterRecord c) [] [] rest
          else readRecords delimiter .bare (c :: field) fields rest

/-- The records of a text, without a byte-order mark at its start. -/
def delimitedRecords (delimiter : Char) (text : String) : List (List String) :=
  match text.toList with
  | '\ufeff' :: rest => readRecords delimiter .betweenRecords [] [] rest
  | chars => readRecords delimiter .betweenRecords [] [] chars

/-- The table of a delimited text. Each cell is inferred from its field. -/
def readDelimited (delimiter : Char) (text : String) : Except CodecError Table :=
  match delimitedRecords delimiter text with
  | [] => .error .missingHeaders
  | headers :: records =>
      let columns := headers.zipIdx.map fun (name, index) =>
        (name, Column.lossy (records.map fun record => Cell.infer (record[index]?.getD "")))
      (Table.ofColumns columns).mapError .table

/-- Whether a field has to be quoted. -/
def needsQuotes (delimiter : Char) (field : List Char) : Bool :=
  field.any fun c => c == delimiter || c == '"' || c == '\r' || c == '\n'

/-- The written form of a field. -/
def writeField (delimiter : Char) (field : String) : String :=
  let chars := field.toList
  if needsQuotes delimiter chars then
    String.ofList ('"' :: (chars.flatMap fun c => if c == '"' then ['"', '"'] else [c]) ++ ['"'])
  else
    field

/-- The written form of a record. A record without any character is written as an empty
quoted field, so that it is no blank line. -/
def writeRecord (delimiter : Char) (fields : List String) : String :=
  let line := (String.singleton delimiter).intercalate (fields.map (writeField delimiter))
  (if line.isEmpty then "\"\"" else line) ++ "\n"

/-- The written form of a table. -/
def writeDelimited (delimiter : Char) (table : Table) : String :=
  let rows := (List.range table.rows).map fun row =>
    table.columns.map fun entry => ((entry.2.get? row).map Cell.written).getD ""
  String.join ((table.names :: rows).map (writeRecord delimiter))

end LogPipe.Codec
