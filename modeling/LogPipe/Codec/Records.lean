import LogPipe.Codec.Format
import LogPipe.Json.Cells

/-!
# Tables as JSON records

A table is an array of objects, one per row, or one object per line. The columns are the
member names in the order in which they are first seen.
-/

namespace LogPipe.Codec

open LogPipe.Text

/-- The members of a record, or the error that it is none. -/
def expectRecord : Json → Except CodecError (List (String × Json))
  | .object members => .ok members
  | other => .error (.jsonShape other.describe)

/-- Checks records one after the other. -/
def expectRecords : List Json → Except CodecError (List (List (String × Json)))
  | [] => .ok []
  | item :: items => do
      let record ← expectRecord item
      let records ← expectRecords items
      pure (record :: records)

/-- The member names of all records, each at its first occurrence. -/
def recordNames (records : List (List (String × Json))) : List String :=
  records.foldl (fun names record =>
    record.foldl (fun names entry =>
      if names.contains entry.1 then names else names ++ [entry.1]) names) []

/-- The table of records; a member that a record lacks is missing. -/
def tableOfRecords (records : List (List (String × Json))) : Except CodecError Table :=
  let columns := (recordNames records).map fun name =>
    (name, Column.lossy (records.map fun record =>
      ((record.lookup name).map Cell.ofJson).getD .null))
  (Table.ofRows records.length columns).mapError .table

/-- Reads an array of records, or a single one. -/
def readJson (text : String) : Except CodecError Table :=
  match Json.read? text with
  | none => .error .malformedJson
  | some (.array items) =>
      match expectRecords items with
      | .ok records => tableOfRecords records
      | .error error => .error error
  | some (.object members) => tableOfRecords [members]
  | some other => .error (.jsonShape other.describe)

/-- Splits a text into lines. A carriage return before a line break belongs to the break, and
nothing follows the last break. -/
def lines (text : List Char) : List (List Char) :=
  let parts := text.splitOn '\n'
  let terminated := parts.dropLast.map fun line =>
    if line.getLast? == some '\r' then line.dropLast else line
  match parts.getLast? with
  | some last => if last.isEmpty then terminated else terminated ++ [last]
  | none => terminated

/-- Reads the records of lines. -/
def readLines : List (List Char) → Except CodecError (List (List (String × Json)))
  | [] => .ok []
  | line :: rest =>
      match Json.read? (String.ofList line) with
      | none => .error .malformedJson
      | some json => do
          let record ← expectRecord json
          let records ← readLines rest
          pure (record :: records)

/-- Reads one record per line; blank lines are skipped. -/
def readJsonLines (text : String) : Except CodecError Table :=
  match readLines ((lines text.toList).filter fun line => !(trim line).isEmpty) with
  | .ok records => tableOfRecords records
  | .error error => .error error

/-- The record of a row. -/
def recordOfRow (table : Table) (row : Nat) : Json :=
  .object (table.columns.map fun entry =>
    (entry.1, ((entry.2.get? row).map Cell.toJson).getD .null))

/-- The records of all rows. -/
def recordsOf (table : Table) : List Json :=
  (List.range table.rows).map (recordOfRow table)

/-- The table as an array of records. -/
def writeJson (table : Table) : String :=
  (Json.array (recordsOf table)).write

/-- The table with one record per line. -/
def writeJsonLines (table : Table) : String :=
  String.join ((recordsOf table).map fun record => record.write ++ "\n")

end LogPipe.Codec
