import LogPipe.Table.Basic
import LogPipe.Text.Case

/-!
# Lookup file formats

The format of a lookup file follows from the extension of its path.
-/

namespace LogPipe.Codec

open LogPipe.Text

/-- The formats of lookup files. -/
inductive Format where
  | csv
  | tsv
  | json
  | jsonLines
  | database
deriving DecidableEq, Repr

/-- Why a table cannot be read or written. -/
inductive CodecError where
  | missingHeaders
  | unsupportedFormat (path : String)
  /-- A JSON value stands where a record should. -/
  | jsonShape (found : String)
  | malformedJson
  /-- The file cannot be read or written. -/
  | inaccessible
  | database
  | table (error : TableError)
deriving DecidableEq, Repr

/-- The text of the error. -/
def CodecError.message : CodecError → String
  | .missingHeaders => "csv input has no headers"
  | .unsupportedFormat path => "unsupported lookup format " ++ quoted path
  | .jsonShape found =>
      "json input must be an array of objects or one object per line, found " ++ found
  | .malformedJson => "the text is not JSON"
  | .inaccessible => "the file cannot be read or written"
  | .database => "the file is not a database that holds a lookup"
  | .table error => error.message

/-- The components of a path: what stands between slashes, without empty parts and, after
the first place, without single dots. -/
def pathComponents (path : String) : List (List Char) :=
  ((path.toList.splitOn '/').zipIdx.filter fun (part, index) =>
    !part.isEmpty && !(part == ['.'] && 0 < index)).map Prod.fst

/-- The name of the file a path ends in. -/
def fileName? (path : String) : Option (List Char) :=
  match (pathComponents path).getLast? with
  | some name => if name == ['.', '.'] || name == ['.'] then none else some name
  | none => none

/-- The part of a file name after its last dot; a dot at the start does not count. -/
def extension? (path : String) : Option String :=
  match fileName? path with
  | none => none
  | some name =>
      let extension := (name.reverse.takeWhile fun c => c != '.').reverse
      let stem := name.length - extension.length
      if stem ≤ 1 then none else some (String.ofList extension)

/-- The format of a lookup file. -/
def Format.ofPath (path : String) : Except CodecError Format :=
  match asciiLower ((extension? path).getD "") with
  | "csv" => .ok .csv
  | "tsv" => .ok .tsv
  | "tab" => .ok .tsv
  | "json" => .ok .json
  | "jsonl" => .ok .jsonLines
  | "ndjson" => .ok .jsonLines
  | "db" => .ok .database
  | "sqlite" => .ok .database
  | "sqlite3" => .ok .database
  | _ => .error (.unsupportedFormat path)

end LogPipe.Codec
