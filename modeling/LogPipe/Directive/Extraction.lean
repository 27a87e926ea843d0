import LogPipe.Directive.Access
import LogPipe.Json.Path
import LogPipe.Pattern.Extraction
import LogPipe.Text.Base64

/-!
# Directives that look into texts

They match patterns against cells, and read cells that hold Base64 or JSON.
-/

namespace LogPipe.Extraction

open LogPipe.Pattern LogPipe.Query LogPipe.Text

/-- The column of whole events. -/
def rawField : String := "_raw"

/-- Reads a substitution. -/
def readSubstitution (invocation : Invocation) (text : String) :
    Except DirectiveError Substitution :=
  match substitutionParts? text with
  | none => invocation.misused (.badSubstitution text)
  | some (pattern, replacement, everywhere) =>
      match Pattern.compile {} (String.ofList pattern) with
      | .error fault => .error (.pattern fault)
      | .ok matcher => .ok ⟨matcher, readReplacement none replacement, everywhere⟩

/-- A cell with a substitution applied to its written form; a missing cell stays missing. -/
def substituteCell (substitution : Substitution) (cell : Cell) : Cell :=
  if cell.isMissing then .null else .text (substitution.apply cell.written)

/-- Carries out the substitution form of `rex`. -/
def substitute (table : Table) (invocation : Invocation) (field : String) (column : Column)
    (text : String) : Except DirectiveError Table := do
  let substitution ← readSubstitution invocation text
  table.put field (column.cells.map (substituteCell substitution))

/-- Carries out the extracting form of `rex`. Letter case does not matter, and a dot matches
line breaks. -/
def extractGroups (table : Table) (invocation : Invocation) (column : Column) (text : String) :
    Except DirectiveError Table := do
  let matcher ← (Pattern.compile { ignoreCase := true, dotMatchesNewline := true } text).mapError
    .pattern
  if matcher.names.isEmpty then invocation.misset .noNamedGroups
  else
    let given ← invocation.count? "max_match"
    let limit :=
      match given.getD 1 with
      | 0 => none
      | limit => some limit
    (Pattern.extract table column matcher limit).mapError .table

/-- Carries out `rex field=a "pattern"`, which extracts named groups, and
`rex field=a mode=sed "s/pattern/replacement/"`. -/
def rex (table : Table) (invocation : Invocation) : Except DirectiveError Table :=
  let options := invocation.options
  match options.option? "field", options.names with
  | none, _ => invocation.misset .fieldRequired
  | some field, [text] =>
      match table.need field with
      | .error error => .error error
      | .ok column =>
          if (options.option? "mode").any fun mode => sameIgnoringCase mode "sed" then
            substitute table invocation field column text
          else
            extractGroups table invocation column text
  | some _, names => invocation.misused (.onePattern names.length)

/-- The field, the pattern and whether rows that match are dropped. -/
def matchArguments (invocation : Invocation) :
    Except DirectiveError (String × String × Bool) :=
  match invocation.arguments with
  | [text] => .ok (rawField, text.unquoted, false)
  | [field, sign, text] =>
      if sign.isOperator "=" then .ok (field.unquoted, text.unquoted, false)
      else if sign.isOperator "!=" then .ok (field.unquoted, text.unquoted, true)
      else invocation.misused .fieldEqualsPattern
  | _ => invocation.misused .fieldEqualsPattern

/-- Carries out `regex a="pattern"`: the rows that match, or with `!=` those that do not. -/
def regex (table : Table) (invocation : Invocation) : Except DirectiveError Table := do
  let (field, text, negated) ← matchArguments invocation
  let matcher ← (Pattern.compile {} text).mapError .pattern
  let column ← table.need field
  (table.filterRows ((matchMask matcher column).map fun hit => hit != negated)).mapError .table

/-- A cell written in Base64. -/
def encodeCell (cell : Cell) : Except DirectiveError Cell :=
  .ok (if cell.isMissing then .null else .text (Base64.encode cell.written))

/-- The text that a cell holds in Base64. -/
def decodeCell (invocation : Invocation) (cell : Cell) : Except DirectiveError Cell :=
  if cell.isMissing then .ok .null
  else
    match Base64.decode? (trim cell.written.toList) with
    | some text => .ok (.text text)
    | none => .error (.conversion invocation.directive cell.written .notBase64)

/-- Applies a function to cells, stopping at the first that it refuses. -/
def mapCells {α : Type} (f : Cell → Except DirectiveError α) :
    List Cell → Except DirectiveError (List α)
  | [] => .ok []
  | cell :: cells =>
      match f cell with
      | .error error => .error error
      | .ok mapped => (mapCells f cells).map fun rest => mapped :: rest

/-- Converts columns in place, one after the other. -/
def convertAll (convert : Cell → Except DirectiveError Cell) (table : Table) :
    List String → Except DirectiveError Table
  | [] => .ok table
  | name :: names => do
      let column ← table.need name
      let cells ← mapCells convert column.cells
      let next ← table.put name cells
      convertAll convert next names

/-- Carries out `base64 encode a b` and `base64 decode a b`. -/
def base64 (table : Table) (invocation : Invocation) : Except DirectiveError Table :=
  match invocation.options.names with
  | [] => invocation.misused .modeAndFields
  | mode :: names =>
      let convert :=
        match asciiLower mode with
        | "encode" => some encodeCell
        | "decode" => some (decodeCell invocation)
        | _ => none
      match convert with
      | none => invocation.misused (.unknownMode (asciiLower mode))
      | some convert =>
          if names.isEmpty then invocation.misused .fieldsExpected
          else convertAll convert table names

/-- The JSON value that a cell holds; nothing for a missing cell. -/
def readDocument (invocation : Invocation) (cell : Cell) :
    Except DirectiveError (Option Json) :=
  if cell.isMissing then .ok none
  else
    match Json.read? cell.written with
    | some value => .ok (some value)
    | none => .error (.conversion invocation.directive cell.written .notJson)

/-- Carries out `spath input=a path=b.c`, and without a path makes a column of every member
of the objects. -/
def spath (table : Table) (invocation : Invocation) : Except DirectiveError Table := do
  let options := invocation.options
  let column ← table.need ((options.option? "input").getD rawField)
  let documents ← mapCells (readDocument invocation) column.cells
  match options.option? "path" with
  | some path =>
      table.put ((options.option? "output").getD path)
        (documents.map fun document => Json.cellOf (document.bind (Json.path? path)))
  | none =>
      (putAll table ((Json.memberNames documents).map fun name =>
        (name, Json.memberCells documents name))).mapError .table

end LogPipe.Extraction
