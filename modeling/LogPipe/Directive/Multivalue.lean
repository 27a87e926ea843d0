import LogPipe.Directive.Access
import LogPipe.Pattern.Matching
import LogPipe.Stats.Grouping
import LogPipe.Table.Filling

/-!
# Directives on multivalues

They work on the elements of the cells of a column, in place or into a new column.
-/

namespace LogPipe.Multivalue

open LogPipe.Decimal LogPipe.Query

/-- The first of some names. -/
def firstName (invocation : Invocation) : List String → Except DirectiveError String
  | [] => invocation.misused .fieldExpected
  | name :: _ => .ok name

/-- Changes the cells of one column in place. -/
def change (f : Cell → Cell) (table : Table) (invocation : Invocation) :
    Except DirectiveError Table := do
  let name ← firstName invocation invocation.fieldNames
  table.mapInto name name f

/-- Derives a column from another one; its name gets a suffix. -/
def derive (suffix : String) (f : Cell → Cell) (table : Table) (invocation : Invocation) :
    Except DirectiveError Table := do
  let name ← firstName invocation invocation.fieldNames
  table.mapInto name (name ++ suffix) f

/-- Carries out `mvexpand a`: one row for each element. -/
def expand (table : Table) (invocation : Invocation) : Except DirectiveError Table := do
  let name ← firstName invocation invocation.fieldNames
  let column ← table.need name
  (table.expand name column).mapError .table

/-- The separator that arguments give: an option, or the name at a place. -/
def separator (options : Arguments) (place : Nat) (default : String) : String :=
  ((options.option? "delim").or (options.names[place]?)).getD default

/-- Carries out `mvjoin a ","`: the items of lists as one text. -/
def join (default : String) (table : Table) (invocation : Invocation) :
    Except DirectiveError Table := do
  let options := invocation.options
  let name ← firstName invocation options.names
  table.mapInto name name (Cell.joinItems (separator options 1 default))

/-- Reads integers; a minus sign belongs to the next one. -/
def readIndexes (invocation : Invocation) (negative : Bool) :
    List Token → Except DirectiveError (List Int)
  | [] => .ok []
  | token :: rest =>
      if token.isPunctuation "," then readIndexes invocation negative rest
      else if token.isOperator "-" then readIndexes invocation true rest
      else
        match (if token.kind == .number then readInt64? token.value.toList else none) with
        | none => invocation.misused (.badIndex token.value)
        | some index =>
            (readIndexes invocation false rest).map fun indexes =>
              (if negative then -index.toInt else index.toInt) :: indexes

/-- Carries out `mvindex a 0 -1`: the elements at some indexes. -/
def index (table : Table) (invocation : Invocation) : Except DirectiveError Table :=
  match invocation.arguments with
  | [] => invocation.misused .fieldAndIndex
  | field :: rest => do
      let indexes ← readIndexes invocation false rest
      if indexes.isEmpty then invocation.misused .indexExpected
      else table.mapInto field.unquoted "mvindex" (Cell.pick indexes)

/-- Carries out `mvfind a "pattern"`: the position of the first element that matches. -/
def find (table : Table) (invocation : Invocation) : Except DirectiveError Table :=
  match invocation.fieldNames with
  | [field, text] => do
      let matcher ← (Pattern.compile {} text).mapError .pattern
      table.mapInto field "mvfind" (Cell.findElement matcher.isMatch)
  | _ => invocation.misused .fieldAndPattern

/-- Carries out `mvzip a, b`: the elements of two columns in pairs. -/
def zip (table : Table) (invocation : Invocation) : Except DirectiveError Table :=
  let options := invocation.options
  match options.names with
  | left :: right :: _ => do
      let left ← table.need left
      let right ← table.need right
      table.put "mvzip"
        (List.zipWith (Cell.zipElements (separator options 2 "_")) left.cells right.cells)
  | _ => invocation.misused .twoFieldsExpected

/-- Carries out `mvappend a, b`: the elements of several columns, put into the first. -/
def append (table : Table) (invocation : Invocation) : Except DirectiveError Table := do
  let names := invocation.fieldNames
  let target ← firstName invocation names
  let columns ← table.needAll names
  table.put target ((List.range table.rows).map fun row =>
    Cell.appendElements (Grouping.rowCells columns row))

/-- Carries out `mvfilter a=text`: the items that are written as the text. -/
def filter (table : Table) (invocation : Invocation) : Except DirectiveError Table :=
  let keep (field value : Token) : Except DirectiveError Table :=
    table.mapInto field.unquoted field.unquoted (Cell.keepItems value.unquoted)
  match invocation.arguments with
  | [field, value] => keep field value
  | [field, sign, value] =>
      if sign.isOperator "=" then keep field value else invocation.misused .fieldAndValue
  | _ => invocation.misused .fieldAndValue

end LogPipe.Multivalue
