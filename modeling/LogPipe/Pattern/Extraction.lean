import LogPipe.Cell.Written
import LogPipe.Pattern.Matching
import LogPipe.Table.Filling

/-!
# Extracting columns by patterns and replacing what they match

A pattern is matched against the written cells of a column. What its named groups match
goes into new columns; a group whose name is taken gets a suffix.
-/

namespace LogPipe.Pattern

open LogPipe.Decimal

/-- The cell of the texts that a group has matched: missing for none, a list for several. -/
def groupCell (hits : List (List Char)) : Cell :=
  match hits with
  | [] => .null
  | [hit] => .text (String.ofList hit)
  | hits => .list (hits.map fun hit => .text (String.ofList hit))

/-- The cells of the named groups in the first matches of a cell, at most `limit` if given. -/
def extractCell (matcher : Matcher) (limit : Option Nat) (cell : Cell) : List Cell :=
  let text := cell.written.toList
  let found := if cell.isMissing then [] else matcher.allMatches text limit
  matcher.groups.filterMap fun (number, name) =>
    name.map fun _ => groupCell (found.filterMap fun hit => hit.group? text number)

/-- The column name of a group. -/
def columnName (table : Table) (group : String) : String :=
  if table.hasColumn group then group ++ "_rex" else group

/-- Puts named columns of cells into a table, one after the other. -/
def putAll (table : Table) : List (String × List Cell) → Except TableError Table
  | [] => .ok table
  | (name, cells) :: rest =>
      match table.putCells name cells with
      | .error error => .error error
      | .ok next => putAll next rest

/-- The table with a column for each named group. -/
def extract (table : Table) (column : Column) (matcher : Matcher) (limit : Option Nat) :
    Except TableError Table :=
  let rows := column.cells.map (extractCell matcher limit)
  putAll table (matcher.names.zipIdx.map fun (name, index) =>
    (columnName table name, rows.map fun row => (row[index]?).getD .null))

/-- Which cells match a pattern; a missing cell does not. -/
def matchMask (matcher : Matcher) (column : Column) : List Bool :=
  column.cells.map fun cell => !cell.isMissing && matcher.isMatch cell.written

/-! ## Substitutions

A substitution is written `s/pattern/replacement/flags` with any character in place of the
slash. A backslash before the separator makes it stand for itself. In the replacement a
backslash and a number stand for what that group has matched. The only flag is `g`, which
replaces all matches and not just the first.
-/

/-- A part of a replacement. -/
inductive ReplacementPart where
  | text (text : List Char)
  | group (number : Nat)
deriving DecidableEq, Repr

/-- Reads a replacement. `digits` are those of a group number read so far, if any, last one
first. -/
def readReplacement (digits : Option (List Char)) : List Char → List ReplacementPart
  | [] =>
      match digits with
      | some digits => [.group (digitsValue digits.reverse)]
      | none => []
  | c :: rest =>
      match digits with
      | some digits =>
          if isDigit c then readReplacement (some (c :: digits)) rest
          else if c == '\\' && (rest.head?).any isDigit then
            .group (digitsValue digits.reverse) :: readReplacement (some []) rest
          else
            .group (digitsValue digits.reverse) :: .text [c] :: readReplacement none rest
      | none =>
          if c == '\\' && (rest.head?).any isDigit then readReplacement (some []) rest
          else .text [c] :: readReplacement none rest

/-- A pattern and what its matches are replaced by. -/
structure Substitution where
  matcher : Matcher
  replacement : List ReplacementPart
  everywhere : Bool

/-- Splits a text at a separator that has no backslash before it. -/
def splitUnescaped (separator : Char) (current : List Char) : List Char → List (List Char)
  | [] => [current.reverse]
  | [c] => if c == separator then [current.reverse, []] else [(c :: current).reverse]
  | c :: d :: rest =>
      if c == '\\' && d == separator then splitUnescaped separator (separator :: current) rest
      else if c == separator then current.reverse :: splitUnescaped separator [] (d :: rest)
      else splitUnescaped separator (c :: current) (d :: rest)

/-- The three parts of a written substitution. -/
def substitutionParts? (text : String) : Option (List Char × List Char × Bool) :=
  match text.toList with
  | 's' :: separator :: rest =>
      match splitUnescaped separator [] rest with
      | [pattern, replacement, flags] =>
          if flags.all (· == 'g') then some (pattern, replacement, !flags.isEmpty) else none
      | _ => none
  | _ => none

/-- What a match is replaced by. A group that matched nothing is replaced by nothing. -/
def expand (replacement : List ReplacementPart) (text : List Char) (found : Match) : List Char :=
  replacement.flatMap fun
    | .text text => text
    | .group number => (found.group? text number).getD []

/-- Replaces matches in a text, given the position up to which it has been written. -/
def replaceMatches (replacement : List ReplacementPart) (text : List Char) (position : Nat) :
    List Match → List Char
  | [] => text.drop position
  | found :: others =>
      (text.drop position).take (found.start - position) ++ expand replacement text found ++
        replaceMatches replacement text found.stop others

/-- Applies a substitution to a text. -/
def Substitution.apply (substitution : Substitution) (text : String) : String :=
  let chars := text.toList
  let limit := if substitution.everywhere then none else some 1
  String.ofList
    (replaceMatches substitution.replacement chars 0 (substitution.matcher.allMatches chars limit))

end LogPipe.Pattern
