import LogPipe.Filter.Reading

/-!
# Applying filters to tables

A filter is evaluated for all rows at once. Its mask keeps the rows for which it is true;
rows for which it is unknown are dropped. A blank clause keeps every row.
-/

namespace LogPipe

open LogPipe.Query

namespace Filter

/-- What a part of a filter stands for: a column, or one cell for all rows. -/
inductive Operand where
  | column (cells : Column)
  | cell (value : Cell)

/-- The column of a name. -/
def columnOf (table : Table) (name : String) : Except FilterError Column :=
  match table.column? name with
  | some found => .ok found
  | none => .error (.missingColumn name)

/-- The truth column of a part. A single cell has to be a truth value. -/
def Operand.predicate (clause : String) (rows : Nat) : Operand → Except FilterError Column
  | .column truths => .ok truths
  | .cell (.bool value) => .ok (Column.ofTruths (List.replicate rows (some value)))
  | .cell value => .error (.malformed clause (.notPredicate value.written))

/-- Compares two parts. A cell on the left is compared by the reversed operator. -/
def compareOperands (rows : Nat) (operator : Comparison) :
    Operand → Operand → Except FilterError Column
  | .column left, .column right => (Column.compare operator left right).mapError .column
  | .column left, .cell right => .ok (Column.compareCell operator left right)
  | .cell left, .column right => .ok (Column.compareCell operator.reversed right left)
  | .cell left, .cell right =>
      .ok (Column.ofTruths (List.replicate rows (operator.apply left right)))

/-- What a filter stands for on a table. -/
def evaluate (clause : String) (table : Table) : Filter → Except FilterError Operand
  | .column name => do
      let found ← columnOf table name
      pure (.column found)
  | .literal value => pure (.cell value)
  | .member field values => do
      let found ← columnOf table field
      pure (.column (found.isIn values))
  | .both left right => do
      let left ← evaluate clause table left
      let left ← left.predicate clause table.rows
      let right ← evaluate clause table right
      let right ← right.predicate clause table.rows
      let truths ← (left.and right).mapError .column
      pure (.column truths)
  | .either left right => do
      let left ← evaluate clause table left
      let left ← left.predicate clause table.rows
      let right ← evaluate clause table right
      let right ← right.predicate clause table.rows
      let truths ← (left.or right).mapError .column
      pure (.column truths)
  | .compare operator left right => do
      let left ← evaluate clause table left
      let right ← evaluate clause table right
      let truths ← compareOperands table.rows operator left right
      pure (.column truths)

/-- The truth column of a filter. -/
def truths (clause : String) (table : Table) (filter : Filter) : Except FilterError Column := do
  let operand ← evaluate clause table filter
  operand.predicate clause table.rows

end Filter

/-- A filter together with the text it was read from; no filter keeps every row. -/
structure FilterClause where
  text : String
  filter : Option Filter
deriving DecidableEq, Repr

namespace FilterClause

/-- Reads tokens as a filter. -/
def ofTokens (tokens : List Token) (text : String) : Except FilterError FilterClause :=
  match tokens with
  | [] => .ok ⟨text, none⟩
  | _ =>
      match Filter.ofTokens tokens with
      | .ok filter => .ok ⟨text, some filter⟩
      | .error fault => .error (.malformed text fault)

/-- Reads a text as a filter. -/
def ofText (text : String) : Except FilterError FilterClause :=
  match lex text with
  | .ok tokens => ofTokens tokens text
  | .error error => .error (.lex error)

/-- Which rows a filter keeps. -/
def mask (clause : FilterClause) (table : Table) : Except FilterError (List Bool) :=
  match clause.filter with
  | none => .ok (List.replicate table.rows true)
  | some filter =>
      match filter.truths clause.text table with
      | .ok column => .ok column.mask
      | .error error => .error error

/-- The rows that a filter keeps. -/
def apply (clause : FilterClause) (table : Table) : Except FilterError Table :=
  match clause.mask table with
  | .ok mask => (table.filterRows mask).mapError .table
  | .error error => .error error

end FilterClause

end LogPipe

/-!
## Indexes

Indexes are tables that queries start from. An index clause names one of them, as in
`index=web`, and everything else in the clause filters its rows.
-/

namespace LogPipe

open LogPipe.Query LogPipe.Text

/-- Why a clause selects no rows. -/
inductive IndexError where
  | unknownIndex (name : String)
  | noIndex (clause : String)
  | filter (error : FilterError)
deriving DecidableEq, Repr

/-- The text of the error. -/
def IndexError.message : IndexError → String
  | .unknownIndex name => "unknown index " ++ quoted name
  | .noIndex clause => "index clause " ++ quoted clause ++ " does not select an index"
  | .filter error => error.message

/-- Tables by name. -/
abbrev Indexes := List (String × Table)

namespace Indexes

/-- Takes the first naming of an index out of a clause. -/
def takeName : List Token → Option String × List Token
  | token :: sign :: value :: rest =>
      if token.isKeyword "index" && sign.isOperator "=" then (some value.unquoted, rest)
      else
        let (name, others) := takeName (sign :: value :: rest)
        (name, token :: others)
  | tokens => (none, tokens)

/-- The text of a clause: its tokens with single spaces. -/
def clauseText (tokens : List Token) : String :=
  " ".intercalate (tokens.map Token.value)

/-- A clause without a leading `search`. -/
def clauseOf (tokens : List Token) : List Token :=
  match tokens with
  | token :: rest => if token.isKeyword "search" then rest else token :: rest
  | [] => []

/-- The rows that a clause selects. -/
def select (indexes : Indexes) (tokens : List Token) : Except IndexError Table :=
  let clause := clauseOf tokens
  let text := clauseText clause
  match takeName clause with
  | (none, _) => .error (.noIndex text)
  | (some name, rest) =>
      match indexes.lookup name with
      | none => .error (.unknownIndex name)
      | some table =>
          match FilterClause.ofTokens rest text with
          | .error error => .error (.filter error)
          | .ok filter => (filter.apply table).mapError .filter

end Indexes

end LogPipe
