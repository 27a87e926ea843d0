import LogPipe.Query.Lexer
import LogPipe.Stats.Reducer
import LogPipe.Table.Basic

/-!
# Aggregation clauses

A clause lists functions, each with an optional field in parentheses and an optional
alias, and may end in the fields to group by. A star stands for all other columns.
-/

namespace LogPipe

open LogPipe.Query LogPipe.Text

/-- Why a text is no aggregation clause. -/
inductive ClauseFault where
  | unexpected (value : String)
  | fieldExpected (label : String) (found : Option String)
  | unclosed (label : String)
  | aliasMissing (label : String)
  | unexpectedGroup (value : String)
  | groupMissing
deriving DecidableEq, Repr

/-- The text of the fault. -/
def ClauseFault.message : ClauseFault → String
  | .unexpected value => "unexpected " ++ quoted value
  | .fieldExpected label found =>
      "expected a field inside " ++ label ++ "(...), found " ++ quotedOption found
  | .unclosed label => "unclosed " ++ label ++ "("
  | .aliasMissing label => "missing alias after " ++ label ++ " as"
  | .unexpectedGroup value => "unexpected " ++ quoted value ++ " in by clause"
  | .groupMissing => "by requires at least one field"

/-- Why a table cannot be aggregated. -/
inductive StatsError where
  | unknownFunction (name : String)
  | malformed (clause : String) (fault : ClauseFault)
  | duplicateAlias (name : String)
  | fieldRequired (label : String)
  | missingColumn (name : String)
  | noFunctions
  | invalidSpan (text : String)
  | invalidTime (column value : String)
  | cell (error : CellError)
  | lex (error : LexError)
  | column (error : ColumnError)
  | table (error : TableError)
deriving DecidableEq, Repr

/-- The text of the error. -/
def StatsError.message : StatsError → String
  | .unknownFunction name => "unknown aggregation function " ++ quoted name
  | .malformed clause fault =>
      "invalid aggregation clause " ++ quoted clause ++ ": " ++ fault.message
  | .duplicateAlias name => "duplicate alias " ++ quoted name ++ " in one aggregation call"
  | .fieldRequired label => label ++ "() requires a field"
  | .missingColumn name => "column " ++ quoted name ++ " does not exist"
  | .noFunctions => "aggregation clause names no functions"
  | .invalidSpan text => "invalid span " ++ quoted text
  | .invalidTime name value =>
      "value " ++ quoted value ++ " in column " ++ quoted name ++ " is not a time"
  | .cell error => error.message
  | .lex error => error.message
  | .column error => error.message
  | .table error => error.message

/-- One function of a clause. -/
structure Aggregate where
  function : AggregateFunction
  /-- The function's name as written, in lower case. -/
  label : String
  field : Option String
  /-- The name given to the output column, if there is one. -/
  givenName : Option String
deriving DecidableEq, Repr

/-- The name of the output column: the alias, or the written form of the call. -/
def Aggregate.outputName (aggregate : Aggregate) : String :=
  match aggregate.givenName, aggregate.field with
  | some name, _ => name
  | none, some field => aggregate.label ++ "(" ++ field ++ ")"
  | none, none => aggregate.label

/-- A function bound to the columns of a table. -/
structure BoundAggregate where
  function : AggregateFunction
  field : Option String
  output : String
deriving DecidableEq, Repr

/-- The functions of a clause and the fields to group by. -/
structure StatsClause where
  aggregates : List Aggregate
  groupBy : List String
deriving DecidableEq, Repr

namespace StatsClause

/-- Whether a token can be a name. -/
def isName (token : Token) : Bool :=
  match token.kind with
  | .identifier => true
  | .quotedLiteral => true
  | .number => true
  | _ => false

/-- Reads an optional field in parentheses after a function name. -/
def readField (label : String) (tokens : List Token) :
    Except ClauseFault (Option String × List Token) :=
  match tokens with
  | [] => .ok (none, [])
  | token :: rest =>
      if !token.isPunctuation "(" then .ok (none, token :: rest)
      else
        let (field, rest, found) :=
          match rest with
          | [] => (none, [], some none)
          | inner :: after =>
              if inner.isPunctuation ")" then (none, inner :: after, none)
              else if isName inner then (some inner.unquoted, after, none)
              else (none, after, some (some inner.value))
        match found with
        | some found => .error (.fieldExpected label found)
        | none =>
            match rest with
            | closing :: rest =>
                if closing.isPunctuation ")" then .ok (field, rest) else .error (.unclosed label)
            | [] => .error (.unclosed label)

/-- Reads an optional alias. -/
def readAlias (label : String) (tokens : List Token) :
    Except ClauseFault (Option String × List Token) :=
  match tokens with
  | [] => .ok (none, [])
  | token :: rest =>
      if !token.isKeyword "as" then .ok (none, token :: rest)
      else
        match rest with
        | name :: rest =>
            if isName name then .ok (some name.unquoted, rest) else .error (.aliasMissing label)
        | [] => .error (.aliasMissing label)

/-- Reads functions, in at most `rounds` steps. -/
def readAggregates (clause : String) (tokens : List Token) :
    Nat → Except StatsError (List Aggregate)
  | 0 => .ok []
  | rounds + 1 =>
      match tokens with
      | [] => .ok []
      | token :: rest =>
          if token.isPunctuation "," then readAggregates clause rest rounds
          else if token.kind != .identifier then
            .error (.malformed clause (.unexpected token.value))
          else
            let label := asciiLower token.value
            match AggregateFunction.ofLowerName? label with
            | none => .error (.unknownFunction token.value)
            | some function => do
                let (field, rest) ← (readField label rest).mapError (.malformed clause)
                let (givenName, rest) ← (readAlias label rest).mapError (.malformed clause)
                let aggregates ← readAggregates clause rest rounds
                pure (⟨function, label, field, givenName⟩ :: aggregates)

/-- Reads the fields to group by. -/
def readGroupBy (clause : String) : List Token → Except StatsError (List String)
  | [] => .ok []
  | token :: rest =>
      if token.isPunctuation "," then readGroupBy clause rest
      else if !isName token then .error (.malformed clause (.unexpectedGroup token.value))
      else (readGroupBy clause rest).map fun names => token.unquoted :: names

/-- Reads tokens as a clause. -/
def ofTokens (tokens : List Token) (clause : String) : Except StatsError StatsClause := do
  let before := tokens.takeWhile fun token => !token.isKeyword "by"
  let after := tokens.dropWhile fun token => !token.isKeyword "by"
  let aggregates ← readAggregates clause before before.length
  if aggregates.isEmpty then .error .noFunctions
  else
    match after with
    | [] => pure ⟨aggregates, []⟩
    | _ :: names => do
        let groupBy ← readGroupBy clause names
        if groupBy.isEmpty then .error (.malformed clause .groupMissing)
        else pure ⟨aggregates, groupBy⟩

/-- Reads a text as a clause. -/
def ofText (text : String) : Except StatsError StatsClause :=
  match lex text with
  | .ok tokens => ofTokens tokens text
  | .error error => .error (.lex error)

/-- The first name that has no column. -/
def firstMissing (table : Table) (names : List String) : Option String :=
  names.find? fun name => !table.hasColumn name

/-- Binds one function to the columns of a table. -/
def bindAggregate (table : Table) (groupBy : List String) (aggregate : Aggregate) :
    Except StatsError (List BoundAggregate) :=
  match aggregate.field with
  | some "*" =>
      .ok ((table.names.filter fun name => !groupBy.contains name).map fun name =>
        let output :=
          match aggregate.givenName with
          | some "*" => name
          | some given => given
          | none => aggregate.label ++ "(" ++ name ++ ")"
        ⟨aggregate.function, some name, output⟩)
  | some field =>
      if !table.hasColumn field then .error (.missingColumn field)
      else
        let output := if aggregate.givenName == some "*" then field else aggregate.outputName
        .ok [⟨aggregate.function, some field, output⟩]
  | none =>
      if aggregate.function == .count then
        .ok [⟨aggregate.function, none, aggregate.outputName⟩]
      else
        .error (.fieldRequired aggregate.label)

/-- Binds functions one after the other. -/
def bindAggregates (table : Table) (groupBy : List String) :
    List Aggregate → Except StatsError (List BoundAggregate)
  | [] => .ok []
  | aggregate :: aggregates => do
      let bound ← bindAggregate table groupBy aggregate
      let rest ← bindAggregates table groupBy aggregates
      pure (bound ++ rest)

/-- The first name that occurs earlier in the list. -/
def firstRepeated (seen : List String) : List String → Option String
  | [] => none
  | name :: names => if seen.contains name then some name else firstRepeated (name :: seen) names

/-- Binds a clause to a table. All fields have to exist and all outputs to differ. -/
def bind (clause : StatsClause) (table : Table) : Except StatsError (List BoundAggregate) := do
  match firstMissing table clause.groupBy with
  | some name => .error (.missingColumn name)
  | none =>
      let bound ← bindAggregates table clause.groupBy clause.aggregates
      match firstRepeated [] (bound.map BoundAggregate.output) with
      | some name => .error (.duplicateAlias name)
      | none => pure bound

end StatsClause

end LogPipe
