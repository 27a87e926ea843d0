import LogPipe.Directive.Access
import LogPipe.Stats.Grouping
import LogPipe.Table.Sorted

/-!
# Directives that shape a table

They rename, choose and add columns, and drop and order rows.
-/

namespace LogPipe.Shape

open LogPipe.Query

/-- Renames columns by triples of tokens `field as name`. -/
def renameAll (invocation : Invocation) (table : Table) : List Token → Except DirectiveError Table
  | source :: link :: target :: rest =>
      if !link.isKeyword "as" then invocation.misused (.asExpected link.value)
      else if !table.hasColumn source.unquoted then .error (.missingColumn source.unquoted)
      else
        match table.rename source.unquoted target.unquoted with
        | .ok renamed => renameAll invocation renamed rest
        | .error error => .error (.table error)
  | _ => .ok table

/-- Carries out `rename a as b, c as d`. -/
def rename (table : Table) (invocation : Invocation) : Except DirectiveError Table :=
  let words := invocation.arguments.filter fun token => !token.isPunctuation ","
  if words.isEmpty || words.length % 3 != 0 then invocation.misused .renamePairs
  else renameAll invocation table words

/-- Whether the named columns are dropped, and the tokens after the sign that tells. -/
def dropsFields : List Token → Bool × List Token
  | [] => (false, [])
  | token :: rest =>
      if token.isOperator "-" then (true, rest)
      else if token.isOperator "+" then (false, rest)
      else (false, token :: rest)

/-- Carries out `fields a b`, which keeps columns, and `fields - a b`, which drops them. -/
def fields (table : Table) (invocation : Invocation) : Except DirectiveError Table :=
  let (drops, rest) := dropsFields invocation.arguments
  match Arguments.fieldNames rest with
  | [] => invocation.misused .fieldsExpected
  | names => if drops then .ok (table.without names) else (table.select names).mapError .table

/-- Carries out `maketable a b`: like `fields`, but columns that are not there are made. -/
def makeTable (table : Table) (invocation : Invocation) : Except DirectiveError Table :=
  match invocation.fieldNames with
  | [] => invocation.misused .fieldsExpected
  | names => (table.arrange names).mapError .table

/-- The number of rows that `head` keeps. -/
def headCount (policy : Policy) (invocation : Invocation) : Except DirectiveError Nat :=
  let positional := invocation.options.positional
  match invocation.count? "count" with
  | .error error => .error error
  | .ok (some count) => .ok count
  | .ok none =>
      match positional, Arguments.leadingCount? positional with
      | [], _ => .ok policy.headCount
      | _, some (count, []) => .ok count
      | _, _ => invocation.misused .rowCount

/-- Carries out `head 10`, `head count=10` and a plain `head`. -/
def head (policy : Policy) (table : Table) (invocation : Invocation) :
    Except DirectiveError Table :=
  match headCount policy invocation with
  | .error error => .error error
  | .ok count => if count == 0 then invocation.misset .noRows else .ok (table.head count)

/-- Carries out `dedup 2 a b`, which keeps the first rows of each kind. With
`consecutive=true` it keeps the first rows of each run. -/
def dedup (table : Table) (invocation : Invocation) : Except DirectiveError Table := do
  let positional := invocation.options.positional
  let consecutive ← invocation.flag "consecutive" false
  let (count, rest) := (Arguments.leadingCount? positional).getD (1, positional)
  if count == 0 then invocation.misset .noCount
  else
    match Arguments.fieldNames rest with
    | [] => invocation.misused .fieldsExpected
    | names => do
        let columns ← table.needAll names
        pure (if consecutive then table.dedupRuns columns count else table.dedup columns count)

/-- Reads sort keys; a minus sign makes the next key descending. -/
def sortKeys (invocation : Invocation) (descending : Bool) :
    List Token → Except DirectiveError (List SortKey)
  | [] => .ok []
  | token :: rest =>
      if token.isPunctuation "," then sortKeys invocation descending rest
      else if token.isOperator "-" then sortKeys invocation true rest
      else if token.isOperator "+" then sortKeys invocation false rest
      else if token.kind == .identifier || token.kind == .quotedLiteral then
        (sortKeys invocation false rest).map fun keys => ⟨token.unquoted, descending⟩ :: keys
      else invocation.misused (.sortKey token.value)

/-- Carries out `sort 5 -a, b`. A count of zero keeps all rows. -/
def sort (table : Table) (invocation : Invocation) : Except DirectiveError Table := do
  let tokens := invocation.arguments
  let (limit, rest) := (Arguments.leadingCount? tokens).getD (0, tokens)
  let keys ← sortKeys invocation false rest
  if keys.isEmpty then invocation.misused .fieldsExpected
  else
    let sorted ← (table.sortBy keys).mapError .table
    pure (if 0 < limit then sorted.head limit else sorted)

/-- Carries out `fillnull value=0 a b`. -/
def fillNull (table : Table) (invocation : Invocation) : Except DirectiveError Table :=
  let options := invocation.options
  match options.option? "value" with
  | none => invocation.misset .valueRequired
  | some text => (table.fill (Cell.infer text) options.names).mapError .table

/-- Reads the fields and the output name of `coalesce`. -/
def coalesceNames (invocation : Invocation) (output : String) :
    List Token → Except DirectiveError (List String × String)
  | [] => .ok ([], output)
  | [token] =>
      if token.isPunctuation "(" || token.isPunctuation ")" || token.isPunctuation "," then
        .ok ([], output)
      else if token.isKeyword "as" then invocation.misused .nameAfterAs
      else .ok ([token.unquoted], output)
  | token :: next :: rest =>
      if token.isPunctuation "(" || token.isPunctuation ")" || token.isPunctuation "," then
        coalesceNames invocation output (next :: rest)
      else if token.isKeyword "as" then coalesceNames invocation next.unquoted rest
      else
        (coalesceNames invocation output (next :: rest)).map fun (names, output) =>
          (token.unquoted :: names, output)

/-- Carries out `coalesce(a, b) as c`: the first cell of each row that has content. -/
def coalesce (table : Table) (invocation : Invocation) : Except DirectiveError Table := do
  let (names, output) ← coalesceNames invocation "coalesce" invocation.arguments
  if names.isEmpty then invocation.misused .fieldsExpected
  else
    let columns ← table.needAll names
    table.put output ((List.range table.rows).map fun row =>
      Cell.coalesce (Grouping.rowCells columns row))

end LogPipe.Shape
