import LogPipe.Decimal.Reading
import LogPipe.Directive.Error
import LogPipe.Query.Token
import LogPipe.Table.Filling

/-!
# What directives ask for

Directives ask for options of a certain form, for names, and for columns of their table.
Each request that is not met is an error of the directive.

Directives that reach a store of lookups run in a session, which carries the store along.
What has been saved stays saved when the directive fails later on.
-/

/-!
## Arguments of directives

Arguments are options `key=value` and the tokens that are left over. Commas separate
arguments and are dropped. Tokens that follow the value of an option without a blank belong
to it, so that `path=a.b[0]` keeps its brackets.
-/

namespace LogPipe

open LogPipe.Decimal LogPipe.Query LogPipe.Text

/-- The arguments of a directive. -/
structure Arguments where
  options : List (String × String) := []
  positional : List Token := []
deriving DecidableEq, Repr

namespace Arguments

/-- An option that is being read: its key, its value so far, and the offset after it. -/
structure OpenOption where
  key : String
  value : String
  stop : Nat
deriving DecidableEq, Repr

/-- Adds an option in front, if there is one. -/
def addOption (option : Option OpenOption) (arguments : Arguments) : Arguments :=
  match option with
  | some option => { arguments with options := (option.key, option.value) :: arguments.options }
  | none => arguments

/-- Adds a positional token in front. -/
def addPositional (token : Token) (arguments : Arguments) : Arguments :=
  { arguments with positional := token :: arguments.positional }

/-- The option with the next token at its end, when nothing stands between them. -/
def OpenOption.extend? (option : OpenOption) (token : Token) : Option OpenOption :=
  if token.offset == option.stop && !token.isPunctuation "," then
    some ⟨option.key, option.value ++ token.value, token.stop⟩
  else none

/-- Whether three tokens start an option. -/
def startsOption (key sign value : Token) : Bool :=
  key.kind == .identifier && sign.isOperator "=" && !value.isPunctuation ","

/-- Reads arguments, given the option that is being read. -/
def readFrom (option : Option OpenOption) : List Token → Arguments
  | [] => addOption option {}
  | [token] =>
      match option.bind fun option => option.extend? token with
      | some extended => addOption (some extended) {}
      | none =>
          addOption option (if token.isPunctuation "," then {} else addPositional token {})
  | [token, second] =>
      match option.bind fun option => option.extend? token with
      | some extended => readFrom (some extended) [second]
      | none =>
          addOption option
            (if token.isPunctuation "," then readFrom none [second]
            else addPositional token (readFrom none [second]))
  | token :: second :: third :: rest =>
      match option.bind fun option => option.extend? token with
      | some extended => readFrom (some extended) (second :: third :: rest)
      | none =>
          addOption option
            (if token.isPunctuation "," then readFrom none (second :: third :: rest)
            else if startsOption token second third then
              readFrom (some ⟨asciiLower token.value, third.unquoted, third.stop⟩) rest
            else addPositional token (readFrom none (second :: third :: rest)))

/-- Reads arguments. -/
def ofTokens (tokens : List Token) : Arguments :=
  readFrom none tokens

/-- The value of an option; the last one counts. -/
def option? (arguments : Arguments) (key : String) : Option String :=
  arguments.options.reverse.lookup key

/-- The contents of the positional tokens. -/
def names (arguments : Arguments) : List String :=
  arguments.positional.map Token.unquoted

/-- A truth value in words or digits. -/
def readTruth? (text : String) : Option Bool :=
  let word := asciiLower text
  if ["true", "t", "1", "yes"].contains word then some true
  else if ["false", "f", "0", "no"].contains word then some false
  else none

/-- The contents of tokens without the commas. -/
def fieldNames (tokens : List Token) : List String :=
  (tokens.filter fun token => !token.isPunctuation ",").map Token.unquoted

/-- A count at the front, and the tokens after it. -/
def leadingCount? : List Token → Option (Nat × List Token)
  | [] => none
  | token :: rest =>
      if token.kind == .number then
        (readNat? token.value.toList).map fun count => (count, rest)
      else none

end Arguments

end LogPipe

/-! ## Requests -/

namespace LogPipe

open LogPipe.Decimal LogPipe.Query

namespace Invocation

/-- The error that the arguments cannot be read. -/
def misused {α : Type} (invocation : Invocation) (fault : UsageFault) : Except DirectiveError α :=
  .error (.usage invocation.directive fault)

/-- The error that the settings make no sense. -/
def misset {α : Type} (invocation : Invocation) (fault : SettingFault) :
    Except DirectiveError α :=
  .error (.setting invocation.directive fault)

/-- The options and the positional arguments. -/
def options (invocation : Invocation) : Arguments :=
  Arguments.ofTokens invocation.arguments

/-- The contents of all arguments. -/
def fieldNames (invocation : Invocation) : List String :=
  Arguments.fieldNames invocation.arguments

/-- An option that is read in some way, if it is given. -/
def option? {α : Type} (invocation : Invocation) (read : String → Option α) (key : String) :
    Except DirectiveError (Option α) :=
  match invocation.options.option? key with
  | none => .ok none
  | some text =>
      match read text with
      | some value => .ok (some value)
      | none => invocation.misset (.badValue key text)

/-- An option that is a truth value, or what it is when not given. -/
def flag (invocation : Invocation) (key : String) (default : Bool) : Except DirectiveError Bool :=
  (invocation.option? Arguments.readTruth? key).map fun value => value.getD default

/-- An option that is a natural number, if it is given. -/
def count? (invocation : Invocation) (key : String) : Except DirectiveError (Option Nat) :=
  invocation.option? (fun text => readNat? text.toList) key

end Invocation

namespace Table

/-- The column that a directive needs. -/
def need (table : Table) (name : String) : Except DirectiveError Column :=
  match table.column? name with
  | some column => .ok column
  | none => .error (.missingColumn name)

/-- The columns that a directive needs. -/
def needAll (table : Table) : List String → Except DirectiveError (List Column)
  | [] => .ok []
  | name :: names =>
      match table.need name with
      | .error error => .error error
      | .ok column => (needAll table names).map fun columns => column :: columns

/-- The table with a column of the given cells. -/
def put (table : Table) (name : String) (cells : List Cell) : Except DirectiveError Table :=
  (table.putCells name cells).mapError .table

/-- The table with the cells of a column changed one by one and put under a name. -/
def mapInto (table : Table) (source target : String) (change : Cell → Cell) :
    Except DirectiveError Table :=
  match table.need source with
  | .error error => .error error
  | .ok column => table.put target (column.cells.map change)

end Table

/-! ## Sessions -/

/-- A computation that may use a store of lookups. -/
abbrev Session (σ : Type) := ExceptT DirectiveError (StateM σ)

namespace Session

/-- A result that does not depend on the store. -/
def ofExcept {σ α : Type} (result : Except DirectiveError α) : Session σ α :=
  fun store => (result, store)

/-- The table of a name. -/
def load {σ : Type} [LookupStore σ] (name : String) : Session σ Table :=
  fun store => ((LookupStore.load store name).mapError .lookup, store)

/-- Saves a table under a name. -/
def save {σ : Type} [LookupStore σ] (name : String) (table : Table) (mode : SaveMode) :
    Session σ Unit :=
  fun store =>
    let (result, store) := LookupStore.save store name table mode
    (result.mapError .lookup, store)

end Session

end LogPipe
