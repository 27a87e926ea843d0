import LogPipe.Directive.Access
import LogPipe.Table.Join

/-!
# Directives on lookups

They join a stored table, take one as the working table, and store the working table.
-/

namespace LogPipe.Lookups

open LogPipe.Query

/-- Whether a token stands before the output fields of `lookup`. -/
def startsOutput (token : Token) : Bool :=
  token.isKeyword "output" || token.isKeyword "outputnew"

/-- The part of a stored table that is joined: the key fields and the output fields. -/
def chosenPart (invocation : Invocation) (keys : List String) (outputs : Option (List String))
    (stored : Table) : Except DirectiveError Table :=
  match outputs with
  | none => .ok stored
  | some [] => invocation.misused .outputFields
  | some outputs =>
      (stored.select (keys ++ outputs.filter fun name => !keys.contains name)).mapError .table

/-- Carries out `lookup name key OUTPUT a b`. -/
def lookup {σ : Type} [LookupStore σ] (table : Table) (invocation : Invocation) :
    Session σ Table :=
  let before := invocation.arguments.takeWhile fun token => !startsOutput token
  let outputs :=
    match invocation.arguments.dropWhile fun token => !startsOutput token with
    | [] => none
    | _ :: after => some (Arguments.fieldNames after)
  match Arguments.fieldNames before with
  | [] => .ofExcept (invocation.misused .lookupAndKeys)
  | [_] => .ofExcept (invocation.misused .keyExpected)
  | name :: keys => do
      let stored ← Session.load name
      let part ← .ofExcept (chosenPart invocation keys outputs stored)
      .ofExcept ((Join.tables table part keys .left).mapError .join)

/-- The name of a lookup, as an option or as the only argument. -/
def lookupName (invocation : Invocation) : Except DirectiveError String :=
  let options := invocation.options
  match options.option? "filename", options.names with
  | some name, _ => .ok name
  | none, [name] => .ok name
  | none, _ => invocation.misused .oneLookup

/-- Carries out `inputlookup name`. -/
def input {σ : Type} [LookupStore σ] (invocation : Invocation) : Session σ Table := do
  let name ← .ofExcept (lookupName invocation)
  Session.load name

/-- How `outputlookup` saves. -/
def saveMode (invocation : Invocation) : Except DirectiveError SaveMode := do
  let append ← invocation.flag "append" false
  let overwrite ← invocation.flag "overwrite" false
  if append && overwrite then invocation.misset .appendAndOverwrite
  else
    let overrideIfEmpty ← invocation.flag "override_if_empty" true
    pure ⟨append, overrideIfEmpty⟩

/-- Carries out `outputlookup name`. The table passes through. -/
def output {σ : Type} [LookupStore σ] (table : Table) (invocation : Invocation) :
    Session σ Table := do
  let mode ← .ofExcept (saveMode invocation)
  let name ← .ofExcept (lookupName invocation)
  Session.save name table mode
  pure table

end LogPipe.Lookups
