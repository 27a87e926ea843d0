import LogPipe.Directive.Access
import LogPipe.Engine.Macro
import LogPipe.Table.Join

/-!
# Directives that run queries

They run queries or pipelines that are written inside them, in square brackets or as
macros. How these are run is given to them.
-/

namespace LogPipe

open LogPipe.Query

/-- How queries and pipelines inside a directive are run. -/
structure NestedRun (σ : Type) where
  query : String → Session σ Table
  pipeline : Table → String → Session σ Table

namespace Subsearch

/-- The only block of some arguments. -/
def onlyBlock (invocation : Invocation) : Except DirectiveError String :=
  match bracketBlocks invocation.text with
  | .error error => .error (.lex error)
  | .ok [block] => .ok block
  | .ok blocks => invocation.misused (.oneSubsearch blocks.length)

/-- The kind of a join and its fields. -/
def joinArguments (invocation : Invocation) : Except DirectiveError (JoinKind × List String) :=
  match lex (textBeforeBrackets invocation.text) with
  | .error error => .error (.lex error)
  | .ok tokens => do
      let options := Arguments.ofTokens tokens
      let kind ←
        match options.option? "type" with
        | none => pure .inner
        | some name =>
            match JoinKind.ofName? name with
            | some kind => pure kind
            | none => invocation.misset (.unknownJoin name)
      if options.names.isEmpty then invocation.misused .joinFieldExpected
      else pure (kind, options.names)

/-- Carries out `join type=left a, b [ query ]`. -/
def join {σ : Type} (nested : NestedRun σ) (table : Table) (invocation : Invocation) :
    Session σ Table := do
  let query ← .ofExcept (onlyBlock invocation)
  let (kind, fields) ← .ofExcept (joinArguments invocation)
  let right ← nested.query query
  .ofExcept ((Join.tables table right fields kind).mapError .join)

/-- Carries out `append [ query ]`. -/
def append {σ : Type} (nested : NestedRun σ) (table : Table) (invocation : Invocation) :
    Session σ Table := do
  let query ← .ofExcept (onlyBlock invocation)
  let extra ← nested.query query
  pure (Table.concat [table, extra])

/-- Carries out `appendpipe [ pipeline ]`, which runs over the working table. -/
def appendPipe {σ : Type} (nested : NestedRun σ) (table : Table) (invocation : Invocation) :
    Session σ Table := do
  let pipeline ← .ofExcept (onlyBlock invocation)
  let extra ← nested.pipeline table pipeline
  pure (Table.concat [table, extra])

/-- Runs queries one after the other. -/
def runAll {σ : Type} (nested : NestedRun σ) : List String → Session σ (List Table)
  | [] => pure []
  | query :: queries => do
      let table ← nested.query query
      let tables ← runAll nested queries
      pure (table :: tables)

/-- Carries out `multisearch [ query ] [ query ]`. The working table is dropped. -/
def multiSearch {σ : Type} (nested : NestedRun σ) (invocation : Invocation) :
    Session σ Table :=
  match bracketBlocks invocation.text with
  | .error error => .ofExcept (.error (.lex error))
  | .ok queries =>
      if queries.length < 2 then .ofExcept (invocation.misused .twoSubsearches)
      else do
        let tables ← runAll nested queries
        pure (Table.concat tables)

/-- The pipeline that a macro call stands for. -/
def expansion (macros : Macros) (invocation : Invocation) : Except DirectiveError String :=
  if !invocation.arguments.isEmpty then invocation.misused .argumentsAfterCall
  else
    match MacroCall.ofText? invocation.keyword.unquoted with
    | none => invocation.misused (.badCall invocation.keyword.value)
    | some call =>
        match macros.expand? call with
        | some pipeline => .ok pipeline
        | none => .error (.unknownMacro call.name)

/-- Carries out a macro call over the working table. -/
def macroCall {σ : Type} (nested : NestedRun σ) (macros : Macros) (table : Table)
    (invocation : Invocation) : Session σ Table := do
  let pipeline ← .ofExcept (expansion macros invocation)
  nested.pipeline table pipeline

end Subsearch

end LogPipe
