import LogPipe.Directive.Aggregation
import LogPipe.Directive.Extraction
import LogPipe.Directive.Lookups
import LogPipe.Directive.Multivalue
import LogPipe.Directive.Shape
import LogPipe.Directive.Subsearch
import LogPipe.Json.Basic

/-!
# Running queries

A query is run from its index clause through its directives, one table leading to the
next. Queries inside directives run one level deeper, down to the nesting limit of the
policy. All that a run changes is the store of lookups.
-/

/-!
## Ledgers

A ledger tells which directives of a query have run and how many rows they met and left.
-/

namespace LogPipe

/-- A directive that has run: its place in the pipeline and its name. -/
structure LedgerEntry where
  index : Nat
  directive : String
  rowsIn : Nat
  rowsOut : Nat
deriving DecidableEq, Repr

/-- The directives of one query that have run, in order. -/
structure Ledger where
  requestId : Option String := none
  entries : List LedgerEntry := []
deriving DecidableEq, Repr

namespace Ledger

/-- Adds an entry at the end. -/
def record (ledger : Ledger) (entry : LedgerEntry) : Ledger :=
  { ledger with entries := ledger.entries ++ [entry] }

/-- The JSON form of an entry. -/
def entryJson (entry : LedgerEntry) : Json :=
  .object [("index", .int entry.index), ("keyword", .string entry.directive),
    ("rows_in", .int entry.rowsIn), ("rows_out", .int entry.rowsOut)]

/-- The JSON form of a ledger. -/
def toJson (ledger : Ledger) : Json :=
  .object [
    ("request_id", match ledger.requestId with
      | some id => .string id
      | none => .null),
    ("records", .array (ledger.entries.map entryJson))]

end Ledger

end LogPipe

/-! ## Runs -/

namespace LogPipe

open LogPipe.Query LogPipe.Text

/-- What queries are run against. -/
structure Engine where
  policy : Policy := {}
  /-- The seed of every drawing of random numbers. -/
  seed : Nat := 0
  indexes : Indexes := []
  macros : Macros := []

/-- What a run leaves behind: its table or error, the directives that have run, and the
store of lookups. -/
structure Outcome (σ : Type) where
  result : Except QueryError Table
  entries : List LedgerEntry
  store : σ

namespace Engine

variable {σ : Type} [LookupStore σ]

/-- Carries out a directive. -/
def apply (engine : Engine) (nested : NestedRun σ) (table : Table) (invocation : Invocation) :
    Session σ Table :=
  match invocation.directive with
  | .search => .ofExcept (Aggregation.search table invocation)
  | .whereRows => .ofExcept (Aggregation.search table invocation)
  | .eval => .ofExcept (Aggregation.eval engine.seed table invocation)
  | .stats => .ofExcept (Aggregation.aggregate Stats.summarize table invocation)
  | .eventStats => .ofExcept (Aggregation.aggregate Stats.broadcast table invocation)
  | .streamStats => .ofExcept (Aggregation.aggregate Stats.running table invocation)
  | .timechart => .ofExcept (Aggregation.timechart engine.policy table invocation)
  | .bin => .ofExcept (Aggregation.bin engine.policy table invocation)
  | .fieldSummary => .ofExcept (Aggregation.fieldSummary table invocation)
  | .rename => .ofExcept (Shape.rename table invocation)
  | .fields => .ofExcept (Shape.fields table invocation)
  | .makeTable => .ofExcept (Shape.makeTable table invocation)
  | .head => .ofExcept (Shape.head engine.policy table invocation)
  | .reverse => .ofExcept (.ok table.reverse)
  | .dedup => .ofExcept (Shape.dedup table invocation)
  | .sort => .ofExcept (Shape.sort table invocation)
  | .fillNull => .ofExcept (Shape.fillNull table invocation)
  | .coalesce => .ofExcept (Shape.coalesce table invocation)
  | .rex => .ofExcept (Extraction.rex table invocation)
  | .regex => .ofExcept (Extraction.regex table invocation)
  | .base64 => .ofExcept (Extraction.base64 table invocation)
  | .spath => .ofExcept (Extraction.spath table invocation)
  | .mvExpand => .ofExcept (Multivalue.expand table invocation)
  | .mvJoin => .ofExcept (Multivalue.join "," table invocation)
  | .mvCombine => .ofExcept (Multivalue.join " " table invocation)
  | .mvIndex => .ofExcept (Multivalue.index table invocation)
  | .mvCount => .ofExcept (Multivalue.derive "_count" Cell.elementCount table invocation)
  | .mvDistinct => .ofExcept (Multivalue.derive "_dc" Cell.distinctElementCount table invocation)
  | .mvFind => .ofExcept (Multivalue.find table invocation)
  | .mvZip => .ofExcept (Multivalue.zip table invocation)
  | .mvReverse => .ofExcept (Multivalue.change Cell.reverseItems table invocation)
  | .mvDedup => .ofExcept (Multivalue.change Cell.distinctItems table invocation)
  | .mvAppend => .ofExcept (Multivalue.append table invocation)
  | .mvFilter => .ofExcept (Multivalue.filter table invocation)
  | .lookup => Lookups.lookup table invocation
  | .inputLookup => Lookups.input invocation
  | .outputLookup => Lookups.output table invocation
  | .join => Subsearch.join nested table invocation
  | .append => Subsearch.append nested table invocation
  | .appendPipe => Subsearch.appendPipe nested table invocation
  | .multiSearch => Subsearch.multiSearch nested invocation
  | .macroCall => Subsearch.macroCall nested engine.macros table invocation

/-- Carries out a segment and checks the size of its table. The name of the directive comes
with the table. -/
def runSegment (engine : Engine) (nested : NestedRun σ) (segment : Segment) (table : Table) :
    Session σ (String × Table) :=
  match Invocation.ofSegment? segment with
  | none => .ofExcept (.error (.unknownDirective segment.keywordText))
  | some invocation => do
      let name := invocation.directive.name
      let next ← engine.apply nested table invocation
      .ofExcept ((engine.policy.admitRows name next.rows).mapError .policy)
      pure (name, next)

/-- Carries out segments one after the other, up to the first that fails. -/
def runSegments (engine : Engine) (nested : NestedRun σ) (table : Table) (store : σ) :
    List Segment → Outcome σ
  | [] => ⟨.ok table, [], store⟩
  | segment :: segments =>
      match engine.runSegment nested segment table store with
      | (.error error, store) =>
          ⟨.error (.directive segment.index segment.keywordText error), [], store⟩
      | (.ok (name, next), store) =>
          let outcome := engine.runSegments nested next store segments
          { outcome with
            entries := ⟨segment.index, name, table.rows, next.rows⟩ :: outcome.entries }

/-- The table that a query starts from: the rows of its index clause, or an empty table when
it has none. -/
def startTable (engine : Engine) (split : SplitQuery) : Except QueryError Table :=
  let selected :=
    if split.indexTokens.isEmpty then .ok Table.empty
    else (engine.indexes.select split.indexTokens).mapError QueryError.index
  match selected with
  | .error error => .error error
  | .ok table =>
      match engine.policy.admitRows "accelerator" table.rows with
      | .error error => .error (.policy error)
      | .ok () => .ok table

/-- Runs a query. -/
def runQuery (engine : Engine) (nested : NestedRun σ) (query : String) (store : σ) : Outcome σ :=
  match splitQuery query with
  | .error error => ⟨.error (.lex error), [], store⟩
  | .ok split =>
      match engine.startTable split with
      | .error error => ⟨.error error, [], store⟩
      | .ok table => engine.runSegments nested table store split.segments

/-- The segments of a pipeline, which may start with a pipe. A blank text has none. -/
def splitPipeline (text : String) : Except LexError (List Segment) :=
  let body :=
    match trim text.toList with
    | '|' :: rest => trim rest
    | rest => rest
  if body.isEmpty then .ok []
  else (splitQuery ("| " ++ String.ofList body)).map SplitQuery.segments

/-- The result of a nested run, as part of a session. -/
def asSession (run : σ → Outcome σ) : Session σ Table :=
  fun store =>
    let outcome := run store
    (outcome.result.mapError .subsearch, outcome.store)

/-- How queries inside directives are run at a depth. `fuel` bounds how much deeper they may
go; it does not run out before the nesting limit when it is at least one more than what is
left to the limit. -/
def nestedRun (engine : Engine) (depth : Nat) : Nat → NestedRun σ
  | 0 =>
      ⟨fun _ => .ofExcept (.error (.policy (.tooDeep (depth + 1) engine.policy.nesting))),
        fun _ _ => .ofExcept (.error (.policy (.tooDeep (depth + 1) engine.policy.nesting)))⟩
  | fuel + 1 =>
      { query := fun query => do
          .ofExcept ((engine.policy.admitDepth (depth + 1)).mapError .policy)
          asSession fun store => engine.runQuery (nestedRun engine (depth + 1) fuel) query store
        pipeline := fun table text => do
          .ofExcept ((engine.policy.admitDepth (depth + 1)).mapError .policy)
          let segments ← .ofExcept ((splitPipeline text).mapError .lex)
          asSession fun store =>
            engine.runSegments (nestedRun engine (depth + 1) fuel) table store segments }

/-- How queries inside the directives of a query are run. -/
def nested (engine : Engine) : NestedRun σ :=
  engine.nestedRun 0 (engine.policy.nesting + 1)

/-- Runs a query against a store. -/
def execute (engine : Engine) (query : String) (store : σ) : Outcome σ :=
  engine.runQuery engine.nested query store

/-- Runs a pipeline over a table. -/
def runPipeline (engine : Engine) (table : Table) (text : String) (store : σ) : Outcome σ :=
  match splitPipeline text with
  | .error error => ⟨.error (.lex error), [], store⟩
  | .ok segments => engine.runSegments engine.nested table store segments

end Engine

end LogPipe
