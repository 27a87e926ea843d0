import LogPipe.Directive.Access
import LogPipe.Formula.Assignment
import LogPipe.Stats.FieldSummary
import LogPipe.Stats.Running
import LogPipe.Stats.Span

/-!
# Directives that compute

They filter rows, evaluate formulas, aggregate rows, and put cells into buckets.
-/

namespace LogPipe.Aggregation

open LogPipe.Decimal LogPipe.Text

/-- Carries out `search` and `where`: the rows for which a filter is true. -/
def search (table : Table) (invocation : Invocation) : Except DirectiveError Table :=
  match FilterClause.ofTokens invocation.arguments invocation.text with
  | .error error => .error (.filter error)
  | .ok clause => (clause.apply table).mapError .filter

/-- Carries out `eval a = b + 1`. -/
def eval (seed : Nat) (table : Table) (invocation : Invocation) : Except DirectiveError Table :=
  if invocation.text.isEmpty then invocation.misused .assignmentExpected
  else (Assignment.applyClause table invocation.text seed).mapError .formula

/-- Carries out an aggregation of some form. -/
def aggregate (form : Table → StatsClause → Except StatsError Table) (table : Table)
    (invocation : Invocation) : Except DirectiveError Table :=
  match StatsClause.ofTokens invocation.arguments invocation.text with
  | .error error => .error (.stats error)
  | .ok clause => (form table clause).mapError .stats

/-- Carries out `timechart span=1h count by a`. -/
def timechart (policy : Policy) (table : Table) (invocation : Invocation) :
    Except DirectiveError Table :=
  match Span.ofText policy.span with
  | .error error => .error (.stats error)
  | .ok span => (Stats.timechart table invocation.text span).mapError .stats

/-- The buckets of a column: numeric ones when the column and the width are numbers. -/
def binColumn (name : String) (column : Column) (width : String) : Except StatsError Column :=
  let number := if column.kind == .int || column.kind == .float then
    readFloat? (trim width.toList) else none
  match number with
  | some number => Stats.binNumbers name column number
  | none =>
      match Span.ofText width with
      | .error error => .error error
      | .ok span => Stats.binTimes name column span

/-- Carries out `bin a span=10`. -/
def bin (policy : Policy) (table : Table) (invocation : Invocation) :
    Except DirectiveError Table :=
  let options := invocation.options
  match options.names with
  | [name] => do
      let column ← (table.require name).mapError .table
      let binned ← (binColumn name column ((options.option? "span").getD policy.span)).mapError
        .stats
      (table.withColumn name binned).mapError .table
  | names => invocation.misused (.oneFieldExpected names.length)

/-- Carries out `fieldsummary maxvals=10`. -/
def fieldSummary (table : Table) (invocation : Invocation) : Except DirectiveError Table :=
  if !invocation.options.positional.isEmpty then invocation.misset .onlyLimit
  else
    match invocation.count? "maxvals" with
    | .error error => .error error
    | .ok limit => (Stats.fieldSummary table (limit.getD 10)).mapError .cell

end LogPipe.Aggregation
