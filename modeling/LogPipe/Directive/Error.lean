import LogPipe.Directive.Basic
import LogPipe.Engine.PolicyReading
import LogPipe.Filter.Mask
import LogPipe.Formula.Basic
import LogPipe.Lookup.Memory
import LogPipe.Pattern.Reading
import LogPipe.Stats.Clause
import LogPipe.Table.Join

/-!
# Errors of directives and queries

A directive fails on its arguments, on its table, on what it reaches outside, or because a
query inside it fails. A query fails before its first directive or in one of them.
-/

namespace LogPipe

open LogPipe.Text

/-- Why the arguments of a directive cannot be read. -/
inductive UsageFault where
  | assignmentExpected
  | fieldExpected
  | fieldsExpected
  | oneFieldExpected (given : Nat)
  | twoFieldsExpected
  | joinFieldExpected
  | keyExpected
  | renamePairs
  | asExpected (found : String)
  | nameAfterAs
  | rowCount
  | sortKey (found : String)
  | fieldAndIndex
  | indexExpected
  | badIndex (found : String)
  | fieldAndPattern
  | fieldAndValue
  | fieldEqualsPattern
  | onePattern (given : Nat)
  | badSubstitution (text : String)
  | modeAndFields
  | unknownMode (mode : String)
  | lookupAndKeys
  | outputFields
  | oneLookup
  | oneSubsearch (given : Nat)
  | twoSubsearches
  | argumentsAfterCall
  | badCall (text : String)
deriving DecidableEq, Repr

/-- The text of the fault. -/
def UsageFault.message : UsageFault → String
  | .assignmentExpected => "expected at least one assignment"
  | .fieldExpected => "expected a field"
  | .fieldsExpected => "expected at least one field"
  | .oneFieldExpected given => "expected one field, got " ++ toString given
  | .twoFieldsExpected => "expected two fields"
  | .joinFieldExpected => "expected at least one join field"
  | .keyExpected => "expected at least one key field"
  | .renamePairs => "expected \x60<field> as <new>\x60 pairs"
  | .asExpected found => "expected \x60as\x60, got " ++ quoted found
  | .nameAfterAs => "expected a name after \x60as\x60"
  | .rowCount => "expected a row count"
  | .sortKey found => "unexpected " ++ quoted found
  | .fieldAndIndex => "expected a field and an index"
  | .indexExpected => "expected at least one index"
  | .badIndex found => "invalid index " ++ quoted found
  | .fieldAndPattern => "expected a field and a pattern"
  | .fieldAndValue => "expected <field> <value>"
  | .fieldEqualsPattern => "expected <field>=\"<pattern>\""
  | .onePattern given => "expected one pattern, got " ++ toString given
  | .badSubstitution text => "invalid sed expression " ++ quoted text
  | .modeAndFields => "expected encode|decode and fields"
  | .unknownMode mode => "unknown mode " ++ quoted mode
  | .lookupAndKeys => "expected a lookup name and key fields"
  | .outputFields => "expected fields after OUTPUT"
  | .oneLookup => "expected one lookup name"
  | .oneSubsearch given => "expected one [subsearch], got " ++ toString given
  | .twoSubsearches => "expected at least two [subsearches]"
  | .argumentsAfterCall => "unexpected arguments after the macro call"
  | .badCall text => "invalid macro call " ++ quoted text

/-- Why the settings of a directive make no sense. -/
inductive SettingFault where
  | badValue (key value : String)
  | noRows
  | noCount
  | valueRequired
  | fieldRequired
  | noNamedGroups
  | appendAndOverwrite
  | onlyLimit
  | unknownJoin (name : String)
deriving DecidableEq, Repr

/-- The text of the fault. -/
def SettingFault.message : SettingFault → String
  | .badValue key value => "invalid value " ++ quoted value ++ " for " ++ key
  | .noRows => "row count must be at least 1"
  | .noCount => "count must be at least 1"
  | .valueRequired => "value= is required"
  | .fieldRequired => "field= is required"
  | .noNamedGroups => "pattern has no named groups"
  | .appendAndOverwrite => "append and overwrite are mutually exclusive"
  | .onlyLimit => "only maxvals= is accepted"
  | .unknownJoin name => "unknown join type " ++ quoted name

/-- What the text of a cell cannot be read as. -/
inductive ConversionFault where
  | notBase64
  | notJson
deriving DecidableEq, Repr

/-- The text of the fault. -/
def ConversionFault.message : ConversionFault → String
  | .notBase64 => "not Base64 text"
  | .notJson => "not JSON"

mutual

/-- Why a directive fails. -/
inductive DirectiveError where
  | unknownDirective (keyword : String)
  | usage (directive : Directive) (fault : UsageFault)
  | setting (directive : Directive) (fault : SettingFault)
  | missingColumn (name : String)
  | conversion (directive : Directive) (value : String) (fault : ConversionFault)
  | unknownMacro (name : String)
  | pattern (fault : Pattern.PatternFault)
  | subsearch (error : QueryError)
  | filter (error : FilterError)
  | formula (error : FormulaError)
  | stats (error : StatsError)
  | join (error : JoinError)
  | table (error : TableError)
  | cell (error : CellError)
  | lex (error : Query.LexError)
  | policy (error : PolicyError)
  | lookup (error : LookupError)

/-- Why a query fails. -/
inductive QueryError where
  | lex (error : Query.LexError)
  | index (error : IndexError)
  | policy (error : PolicyError)
  | directive (place : Nat) (keyword : String) (error : DirectiveError)

end

mutual

/-- The text of the error. -/
def DirectiveError.message : DirectiveError → String
  | .unknownDirective keyword => "unknown directive " ++ quoted keyword
  | .usage directive fault => "invalid " ++ directive.name ++ " arguments: " ++ fault.message
  | .setting directive fault => directive.name ++ ": " ++ fault.message
  | .missingColumn name => "column " ++ quoted name ++ " does not exist"
  | .conversion directive value fault =>
      directive.name ++ ": cannot convert " ++ quoted value ++ ": " ++ fault.message
  | .unknownMacro name => "unknown macro " ++ quoted name
  | .pattern fault => "invalid regular expression: " ++ fault.message
  | .subsearch error => "subsearch failed: " ++ error.message
  | .filter error => error.message
  | .formula error => error.message
  | .stats error => error.message
  | .join error => error.message
  | .table error => error.message
  | .cell error => error.message
  | .lex error => error.message
  | .policy error => error.message
  | .lookup error => error.message

/-- The text of the error. -/
def QueryError.message : QueryError → String
  | .lex error => error.message
  | .index error => "accelerator failed: " ++ error.message
  | .policy error => error.message
  | .directive place keyword error =>
      "directive " ++ toString place ++ " (" ++ keyword ++ ") failed: " ++ error.message

end

namespace QueryError

/-- The place and the keyword of the directive that failed, if one was running. -/
def directive? : QueryError → Option (Nat × String)
  | .directive place keyword _ => some (place, keyword)
  | _ => none

end QueryError

end LogPipe
