import LogPipe.Directive.Error

/-!
# Kinds of errors

Every error of a query is of one of nine kinds, for those who handle errors without
looking into them. An error inside a subsearch has the kind of its cause.
-/

namespace LogPipe

/-- The kinds of errors. -/
inductive ErrorKind where
  | malformed
  | nameNotAllowed
  | disallowedConstruct
  | unknownDirective
  | configuration
  | missingColumn
  | aggregation
  | type
  | collaborator
deriving DecidableEq, Repr

namespace ErrorKind

/-- The name of a kind. -/
def name : ErrorKind → String
  | malformed => "syntax"
  | nameNotAllowed => "name_not_allowed"
  | disallowedConstruct => "disallowed_construct"
  | unknownDirective => "unknown_directive"
  | configuration => "configuration"
  | missingColumn => "missing_column"
  | aggregation => "aggregation"
  | type => "type"
  | collaborator => "collaborator"

/-- The kind of an error of a table. -/
def ofTable : TableError → ErrorKind
  | .missingColumn _ => missingColumn
  | .duplicateColumn _ => configuration
  | .lengthMismatch .. => type
  | .column _ => type

/-- The kind of an error of a filter. -/
def ofFilter : FilterError → ErrorKind
  | .malformed .. => malformed
  | .lex _ => malformed
  | .missingColumn _ => missingColumn
  | .column _ => type
  | .table error => ofTable error

/-- The kind of an error of a formula. -/
def ofFormula : FormulaError → ErrorKind
  | .malformed .. => malformed
  | .invalidAssignment _ => malformed
  | .lex _ => malformed
  | .unknownName _ => nameNotAllowed
  | .disallowed _ => disallowedConstruct
  | .arity .. => configuration
  | .unexpectedKeyword .. => configuration
  | .invalidArgument .. => type
  | .cell _ => type
  | .column _ => type
  | .table error => ofTable error

/-- The kind of an error of an aggregation. -/
def ofStats : StatsError → ErrorKind
  | .unknownFunction _ => aggregation
  | .malformed .. => malformed
  | .noFunctions => malformed
  | .lex _ => malformed
  | .duplicateAlias _ => configuration
  | .fieldRequired _ => configuration
  | .invalidSpan _ => configuration
  | .missingColumn _ => missingColumn
  | .invalidTime .. => type
  | .cell _ => type
  | .column _ => type
  | .table error => ofTable error

/-- The kind of an error of a join. -/
def ofJoin : JoinError → ErrorKind
  | .noKeys => malformed
  | .missingKey .. => missingColumn
  | .table error => ofTable error
  | .column _ => type

end ErrorKind

mutual

/-- The kind of the error. -/
def DirectiveError.kind : DirectiveError → ErrorKind
  | .unknownDirective _ => .unknownDirective
  | .usage .. => .malformed
  | .pattern _ => .malformed
  | .lex _ => .malformed
  | .setting .. => .configuration
  | .unknownMacro _ => .configuration
  | .policy _ => .configuration
  | .missingColumn _ => .missingColumn
  | .conversion .. => .type
  | .cell _ => .type
  | .subsearch error => error.kind
  | .filter error => ErrorKind.ofFilter error
  | .formula error => ErrorKind.ofFormula error
  | .stats error => ErrorKind.ofStats error
  | .join error => ErrorKind.ofJoin error
  | .table error => ErrorKind.ofTable error
  | .lookup _ => .collaborator

/-- The kind of the error. -/
def QueryError.kind : QueryError → ErrorKind
  | .lex _ => .malformed
  | .index _ => .collaborator
  | .policy _ => .configuration
  | .directive _ _ error => error.kind

end

end LogPipe
