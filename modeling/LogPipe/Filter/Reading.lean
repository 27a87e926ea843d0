import LogPipe.Query.Lexer
import LogPipe.Table.Basic

/-!
# Row filters

A filter is a predicate over the rows of a table: comparisons, membership in a list of
literals, columns taken as truth values, and conjunctions and disjunctions of these.
-/

namespace LogPipe

open LogPipe.Text

/-- A predicate over rows, or a part of one. -/
inductive Filter where
  | compare (operator : Comparison) (left right : Filter)
  | both (left right : Filter)
  | either (left right : Filter)
  | member (field : String) (values : List Cell)
  | column (name : String)
  | literal (value : Cell)
deriving DecidableEq, Repr

/-- Why a text is not a filter. -/
inductive FilterFault where
  | unexpected (value : String) (offset : Nat)
  | unexpectedEnd
  | keywordAlone (value : String) (offset : Nat)
  | listNeedsField
  | listNeedsParenthesis
  | listNeedsComma
  | listHasField (name : String)
  | listIsEmpty
  | tooDeep
  | unclosedParenthesis
  | notPredicate (value : String)
deriving DecidableEq, Repr

/-- The text of the fault. -/
def FilterFault.message : FilterFault → String
  | .unexpected value offset => "unexpected " ++ quoted value ++ " at offset " ++ toString offset
  | .unexpectedEnd => "unexpected end of filter"
  | .keywordAlone value offset =>
      "keyword " ++ quoted value ++ " at offset " ++ toString offset ++ " has no left operand"
  | .listNeedsField => "IN requires a field name on its left"
  | .listNeedsParenthesis => "IN must be followed by a parenthesized list"
  | .listNeedsComma => "IN list items must be separated by commas"
  | .listHasField name => "IN list accepts literals only, found field " ++ quoted name
  | .listIsEmpty => "IN list must not be empty"
  | .tooDeep => "parentheses nest too deeply"
  | .unclosedParenthesis => "missing closing parenthesis"
  | .notPredicate value => "literal " ++ quoted value ++ " is not a predicate"

/-- Why a table cannot be filtered. -/
inductive FilterError where
  | malformed (clause : String) (fault : FilterFault)
  | missingColumn (name : String)
  | lex (error : Query.LexError)
  | column (error : ColumnError)
  | table (error : TableError)
deriving DecidableEq, Repr

/-- The text of the error. -/
def FilterError.message : FilterError → String
  | .malformed clause fault =>
      "syntax error in filter " ++ quoted clause ++ ": " ++ fault.message
  | .missingColumn name => "filter references missing column " ++ quoted name
  | .lex error => error.message
  | .column error => error.message
  | .table error => error.message

end LogPipe

/-!
## Reading filters

Disjunction binds weakest. Predicates are joined by a keyword or by standing next to each
other, and both mean conjunction. A predicate is an operand, one comparison of two
operands, or the membership of a field in a list of literals; an operand may be a filter
in parentheses, nested up to 128 deep.
-/

namespace LogPipe.Filter

open LogPipe.Query

/-- A part of a filter with the tokens that follow it. -/
abbrev Parsed (α : Type) := Except FilterFault (α × List Token)

/-- Whether a token is one of the keywords that join or test predicates. -/
def isKeyword (token : Token) : Bool :=
  token.isKeyword "AND" || token.isKeyword "OR" || token.isKeyword "IN"

/-- Whether a token can start an operand. -/
def startsOperand (token : Token) : Bool :=
  match token.kind with
  | .quotedLiteral => true
  | .number => true
  | .identifier => !isKeyword token
  | .punctuation => token.value == "("
  | .operator => token.value == "-"

/-- The fault of a token that does not belong where it stands. -/
def unexpected (token : Token) : FilterFault :=
  .unexpected token.value token.offset

/-- Reads a literal or a column name. -/
def readOperand : List Token → Parsed Filter
  | [] => .error .unexpectedEnd
  | token :: rest =>
      match token.kind with
      | .quotedLiteral => .ok (.literal (.text token.unquoted), rest)
      | .number => .ok (.literal (Cell.infer token.value), rest)
      | .operator =>
          if token.value == "-" then
            match rest with
            | next :: after =>
                if next.kind == .number then
                  .ok (.literal (Cell.infer ("-" ++ next.value)), after)
                else
                  .error (unexpected token)
            | [] => .error (unexpected token)
          else
            .error (unexpected token)
      | .identifier =>
          if token.isKeyword "true" then .ok (.literal (.bool true), rest)
          else if token.isKeyword "false" then .ok (.literal (.bool false), rest)
          else if isKeyword token then .error (.keywordAlone token.value token.offset)
          else .ok (.column token.value, rest)
      | .punctuation => .error (unexpected token)

/-- Reads a literal. -/
def readLiteral (tokens : List Token) : Parsed Cell :=
  match readOperand tokens with
  | .error fault => .error fault
  | .ok (.literal value, rest) => .ok (value, rest)
  | .ok (.column name, _) => .error (.listHasField name)
  | .ok (_, _) => .error .unexpectedEnd

/-- Reads the rest of a list after its first item, up to `rounds` further items. -/
def readListTail (tokens : List Token) : Nat → Parsed (List Cell)
  | 0 => .error .unexpectedEnd
  | rounds + 1 =>
      match tokens with
      | [] => .error .listNeedsComma
      | token :: rest =>
          if token.isPunctuation ")" then .ok ([], rest)
          else if token.isPunctuation "," then
            match readLiteral rest with
            | .error fault => .error fault
            | .ok (value, rest) =>
                match readListTail rest rounds with
                | .error fault => .error fault
                | .ok (values, rest) => .ok (value :: values, rest)
          else .error .listNeedsComma

/-- Reads a list of literals in parentheses. -/
def readList (tokens : List Token) : Parsed (List Cell) :=
  match tokens with
  | [] => .error .listNeedsParenthesis
  | token :: rest =>
      if !token.isPunctuation "(" then .error .listNeedsParenthesis
      else if rest.head?.any fun next => next.isPunctuation ")" then .error .listIsEmpty
      else
        match readLiteral rest with
        | .error fault => .error fault
        | .ok (value, after) =>
            match readListTail after rest.length with
            | .error fault => .error fault
            | .ok (values, after) => .ok (value :: values, after)

/-- The comparison a token stands for. -/
def comparison? (token : Token) : Option Comparison :=
  if token.kind != .operator then none
  else
    match token.value with
    | "=" => some .eq
    | "==" => some .eq
    | "!=" => some .ne
    | "<" => some .lt
    | "<=" => some .le
    | ">" => some .gt
    | ">=" => some .ge
    | _ => none

/-- Reads one predicate, given how to read an operand. -/
def readPredicate (operand : List Token → Parsed Filter) (tokens : List Token) :
    Parsed Filter :=
  match operand tokens with
  | .error fault => .error fault
  | .ok (left, []) => .ok (left, [])
  | .ok (left, token :: rest) =>
      if token.isKeyword "IN" then
        match left with
        | .column name =>
            match readList rest with
            | .error fault => .error fault
            | .ok (values, rest) => .ok (.member name values, rest)
        | _ => .error .listNeedsField
      else
        match comparison? token with
        | none => .ok (left, token :: rest)
        | some operator =>
            match operand rest with
            | .error fault => .error fault
            | .ok (right, rest) => .ok (.compare operator left right, rest)

/-- Joins the predicates that follow to the left one, up to `rounds` of them. -/
def readConjuncts (operand : List Token → Parsed Filter) (left : Filter)
    (tokens : List Token) : Nat → Parsed Filter
  | 0 => .ok (left, tokens)
  | rounds + 1 =>
      match tokens with
      | [] => .ok (left, [])
      | token :: rest =>
          let next :=
            if token.isKeyword "AND" then some rest
            else if startsOperand token then some (token :: rest)
            else none
          match next with
          | none => .ok (left, token :: rest)
          | some tokens =>
              match readPredicate operand tokens with
              | .error fault => .error fault
              | .ok (right, rest) => readConjuncts operand (.both left right) rest rounds

/-- Reads a conjunction. -/
def readConjunction (operand : List Token → Parsed Filter) (tokens : List Token) :
    Parsed Filter :=
  match readPredicate operand tokens with
  | .error fault => .error fault
  | .ok (left, rest) => readConjuncts operand left rest rest.length

/-- Joins the conjunctions that follow to the left one, up to `rounds` of them. -/
def readDisjuncts (operand : List Token → Parsed Filter) (left : Filter)
    (tokens : List Token) : Nat → Parsed Filter
  | 0 => .ok (left, tokens)
  | rounds + 1 =>
      match tokens with
      | [] => .ok (left, [])
      | token :: rest =>
          if token.isKeyword "OR" then
            match readConjunction operand rest with
            | .error fault => .error fault
            | .ok (right, rest) => readDisjuncts operand (.either left right) rest rounds
          else
            .ok (left, token :: rest)

/-- Reads a disjunction. -/
def readDisjunction (operand : List Token → Parsed Filter) (tokens : List Token) :
    Parsed Filter :=
  match readConjunction operand tokens with
  | .error fault => .error fault
  | .ok (left, rest) => readDisjuncts operand left rest rest.length

/-- Reads an operand in which parentheses may still be nested `depth` deep. -/
def readPrimary : Nat → List Token → Parsed Filter
  | depth, tokens =>
      match tokens with
      | [] => readOperand []
      | token :: rest =>
          if token.isPunctuation "(" then
            match depth with
            | 0 => .error .tooDeep
            | depth + 1 =>
                match readDisjunction (readPrimary depth) rest with
                | .error fault => .error fault
                | .ok (_, []) => .error .unclosedParenthesis
                | .ok (inner, closing :: rest) =>
                    if closing.isPunctuation ")" then .ok (inner, rest)
                    else .error .unclosedParenthesis
          else
            readOperand (token :: rest)

/-- How deep parentheses may be nested. -/
def maxNesting : Nat := 128

/-- Reads a whole list of tokens as a filter. -/
def ofTokens (tokens : List Token) : Except FilterFault Filter :=
  match readDisjunction (readPrimary maxNesting) tokens with
  | .error fault => .error fault
  | .ok (filter, []) => .ok filter
  | .ok (_, token :: _) => .error (unexpected token)

end LogPipe.Filter
