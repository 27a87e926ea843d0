import LogPipe.Formula.Builtin
import LogPipe.Formula.Token
import LogPipe.Query.Token
import LogPipe.Table.Basic

/-!
# Formulas

A formula computes a column from the columns of a table. Its grammar is wider than what may
be evaluated: members, subscripts and computed callees can be written, so that they can
be refused by what they are.
-/

/-!
## Errors of formulas

Everything that can be wrong with a formula: its text, what it refers to, the arguments of
its calls, and the cells it meets.
-/

namespace LogPipe.Formula

open LogPipe.Decimal LogPipe.Text

/-- What a formula may be written with but not contain. -/
inductive Disallowed where
  | uncalled (function : String)
  | call (id : String)
  | member (id : String)
  | method (id : String)
  | subscript
  | computedCallee
deriving DecidableEq, Repr

/-- What is refused, in messages. -/
def Disallowed.message : Disallowed → String
  | .uncalled id => "function " ++ quoted id ++ " referenced without a call"
  | .call id => "call to " ++ quoted id ++ " is not allowed"
  | .member id => "attribute access ." ++ id
  | .method id => "method call ." ++ id ++ "()"
  | .subscript => "subscript"
  | .computedCallee => "indirect call through a computed callee"

/-- Why a function refuses an argument. -/
inductive ArgumentFault where
  | notInteger (written : String)
  | notNumber (written : String)
  | precisionRange
  | intRange (value : Int64)
  | floatRange (value : Float)
  | notBase64
deriving DecidableEq, Repr

/-- The text of the fault. -/
def ArgumentFault.message : ArgumentFault → String
  | .notInteger written => "expected an integer, got " ++ quoted written
  | .notNumber written => "expected a number, got " ++ quoted written
  | .precisionRange => "precision out of range"
  | .intRange value => toString value.toInt ++ " is out of range"
  | .floatRange value => Layout.plain.write value ++ " is out of range"
  | .notBase64 => "not Base64 text"

end LogPipe.Formula

namespace LogPipe

open LogPipe.Formula LogPipe.Text

/-- Why a formula has no value. -/
inductive FormulaError where
  | malformed (text : String) (fault : Fault)
  | invalidAssignment (text : String)
  | unknownName (id : String)
  | disallowed (what : Disallowed)
  | arity (function : Builtin) (given : Nat)
  | unexpectedKeyword (function : Builtin) (keyword : String)
  | invalidArgument (function : Builtin) (fault : ArgumentFault)
  | lex (error : Query.LexError)
  | cell (error : CellError)
  | column (error : ColumnError)
  | table (error : TableError)
deriving DecidableEq, Repr

/-- The text of the error. -/
def FormulaError.message : FormulaError → String
  | .malformed text fault =>
      "syntax error in expression " ++ quoted text ++ ": " ++ fault.message
  | .invalidAssignment text =>
      "invalid assignment " ++ quoted text ++ ": expected \x60field = expression\x60"
  | .unknownName id => "name " ++ quoted id ++ " is neither a column nor an allowed function"
  | .disallowed what => "disallowed construct: " ++ what.message
  | .arity function given =>
      function.name ++ "() takes " ++ function.arity.label ++ " arguments, got " ++ toString given
  | .unexpectedKeyword function keyword =>
      function.name ++ "() got an unexpected keyword argument " ++ quoted keyword
  | .invalidArgument function fault => function.name ++ "(): " ++ fault.message
  | .lex error => error.message
  | .cell error => error.message
  | .column error => error.message
  | .table error => error.message

end LogPipe

/-! ## Trees -/

namespace LogPipe

/-- The tree of a formula. -/
inductive Formula where
  | literal (value : Cell)
  | name (id : String)
  | negate (operand : Formula)
  | invert (operand : Formula)
  | arithmetic (operator : Arithmetic) (left right : Formula)
  | compare (operator : Comparison) (left right : Formula)
  | both (left right : Formula)
  | either (left right : Formula)
  | call (callee : Formula) (arguments : List Formula) (keywords : List (String × Formula))
  | member (value : Formula) (id : String)
  | subscript (value index : Formula)
  | list (items : List Formula)
deriving Repr

end LogPipe

/-! ## What formulas may contain

Before a formula is evaluated, all of it is checked: every name is a column, every call
names a function of the library, and there are no members and no subscripts.
-/

namespace LogPipe.Formula

/-- The function a callee names. -/
def calledFunction : Formula → Except FormulaError Builtin
  | .name id =>
      match Builtin.ofName? id with
      | some builtin => .ok builtin
      | none => .error (.disallowed (.call id))
  | .member _ id => .error (.disallowed (.method id))
  | _ => .error (.disallowed .computedCallee)

/-- Checks that a name is a column. -/
def permitName (table : Table) (id : String) : Except FormulaError Unit :=
  if table.hasColumn id then .ok ()
  else if (Builtin.ofName? id).isSome then .error (.disallowed (.uncalled id))
  else .error (.unknownName id)

mutual

/-- Checks a formula from left to right. -/
def permit (table : Table) : Formula → Except FormulaError Unit
  | .literal _ => .ok ()
  | .name id => permitName table id
  | .negate operand => permit table operand
  | .invert operand => permit table operand
  | .arithmetic _ left right => do
      permit table left
      permit table right
  | .compare _ left right => do
      permit table left
      permit table right
  | .both left right => do
      permit table left
      permit table right
  | .either left right => do
      permit table left
      permit table right
  | .call callee arguments keywords => do
      let _ ← calledFunction callee
      permitAll table arguments
      permitKeywords table keywords
  | .member _ id => .error (.disallowed (.member id))
  | .subscript _ _ => .error (.disallowed .subscript)
  | .list items => permitAll table items

/-- Checks formulas one after the other. -/
def permitAll (table : Table) : List Formula → Except FormulaError Unit
  | [] => .ok ()
  | formula :: formulas => do
      permit table formula
      permitAll table formulas

/-- Checks the values of keywords one after the other. -/
def permitKeywords (table : Table) : List (String × Formula) → Except FormulaError Unit
  | [] => .ok ()
  | (_, value) :: keywords => do
      permit table value
      permitKeywords table keywords

end

end LogPipe.Formula
