/-!
# Functions of formulas

The functions a formula may call, by name. Names are matched exactly.
-/

namespace LogPipe.Formula

/-- The functions a formula may call. -/
inductive Builtin where
  | choose
  | case
  | toNumber
  | toText
  | lower
  | upper
  | trim
  | trimLeft
  | trimRight
  | round
  | concat
  | coalesce
  | isNull
  | isNotNull
  | encodeBase64
  | decodeBase64
  | average
  | randomize
  | min
  | max
  | sum
  | median
  | mode
  | squareRoot
  | distinctCount
  | range
  | absolute
  | length
deriving DecidableEq, Repr

namespace Builtin

/-- All functions. -/
def all : List Builtin :=
  [.choose, .case, .toNumber, .toText, .lower, .upper, .trim, .trimLeft, .trimRight, .round,
    .concat, .coalesce, .isNull, .isNotNull, .encodeBase64, .decodeBase64, .average,
    .randomize, .min, .max, .sum, .median, .mode, .squareRoot, .distinctCount, .range,
    .absolute, .length]

/-- The name of a function in formulas and messages. -/
def name : Builtin → String
  | .choose => "if_"
  | .case => "case"
  | .toNumber => "tonumber"
  | .toText => "tostring"
  | .lower => "lower"
  | .upper => "upper"
  | .trim => "trim"
  | .trimLeft => "ltrim"
  | .trimRight => "rtrim"
  | .round => "round"
  | .concat => "concat"
  | .coalesce => "coalesce"
  | .isNull => "isnull"
  | .isNotNull => "isnotnull"
  | .encodeBase64 => "base64_encode"
  | .decodeBase64 => "base64_decode"
  | .average => "avg"
  | .randomize => "randomize"
  | .min => "min"
  | .max => "max"
  | .sum => "sum"
  | .median => "median"
  | .mode => "mode"
  | .squareRoot => "sqrt"
  | .distinctCount => "dcount"
  | .range => "range"
  | .absolute => "abs"
  | .length => "len"

/-- The function with a given name. -/
def ofName? (name : String) : Option Builtin :=
  all.find? fun builtin => builtin.name == name

/-- How many arguments a function takes. -/
inductive Arity where
  | exactly (count : Nat)
  | atLeast (count : Nat)
  | oneOrTwo
deriving DecidableEq, Repr

/-- The number of arguments in messages. -/
def Arity.label : Arity → String
  | .exactly count => "exactly " ++ toString count
  | .atLeast count => "at least " ++ toString count
  | .oneOrTwo => "1 or 2"

/-- Whether a number of arguments fits. -/
def Arity.admits : Arity → Nat → Bool
  | .exactly count, given => given == count
  | .atLeast count, given => count ≤ given
  | .oneOrTwo, given => given == 1 || given == 2

/-- How many arguments each function takes. -/
def arity : Builtin → Arity
  | .choose => .exactly 3
  | .case => .atLeast 2
  | .toNumber => .oneOrTwo
  | .trim => .oneOrTwo
  | .trimLeft => .oneOrTwo
  | .trimRight => .oneOrTwo
  | .round => .oneOrTwo
  | .concat => .atLeast 1
  | .coalesce => .atLeast 1
  | .average => .atLeast 1
  | .min => .atLeast 1
  | .max => .atLeast 1
  | .sum => .atLeast 1
  | .median => .atLeast 1
  | .mode => .atLeast 1
  | .distinctCount => .atLeast 1
  | .range => .atLeast 1
  | _ => .exactly 1

/-- The keyword under which a function takes its last argument, too. -/
def keyword? : Builtin → Option String
  | .round => some "precision"
  | .trim => some "chars"
  | .trimLeft => some "chars"
  | .trimRight => some "chars"
  | _ => none

end Builtin

end LogPipe.Formula
