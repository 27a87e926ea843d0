import LogPipe.Decimal.Layout
import LogPipe.Decimal.Reading
import LogPipe.Text.Alphabetic
import LogPipe.Text.Blank
import LogPipe.Text.Case
import LogPipe.Text.Visible

/-!
# Tokens of formulas

The tokens of a formula are names, numbers, texts in quotes, operators and brackets.
-/

namespace LogPipe.Formula

open LogPipe.Decimal LogPipe.Text

/-- A token of a formula. -/
inductive Token where
  | name (text : String)
  | int (value : Int64)
  | float (value : Float)
  | text (value : String)
  | equal
  | assign
  | unequal
  | greater
  | greaterEqual
  | less
  | lessEqual
  | plus
  | minus
  | star
  | doubleStar
  | slash
  | percent
  | openParenthesis
  | closeParenthesis
  | openBracket
  | closeBracket
  | comma
  | dot
  | and
  | or
  | not
deriving DecidableEq, Repr

/-- The form of a token in messages. -/
def Token.label : Token → String
  | .name id => "Ident(" ++ quoted id ++ ")"
  | .int value => "Int(" ++ toString value.toInt ++ ")"
  | .float x => "Float(" ++ Layout.literal.write x ++ ")"
  | .text value => "Str(" ++ quoted value ++ ")"
  | .equal => "EqEq"
  | .assign => "Assign"
  | .unequal => "NotEq"
  | .greater => "Gt"
  | .greaterEqual => "Ge"
  | .less => "Lt"
  | .lessEqual => "Le"
  | .plus => "Plus"
  | .minus => "Minus"
  | .star => "Star"
  | .doubleStar => "StarStar"
  | .slash => "Slash"
  | .percent => "Percent"
  | .openParenthesis => "LParen"
  | .closeParenthesis => "RParen"
  | .openBracket => "LBracket"
  | .closeBracket => "RBracket"
  | .comma => "Comma"
  | .dot => "Dot"
  | .and => "And"
  | .or => "Or"
  | .not => "Not"

/-- What the grammar expected where something else stood. -/
inductive Expected where
  | closeParenthesis
  | closeBracket
  | endOfCall
  | endOfList
deriving DecidableEq, Repr

/-- The form of an expectation in messages. -/
def Expected.label : Expected → String
  | .closeParenthesis => "')'"
  | .closeBracket => "']'"
  | .endOfCall => "')' to close the call"
  | .endOfList => "']' to close the list"

/-- Why a text is no formula. Positions count characters before the tokens are known, and
tokens afterwards. -/
inductive Fault where
  | unexpectedChar (c : Char) (position : Nat)
  | unterminated (position : Nat)
  | invalidFloat (text : String)
  | unexpectedToken (position : Nat) (token : Token)
  | expected (what : Expected) (position : Nat)
  | attributeExpected
  | positionalAfterKeyword
  | unexpectedEnd
  | tooDeep
deriving DecidableEq, Repr

/-- The text of the fault. -/
def Fault.message : Fault → String
  | .unexpectedChar c position =>
      "unexpected character " ++ quotedChar c ++ " at position " ++ toString position
  | .unterminated position => "unterminated string starting at position " ++ toString position
  | .invalidFloat text => "invalid float: " ++ text
  | .unexpectedToken position token =>
      "unexpected token at position " ++ toString position ++ ": " ++ token.label
  | .expected what position => "expected " ++ what.label ++ " at position " ++ toString position
  | .attributeExpected => "expected attribute name after '.'"
  | .positionalAfterKeyword => "positional argument follows keyword argument"
  | .unexpectedEnd => "unexpected end of expression"
  | .tooDeep => "expression nests too deeply"

/-- Whether a token can be the end of an operand, so that a point after it is no number. -/
def Token.endsOperand : Token → Bool
  | .name _ => true
  | .int _ => true
  | .float _ => true
  | .text _ => true
  | .closeParenthesis => true
  | .closeBracket => true
  | _ => false

/-- Splits a text literal after its opening quote into its content and the rest. -/
def splitText (quote : Char) : List Char → Option (List Char × List Char)
  | [] => none
  | '\\' :: c :: rest =>
      let c := if c == 'n' then '\n' else if c == 't' then '\t' else c
      (splitText quote rest).map fun (content, after) => (c :: content, after)
  | c :: rest =>
      if c == quote then some ([], rest)
      else (splitText quote rest).map fun (content, after) => (c :: content, after)

/-- Splits the characters of a number from the front. `isFloat` says whether a point or an
exponent has been passed. -/
def splitNumber (isFloat : Bool) : List Char → Bool × List Char × List Char
  | [] => (isFloat, [], [])
  | [c] => if isDigit c then (isFloat, [c], []) else (isFloat, [], [c])
  | c :: d :: rest =>
      if isDigit c then
        let (isFloat, digits, after) := splitNumber isFloat (d :: rest)
        (isFloat, c :: digits, after)
      else if c == '.' && !isFloat && isDigit d then
        let (isFloat, digits, after) := splitNumber true (d :: rest)
        (isFloat, c :: digits, after)
      else if (c == 'e' || c == 'E') && (isDigit d || d == '-' || d == '+') then
        let (isFloat, digits, after) := splitNumber true rest
        (isFloat, c :: d :: digits, after)
      else
        (isFloat, [], c :: d :: rest)

/-- The token of a number. An integer out of range is a float. -/
def numberToken (isFloat : Bool) (digits : List Char) : Except Fault Token :=
  match (if isFloat then none else readInt64? digits) with
  | some value => .ok (.int value)
  | none =>
      match readFloat? digits with
      | some x => .ok (.float x)
      | none => .error (.invalidFloat (String.ofList digits))

/-- Whether a character can go on a name. -/
def isNamePart (c : Char) : Bool :=
  isAlphabetic c || isNumeric c || c == '_'

/-- The token of a word. -/
def wordToken (word : List Char) : Token :=
  let text := String.ofList word
  match asciiLower text with
  | "and" => .and
  | "or" => .or
  | "not" => .not
  | _ => .name text

/-- The operator or bracket at the front of a text, with its length. -/
def symbol? (c : Char) (next : Option Char) : Option (Token × Nat) :=
  match c, next with
  | '+', _ => some (.plus, 1)
  | '-', _ => some (.minus, 1)
  | '*', some '*' => some (.doubleStar, 2)
  | '*', _ => some (.star, 1)
  | '/', _ => some (.slash, 1)
  | '%', _ => some (.percent, 1)
  | '(', _ => some (.openParenthesis, 1)
  | ')', _ => some (.closeParenthesis, 1)
  | '[', _ => some (.openBracket, 1)
  | ']', _ => some (.closeBracket, 1)
  | ',', _ => some (.comma, 1)
  | '.', _ => some (.dot, 1)
  | '=', some '=' => some (.equal, 2)
  | '=', _ => some (.assign, 1)
  | '!', some '=' => some (.unequal, 2)
  | '!', _ => some (.not, 1)
  | '>', some '=' => some (.greaterEqual, 2)
  | '>', _ => some (.greater, 1)
  | '<', some '=' => some (.lessEqual, 2)
  | '<', some '>' => some (.unequal, 2)
  | '<', _ => some (.less, 1)
  | _, _ => none

/-- The token at the front of a text that starts with `c`, and what follows it. Texts and
numbers come before operators, so that `.5` is a number where an operand may start. -/
def nextToken (previous : Option Token) (position : Nat) (c : Char) (rest : List Char) :
    Except Fault (Token × List Char) :=
  let startsFraction :=
    c == '.' && (rest.head?.any isDigit) && !(previous.any Token.endsOperand)
  if isDigit c || startsFraction then
    let (isFloat, digits, after) := splitNumber false (c :: rest)
    (numberToken isFloat digits).map fun token => (token, after)
  else if c == '"' || c == '\'' then
    match splitText c rest with
    | some (content, after) => .ok (.text (String.ofList content), after)
    | none => .error (.unterminated position)
  else
    match symbol? c rest.head? with
    | some (token, width) => .ok (token, rest.drop (width - 1))
    | none =>
        if isAlphabetic c || c == '_' then
          .ok (wordToken (c :: rest.takeWhile isNamePart), rest.dropWhile isNamePart)
        else
          .error (.unexpectedChar c position)

/-- Reads tokens, in at most `rounds` steps. -/
def tokenizeFrom (previous : Option Token) (position : Nat) (text : List Char) :
    Nat → Except Fault (List Token)
  | 0 => .ok []
  | rounds + 1 =>
      match text with
      | [] => .ok []
      | c :: rest =>
          if isBlank c then tokenizeFrom previous (position + 1) rest rounds
          else
            match nextToken previous position c rest with
            | .error fault => .error fault
            | .ok (token, after) =>
                let passed := (c :: rest).length - after.length
                match tokenizeFrom (some token) (position + passed) after rounds with
                | .error fault => .error fault
                | .ok tokens => .ok (token :: tokens)

/-- The tokens of a text. -/
def tokenize (text : String) : Except Fault (List Token) :=
  tokenizeFrom none 0 text.toList text.toList.length

end LogPipe.Formula
