import LogPipe.Formula.Basic
import LogPipe.Formula.Token

/-!
# Reading formulas

The operators from the weakest to the strongest: disjunction, conjunction, negation, one
comparison, sums, products, signs, powers, and calls, members and subscripts. Sums and
products group to the left and powers to the right. A minus sign in front of a number is
folded into it. Formulas may be nested 64 deep, where disjunctions in brackets, negations,
signs and exponents each count as one level.
-/

namespace LogPipe.Formula

/-- A part of a formula with the tokens that follow it. -/
abbrev Parsed (α : Type) := Except (Nat → Fault) (α × List Token)

/-- The fault of a token where `rest` is what follows it. Faults are counted from the end of
the tokens and turned into positions once their number is known. -/
def unexpected (token : Token) (rest : List Token) (count : Nat) : Fault :=
  .unexpectedToken (count - rest.length - 1) token

/-- The fault of a missing token in front of `rest`. -/
def missing (what : Expected) (rest : List Token) (count : Nat) : Fault :=
  .expected what (count - rest.length)

/-- Reads one expected token. -/
def expect (token : Token) (what : Expected) (tokens : List Token) : Parsed Unit :=
  match tokens with
  | next :: rest => if next == token then .ok ((), rest) else .error (missing what tokens)
  | [] => .error (missing what tokens)

/-- How to read the parts of a formula that lie one level deeper. -/
structure Deeper where
  disjunction : List Token → Parsed Formula
  negation : List Token → Parsed Formula
  sign : List Token → Parsed Formula

/-- The names that give an argument by keyword. -/
def isKeywordName (name : String) : Bool :=
  name == "precision" || name == "chars"

/-- The keyword at the front of an argument. -/
def keyword? : List Token → Option (String × List Token)
  | .name id :: .assign :: rest => if isKeywordName id then some (id, rest) else none
  | _ => none

/-- Reads the arguments of a call up to its closing parenthesis, at most `rounds` of them. -/
def readArguments (deeper : Deeper) (positional : List Formula)
    (keywords : List (String × Formula)) (tokens : List Token) :
    Nat → Parsed (List Formula × List (String × Formula))
  | 0 => .error (missing .endOfCall tokens)
  | rounds + 1 =>
      let next : Parsed (List Formula × List (String × Formula)) :=
        match keyword? tokens with
        | some (keyword, rest) =>
            match deeper.disjunction rest with
            | .error fault => .error fault
            | .ok (value, rest) => .ok ((positional, keywords ++ [(keyword, value)]), rest)
        | none =>
            if !keywords.isEmpty then .error fun _ => .positionalAfterKeyword
            else
              match deeper.disjunction tokens with
              | .error fault => .error fault
              | .ok (value, rest) => .ok ((positional ++ [value], keywords), rest)
      match next with
      | .error fault => .error fault
      | .ok ((positional, keywords), rest) =>
          match rest with
          | .comma :: rest => readArguments deeper positional keywords rest rounds
          | rest =>
              match expect .closeParenthesis .endOfCall rest with
              | .error fault => .error fault
              | .ok (_, rest) => .ok ((positional, keywords), rest)

/-- Reads the items of a list up to its closing bracket, at most `rounds` of them. -/
def readItems (deeper : Deeper) (tokens : List Token) : Nat → Parsed (List Formula)
  | 0 => .error (missing .endOfList tokens)
  | rounds + 1 =>
      match deeper.disjunction tokens with
      | .error fault => .error fault
      | .ok (item, rest) =>
          match rest with
          | .comma :: rest =>
              match readItems deeper rest rounds with
              | .error fault => .error fault
              | .ok (items, rest) => .ok (item :: items, rest)
          | rest =>
              match expect .closeBracket .endOfList rest with
              | .error fault => .error fault
              | .ok (_, rest) => .ok ([item], rest)

/-- The formula of a name; some words are literals. -/
def ofName (id : String) : Formula :=
  match Text.asciiLower id with
  | "true" => .literal (.bool true)
  | "false" => .literal (.bool false)
  | "null" => .literal .null
  | "none" => .literal .null
  | _ => .name id

/-- Reads a literal, a name, a formula in parentheses or a list. -/
def readAtom (deeper : Deeper) : List Token → Parsed Formula
  | [] => .error fun _ => .unexpectedEnd
  | .int value :: rest => .ok (.literal (.int value), rest)
  | .float x :: rest => .ok (.literal (.float x), rest)
  | .text value :: rest => .ok (.literal (.text value), rest)
  | .name id :: rest => .ok (ofName id, rest)
  | .openParenthesis :: rest =>
      match deeper.disjunction rest with
      | .error fault => .error fault
      | .ok (inner, rest) =>
          match expect .closeParenthesis .closeParenthesis rest with
          | .error fault => .error fault
          | .ok (_, rest) => .ok (inner, rest)
  | .openBracket :: .closeBracket :: rest => .ok (.list [], rest)
  | .openBracket :: rest =>
      match readItems deeper rest (rest.length + 1) with
      | .error fault => .error fault
      | .ok (items, rest) => .ok (.list items, rest)
  | token :: rest => .error (unexpected token rest)

/-- Reads the calls, members and subscripts that follow an operand, at most `rounds` of
them. -/
def readSuffixes (deeper : Deeper) (formula : Formula) (tokens : List Token) :
    Nat → Parsed Formula
  | 0 => .ok (formula, tokens)
  | rounds + 1 =>
      match tokens with
      | .openParenthesis :: .closeParenthesis :: rest =>
          readSuffixes deeper (.call formula [] []) rest rounds
      | .openParenthesis :: rest =>
          match readArguments deeper [] [] rest (rest.length + 1) with
          | .error fault => .error fault
          | .ok ((arguments, keywords), rest) =>
              readSuffixes deeper (.call formula arguments keywords) rest rounds
      | .dot :: .name id :: rest => readSuffixes deeper (.member formula id) rest rounds
      | .dot :: _ => .error fun _ => .attributeExpected
      | .openBracket :: rest =>
          match deeper.disjunction rest with
          | .error fault => .error fault
          | .ok (index, rest) =>
              match expect .closeBracket .closeBracket rest with
              | .error fault => .error fault
              | .ok (_, rest) => readSuffixes deeper (.subscript formula index) rest rounds
      | rest => .ok (formula, rest)

/-- Reads an operand with its suffixes. -/
def readPostfix (deeper : Deeper) (tokens : List Token) : Parsed Formula :=
  match readAtom deeper tokens with
  | .error fault => .error fault
  | .ok (atom, rest) => readSuffixes deeper atom rest rest.length

/-- Reads a power. -/
def readPower (deeper : Deeper) (tokens : List Token) : Parsed Formula :=
  match readPostfix deeper tokens with
  | .error fault => .error fault
  | .ok (base, .doubleStar :: rest) =>
      match deeper.sign rest with
      | .error fault => .error fault
      | .ok (exponent, rest) => .ok (.arithmetic .pow base exponent, rest)
  | .ok (base, rest) => .ok (base, rest)

/-- The formula with a minus sign in front. A number takes the sign itself, except the least
integer, whose negation does not exist. -/
def negated : Formula → Formula
  | .literal (.int value) =>
      if value == Int64.minValue then .negate (.literal (.int value))
      else .literal (.int (-value))
  | .literal (.float x) => .literal (.float (-x))
  | formula => .negate formula

/-- Reads a signed power. -/
def readSign (deeper : Deeper) (tokens : List Token) : Parsed Formula :=
  match tokens with
  | .minus :: rest =>
      match deeper.sign rest with
      | .error fault => .error fault
      | .ok (operand, rest) => .ok (negated operand, rest)
  | .plus :: rest => deeper.sign rest
  | tokens => readPower deeper tokens

/-- The operator of a product. -/
def productOperator? : Token → Option Arithmetic
  | .star => some .mul
  | .slash => some .div
  | .percent => some .mod
  | _ => none

/-- The operator of a sum. -/
def sumOperator? : Token → Option Arithmetic
  | .plus => some .add
  | .minus => some .sub
  | _ => none

/-- Joins the operands that follow to the left one, at most `rounds` of them. -/
def readChain (operator? : Token → Option (Formula → Formula → Formula))
    (operand : List Token → Parsed Formula) (left : Formula) (tokens : List Token) :
    Nat → Parsed Formula
  | 0 => .ok (left, tokens)
  | rounds + 1 =>
      match tokens with
      | [] => .ok (left, [])
      | token :: rest =>
          match operator? token with
          | none => .ok (left, token :: rest)
          | some join =>
              match operand rest with
              | .error fault => .error fault
              | .ok (right, rest) => readChain operator? operand (join left right) rest rounds

/-- Reads operands joined by operators that group to the left. -/
def readLeft (operator? : Token → Option (Formula → Formula → Formula))
    (operand : List Token → Parsed Formula) (tokens : List Token) : Parsed Formula :=
  match operand tokens with
  | .error fault => .error fault
  | .ok (left, rest) => readChain operator? operand left rest rest.length

/-- Reads a product. -/
def readProduct (deeper : Deeper) : List Token → Parsed Formula :=
  readLeft (fun token => (productOperator? token).map Formula.arithmetic) (readSign deeper)

/-- Reads a sum. -/
def readSum (deeper : Deeper) : List Token → Parsed Formula :=
  readLeft (fun token => (sumOperator? token).map Formula.arithmetic) (readProduct deeper)

/-- The comparison a token stands for; a single equals sign compares, too. -/
def comparison? : Token → Option Comparison
  | .equal => some .eq
  | .assign => some .eq
  | .unequal => some .ne
  | .greater => some .gt
  | .greaterEqual => some .ge
  | .less => some .lt
  | .lessEqual => some .le
  | _ => none

/-- Reads at most one comparison. -/
def readComparison (deeper : Deeper) (tokens : List Token) : Parsed Formula :=
  match readSum deeper tokens with
  | .error fault => .error fault
  | .ok (left, []) => .ok (left, [])
  | .ok (left, token :: rest) =>
      match comparison? token with
      | none => .ok (left, token :: rest)
      | some operator =>
          match readSum deeper rest with
          | .error fault => .error fault
          | .ok (right, rest) => .ok (.compare operator left right, rest)

/-- Reads a negation. -/
def readNegation (deeper : Deeper) (tokens : List Token) : Parsed Formula :=
  match tokens with
  | .not :: rest =>
      match deeper.negation rest with
      | .error fault => .error fault
      | .ok (operand, rest) => .ok (.invert operand, rest)
  | tokens => readComparison deeper tokens

/-- The join of a conjunction. -/
def andOperator? : Token → Option (Formula → Formula → Formula)
  | .and => some .both
  | _ => none

/-- The join of a disjunction. -/
def orOperator? : Token → Option (Formula → Formula → Formula)
  | .or => some .either
  | _ => none

/-- Reads a conjunction. -/
def readConjunction (deeper : Deeper) : List Token → Parsed Formula :=
  readLeft andOperator? (readNegation deeper)

/-- Reads a disjunction. -/
def readDisjunction (deeper : Deeper) : List Token → Parsed Formula :=
  readLeft orOperator? (readConjunction deeper)

/-- The readers of a level from which `depth` more levels may be entered. -/
def deeper : Nat → Deeper
  | 0 => ⟨fun _ => .error fun _ => .tooDeep, fun _ => .error fun _ => .tooDeep,
      fun _ => .error fun _ => .tooDeep⟩
  | depth + 1 =>
      ⟨readDisjunction (deeper depth), readNegation (deeper depth), readSign (deeper depth)⟩

/-- The number of levels a formula may have. -/
def maxDepth : Nat := 64

/-- Reads a whole list of tokens as a formula. -/
def ofTokens (tokens : List Token) : Except Fault Formula :=
  match (deeper maxDepth).disjunction tokens with
  | .error fault => .error (fault tokens.length)
  | .ok (formula, []) => .ok formula
  | .ok (_, token :: rest) => .error (unexpected token rest tokens.length)

/-- Reads a text as a formula. -/
def ofText (text : String) : Except Fault Formula :=
  match tokenize text with
  | .error fault => .error fault
  | .ok tokens => ofTokens tokens

end LogPipe.Formula
