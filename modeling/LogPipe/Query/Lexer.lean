import LogPipe.Decimal.Reading
import LogPipe.Query.Token

/-!
# Reading tokens

A text is read from left to right. Blanks separate tokens and belong to none. A quote
runs to the next equal quote that no backslash precedes; a comparison operator may take
an equals sign; a sign or percent is an operator only at the start of a word. Brackets
have to be well nested.
-/

namespace LogPipe.Query

open LogPipe.Text LogPipe.Decimal

/-- The characters that start an operator. -/
def startsOperator (c : Char) : Bool :=
  c == '=' || c == '!' || c == '<' || c == '>'

/-- The characters that a word is made of. -/
def isWordPart (c : Char) : Bool :=
  !(isBlank c || isQuote c || startsOperator c ||
    c == '(' || c == ')' || c == '[' || c == ']' || c == ',')

/-- Whether a word is a number: it starts like one, has a digit and reads as a float. -/
def looksNumeric (word : List Char) : Bool :=
  match word with
  | [] => false
  | c :: rest =>
      (isDigit c || (c == '.' && !rest.isEmpty)) && word.any isDigit && (readFloat? word).isSome

/-- Splits quoted text after its opening quote into the part up to the closing quote and
the rest. A backslash keeps the next character from closing. -/
def splitQuoted (quote : Char) : List Char → Option (List Char × List Char)
  | [] => none
  | ['\\'] => none
  | '\\' :: c :: rest =>
      (splitQuoted quote rest).map fun (inside, after) => ('\\' :: c :: inside, after)
  | c :: rest =>
      if c == quote then some ([c], rest)
      else (splitQuoted quote rest).map fun (inside, after) => (c :: inside, after)

/-- Quoted text is not empty, so that what follows it is shorter. -/
theorem splitQuoted_shorter {quote : Char} {text inside after : List Char}
    (split : splitQuoted quote text = some (inside, after)) :
    after.length < text.length := by
  fun_induction splitQuoted quote text generalizing inside after with
  | case1 => simp at split
  | case2 => simp at split
  | case3 c rest induction =>
      obtain ⟨⟨tail, left⟩, found, same⟩ := Option.map_eq_some_iff.1 split
      have shorter := induction found
      simp only [Prod.mk.injEq] at same
      simp [← same.2]
      omega
  | case4 =>
      simp only [Option.some.injEq, Prod.mk.injEq] at split
      simp [← split.2]
  | case5 c rest _ _ _ induction =>
      obtain ⟨⟨tail, left⟩, found, same⟩ := Option.map_eq_some_iff.1 split
      have shorter := induction found
      simp only [Prod.mk.injEq] at same
      simp [← same.2]
      omega

/-- Dropping characters leaves a text no longer. -/
theorem length_dropWhile_le (keep : Char → Bool) (text : List Char) :
    (text.dropWhile keep).length ≤ text.length := by
  induction text with
  | nil => simp
  | cons c rest induction =>
      rw [List.dropWhile_cons]
      split
      · exact Nat.le_succ_of_le induction
      · simp

/-- A token of one character. -/
def charToken (kind : TokenKind) (c : Char) (offset : Nat) : Token :=
  ⟨kind, String.singleton c, offset⟩

/-- Reads the tokens of the rest of a text. `brackets` are the open brackets, the innermost
first, with their offsets. -/
def lexFrom (whole : String) (brackets : List (Char × Nat)) (offset : Nat)
    (text : List Char) : Except LexError (List Token) :=
  match text with
  | [] =>
      match brackets with
      | [] => .ok []
      | (opener, start) :: _ => .error (.unbalanced whole start opener)
  | c :: rest =>
      if isBlank c then
        lexFrom whole brackets (offset + c.utf8Size) rest
      else if isQuote c then
        match _split : splitQuoted c rest with
        | none => .error (.unterminated whole offset c)
        | some (inside, after) => do
            let token : Token := ⟨.quotedLiteral, String.ofList (c :: inside), offset⟩
            let tokens ← lexFrom whole brackets token.stop after
            pure (token :: tokens)
      else if c == '(' || c == '[' then do
        let tokens ← lexFrom whole ((c, offset) :: brackets) (offset + 1) rest
        pure (charToken .punctuation c offset :: tokens)
      else if c == ')' || c == ']' then
        match brackets with
        | (opener, _) :: outer =>
            if closerOf opener == c then do
              let tokens ← lexFrom whole outer (offset + 1) rest
              pure (charToken .punctuation c offset :: tokens)
            else
              .error (.unbalanced whole offset c)
        | [] => .error (.unbalanced whole offset c)
      else if c == ',' then do
        let tokens ← lexFrom whole brackets (offset + 1) rest
        pure (charToken .punctuation c offset :: tokens)
      else if startsOperator c then
        match rest with
        | '=' :: after => do
            let tokens ← lexFrom whole brackets (offset + 2) after
            pure (⟨.operator, String.ofList [c, '='], offset⟩ :: tokens)
        | after => do
            let tokens ← lexFrom whole brackets (offset + 1) after
            pure (charToken .operator c offset :: tokens)
      else if c == '-' || c == '+' || c == '%' then do
        let tokens ← lexFrom whole brackets (offset + 1) rest
        pure (charToken .operator c offset :: tokens)
      else do
        let word := c :: rest.takeWhile isWordPart
        let kind := if looksNumeric word then TokenKind.number else .identifier
        let token : Token := ⟨kind, String.ofList word, offset⟩
        let tokens ← lexFrom whole brackets token.stop (rest.dropWhile isWordPart)
        pure (token :: tokens)
termination_by text.length
decreasing_by
  · exact Nat.lt_succ_self _
  · exact Nat.lt_succ_of_lt (splitQuoted_shorter _split)
  · exact Nat.lt_succ_self _
  · exact Nat.lt_succ_self _
  · exact Nat.lt_succ_self _
  · exact Nat.lt_succ_of_lt (Nat.lt_succ_self _)
  · exact Nat.lt_succ_self _
  · exact Nat.lt_succ_self _
  · exact Nat.lt_succ_of_le (length_dropWhile_le isWordPart _)

/-- Reads the tokens of a text. -/
def lex (text : String) : Except LexError (List Token) :=
  lexFrom text [] 0 text.toList

end LogPipe.Query
