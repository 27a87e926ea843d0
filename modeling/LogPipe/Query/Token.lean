import LogPipe.Text.Blank
import LogPipe.Text.Case
import LogPipe.Text.Visible

/-!
# Tokens of query text

A token is an exact slice of the text it was read from, together with its byte offset.
Quoted literals keep their quotes; `unquote` takes them off.
-/

namespace LogPipe.Query

open LogPipe.Text

/-- What a token is. -/
inductive TokenKind where
  | identifier
  | quotedLiteral
  | number
  | operator
  | punctuation
deriving DecidableEq, Repr

/-- A slice of query text. -/
structure Token where
  kind : TokenKind
  value : String
  /-- The byte offset of the slice. -/
  offset : Nat
deriving DecidableEq, Repr

/-- The characters that open and close quoted text. -/
def isQuote (c : Char) : Bool :=
  c == '"' || c == '\'' || c == '\x60'

/-- Resolves escaped quotes; every other backslash stays. -/
def resolveEscapes (quote : Char) : List Char → List Char
  | '\\' :: c :: rest =>
      if c == quote then quote :: resolveEscapes quote rest
      else '\\' :: resolveEscapes quote (c :: rest)
  | c :: rest => c :: resolveEscapes quote rest
  | [] => []

/-- Takes one pair of matching quotes off a text. A text without such a pair is kept. -/
def unquoteChars (text : List Char) : List Char :=
  match text with
  | [] => []
  | quote :: rest =>
      if isQuote quote && rest.getLast? == some quote then
        resolveEscapes quote rest.dropLast
      else
        text

/-- Takes one pair of matching quotes off a string. -/
def unquote (text : String) : String :=
  String.ofList (unquoteChars text.toList)

namespace Token

/-- Whether a token is the given keyword, in any letter case. -/
def isKeyword (token : Token) (keyword : String) : Bool :=
  token.kind == .identifier && sameIgnoringCase token.value keyword

/-- Whether a token is the given punctuation. -/
def isPunctuation (token : Token) (mark : String) : Bool :=
  token.kind == .punctuation && token.value == mark

/-- Whether a token is the given operator. -/
def isOperator (token : Token) (operator : String) : Bool :=
  token.kind == .operator && token.value == operator

/-- The content of a token: a quoted literal without its quotes, anything else as it is. -/
def unquoted (token : Token) : String :=
  if token.kind == .quotedLiteral then unquote token.value else token.value

/-- The byte offset after the token. -/
def stop (token : Token) : Nat :=
  token.offset + token.value.utf8ByteSize

end Token

/-- Why query text cannot be read. -/
inductive LexError where
  | unterminated (segment : String) (offset : Nat) (delimiter : Char)
  | unbalanced (segment : String) (offset : Nat) (delimiter : Char)
  | emptySegment (query : String) (offset : Nat)
deriving DecidableEq, Repr

/-- The text of the error. -/
def LexError.message : LexError → String
  | .unterminated segment offset delimiter =>
      "unterminated " ++ String.singleton delimiter ++ " quote starting at offset " ++
        toString offset ++ " in " ++ quoted segment
  | .unbalanced segment offset delimiter =>
      "unbalanced " ++ quotedChar delimiter ++ " at offset " ++ toString offset ++ " in " ++
        quoted segment
  | .emptySegment query offset =>
      "empty pipeline segment at offset " ++ toString offset ++ " in " ++ quoted query

/-- The text from a byte offset on. -/
def dropBytes (count : Nat) : List Char → List Char
  | [] => []
  | c :: rest => if count == 0 then c :: rest else dropBytes (count - c.utf8Size) rest

/-- The bracket that closes an opening one. -/
def closerOf (opener : Char) : Char :=
  if opener == '(' then ')' else ']'

/-- Whether a text is a plain name: an ASCII letter or underscore, then such characters
and digits. -/
def isPlainName (text : String) : Bool :=
  match text.toList with
  | [] => false
  | c :: rest => (c.isAlpha || c == '_') && rest.all fun c => c.isAlphanum || c == '_'

end LogPipe.Query
