import LogPipe.Query.Lexer

/-!
# Splitting query text

A text is split at a separator wherever it stands outside quotes and brackets. A query is
an index clause and pipeline segments, split at pipes; no segment may be blank.
-/

namespace LogPipe.Query

open LogPipe.Text

/-- Where a scan of query text stands: the open quote, whether the last character was a
backslash inside it, and the open brackets from the innermost. -/
structure Scan where
  quote : Option (Char × Nat) := none
  escaped : Bool := false
  brackets : List (Char × Nat) := []
deriving DecidableEq, Repr

namespace Scan

/-- Whether a separator would count here. -/
def isTopLevel (scan : Scan) : Bool :=
  scan.quote.isNone && scan.brackets.isEmpty

/-- The scan after one character; nothing when a bracket closes that is not open. -/
def step? (scan : Scan) (offset : Nat) (c : Char) : Option Scan :=
  match scan.quote with
  | some (opener, _) =>
      if scan.escaped then some { scan with escaped := false }
      else if c == '\\' then some { scan with escaped := true }
      else if c == opener then some { scan with quote := none }
      else some scan
  | none =>
      if isQuote c then some { scan with quote := some (c, offset) }
      else if c == '(' || c == '[' then
        some { scan with brackets := (c, offset) :: scan.brackets }
      else if c == ')' || c == ']' then
        match scan.brackets with
        | (opener, _) :: outer =>
            if closerOf opener == c then some { scan with brackets := outer } else none
        | [] => none
      else some scan

end Scan

/-- Whether a character separates pieces where quotes and brackets are closed. Quotes and
brackets never do. -/
def separates (separator c : Char) : Bool :=
  c == separator && !(isQuote c || c == '(' || c == '[' || c == ')' || c == ']')

/-- Splits the rest of a text. `piece` holds the characters of the current piece from the
last to the first, and `start` its offset. -/
def splitFrom (whole : String) (separator : Char) (scan : Scan) (start offset : Nat)
    (piece : List Char) : List Char → Except LexError (List (Nat × List Char))
  | [] =>
      match scan.quote with
      | some (delimiter, opened) => .error (.unterminated whole opened delimiter)
      | none =>
          match scan.brackets with
          | (delimiter, opened) :: _ => .error (.unbalanced whole opened delimiter)
          | [] => .ok [(start, piece.reverse)]
  | c :: rest =>
      let next := offset + c.utf8Size
      if scan.isTopLevel && separates separator c then
        match splitFrom whole separator scan next next [] rest with
        | .ok pieces => .ok ((start, piece.reverse) :: pieces)
        | .error error => .error error
      else
        match scan.step? offset c with
        | some scan => splitFrom whole separator scan start next (c :: piece) rest
        | none => .error (.unbalanced whole offset c)

/-- The pieces of a text between top-level separators, with their byte offsets. -/
def splitTopLevel (text : String) (separator : Char) :
    Except LexError (List (Nat × List Char)) :=
  splitFrom text separator {} 0 0 [] text.toList

/-- The pieces of a text between top-level separators, trimmed, without the blank ones. -/
def splitTrimmed (text : String) (separator : Char) : Except LexError (List String) := do
  let pieces ← splitTopLevel text separator
  pure ((pieces.map fun piece => trim piece.2).filter (fun piece => !piece.isEmpty) |>.map
    String.ofList)

/-- The arguments of a comma-separated list. -/
def splitArguments (text : String) : Except LexError (List String) :=
  splitTrimmed text ','

/-- One stage of a pipeline: its trimmed text and its tokens. -/
structure Segment where
  index : Nat
  text : String
  tokens : List Token
deriving DecidableEq, Repr

namespace Segment

/-- The first token. -/
def keyword? (segment : Segment) : Option Token :=
  segment.tokens.head?

/-- The tokens after the first. -/
def arguments (segment : Segment) : List Token :=
  segment.tokens.tail

/-- The text after the first token, trimmed. -/
def argumentText (segment : Segment) : String :=
  match segment.tokens with
  | [] => ""
  | token :: _ =>
      String.ofList (trim (dropBytes token.stop segment.text.toList))

end Segment

/-- A query split into its index clause and its segments. -/
structure SplitQuery where
  indexClause : String
  indexTokens : List Token
  segments : List Segment
deriving DecidableEq, Repr

/-- Reads pieces as segments, numbered in order. -/
def readSegments (query : String) (index : Nat) :
    List (Nat × List Char) → Except LexError (List Segment)
  | [] => .ok []
  | (offset, piece) :: pieces =>
      let text := trim piece
      if text.isEmpty then .error (.emptySegment query offset)
      else do
        let text := String.ofList text
        let tokens ← lex text
        let segments ← readSegments query (index + 1) pieces
        pure (⟨index, text, tokens⟩ :: segments)

/-- Splits a query. -/
def splitQuery (query : String) : Except LexError SplitQuery := do
  let pieces ← splitTopLevel query '|'
  let clause := String.ofList (trim ((pieces.head?.map Prod.snd).getD []))
  let tokens ← lex clause
  let segments ← readSegments query 0 pieces.tail
  pure ⟨clause, tokens, segments⟩

end LogPipe.Query
