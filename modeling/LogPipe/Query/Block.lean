import LogPipe.Query.Token

/-!
# Bracketed blocks and assignments

A directive that runs other queries takes them in square brackets after its arguments. An
assignment is split at its first equals sign that stands alone.
-/

namespace LogPipe.Query

open LogPipe.Text

/-- Where a scan for blocks stands. -/
structure BlockScan where
  quote : Option Char := none
  escaped : Bool := false
  depth : Nat := 0
  /-- The offset of the last opening bracket at the top level. -/
  opened : Nat := 0
  /-- The characters of the current block from the last to the first. -/
  block : List Char := []
deriving DecidableEq, Repr

/-- Collects the blocks of the rest of a text. -/
def blocksFrom (whole : String) (scan : BlockScan) (offset : Nat) :
    List Char → Except LexError (List String)
  | [] =>
      if 0 < scan.depth then .error (.unbalanced whole scan.opened '[') else .ok []
  | c :: rest =>
      let next := offset + c.utf8Size
      let grown := { scan with block := c :: scan.block }
      match scan.quote with
      | some quote =>
          if scan.escaped then blocksFrom whole { grown with escaped := false } next rest
          else if c == '\\' then blocksFrom whole { grown with escaped := true } next rest
          else if c == quote then blocksFrom whole { grown with quote := none } next rest
          else blocksFrom whole grown next rest
      | none =>
          if isQuote c then blocksFrom whole { grown with quote := some c } next rest
          else if c == '[' then
            if scan.depth == 0 then
              blocksFrom whole { scan with depth := 1, opened := offset, block := [] } next rest
            else
              blocksFrom whole { grown with depth := scan.depth + 1 } next rest
          else if c == ']' then
            match scan.depth with
            | 0 => .error (.unbalanced whole offset ']')
            | 1 =>
                match blocksFrom whole { scan with depth := 0 } next rest with
                | .ok blocks => .ok (String.ofList (trim scan.block.reverse) :: blocks)
                | .error error => .error error
            | depth + 2 => blocksFrom whole { grown with depth := depth + 1 } next rest
          else blocksFrom whole grown next rest

/-- The trimmed inner texts of all top-level square brackets, in order. -/
def bracketBlocks (text : String) : Except LexError (List String) :=
  blocksFrom text {} 0 text.toList

/-- The characters before the first opening square bracket outside quotes. Here a backslash
does not keep a quote from closing. -/
def beforeBracket (quote : Option Char) : List Char → List Char
  | [] => []
  | c :: rest =>
      match quote with
      | some opener => c :: beforeBracket (if c == opener then none else quote) rest
      | none =>
          if isQuote c then c :: beforeBracket (some c) rest
          else if c == '[' then []
          else c :: beforeBracket none rest

/-- The trimmed text before the first block. -/
def textBeforeBrackets (text : String) : String :=
  String.ofList (trim (beforeBracket none text.toList))

/-- Looks for the equals sign of an assignment. `before` holds the characters passed, from
the last to the first. -/
def assignmentFrom (quote : Option Char) (depth : Int) (before : List Char) :
    List Char → Option (List Char × List Char)
  | [] => none
  | c :: rest =>
      match quote with
      | some opener =>
          if c == '\\' then
            match rest with
            | [] => none
            | d :: rest => assignmentFrom quote depth (d :: c :: before) rest
          else
            assignmentFrom (if c == opener then none else quote) depth (c :: before) rest
      | none =>
          if isQuote c then assignmentFrom (some c) depth (c :: before) rest
          else if c == '(' || c == '[' then assignmentFrom none (depth + 1) (c :: before) rest
          else if c == ')' || c == ']' then assignmentFrom none (depth - 1) (c :: before) rest
          else if c == '=' && depth == 0 then
            match rest with
            | '=' :: rest => assignmentFrom none depth ('=' :: c :: before) rest
            | rest =>
                match before with
                | '!' :: _ | '<' :: _ | '>' :: _ | '=' :: _ =>
                    assignmentFrom none depth (c :: before) rest
                | before => some (before.reverse, rest)
          else assignmentFrom none depth (c :: before) rest

/-- Splits an assignment into its field and its expression. An equals sign that belongs to
a comparison operator, or stands in quotes or brackets, does not count. -/
def splitAssignment (text : String) : Option (String × String) :=
  (assignmentFrom none 0 [] text.toList).map fun (field, value) =>
    (String.ofList (trim field), String.ofList (trim value))

end LogPipe.Query
