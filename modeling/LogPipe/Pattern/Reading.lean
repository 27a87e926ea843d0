import LogPipe.Decimal.Reading
import LogPipe.Pattern.Basic
import LogPipe.Text.Alphabetic
import LogPipe.Text.Blank

/-!
# Reading patterns

The syntax of patterns: alternatives, repetitions, groups with or without a name, sets in
brackets with set operations, properties of characters, positions, and flags that hold up
to the end of their group. There are no references to groups and no conditions on the text
around a match other than positions. Groups and sets may be nested 250 deep.
-/

namespace LogPipe.Pattern

open LogPipe.Decimal LogPipe.Text

/-- Why a text is no pattern. -/
inductive PatternFault where
  | lookAround
  | backReference
  | unclosedGroup
  | unopenedGroup
  | groupName
  | repeatedGroupName (name : String)
  | flags
  | nothingToRepeat
  | repetitionCount
  | escape
  | property
  | unclosedSet
  | setRange
  | notUnicode
  | tooDeep
  | tooLarge
deriving DecidableEq, Repr

/-- The text of the fault. -/
def PatternFault.message : PatternFault → String
  | .lookAround => "look-around is not supported"
  | .backReference => "references to groups are not supported"
  | .unclosedGroup => "unclosed group"
  | .unopenedGroup => "unopened group"
  | .groupName => "invalid group name"
  | .repeatedGroupName name => "repeated group name " ++ name
  | .flags => "invalid flags"
  | .nothingToRepeat => "nothing to repeat"
  | .repetitionCount => "invalid repetition count"
  | .escape => "invalid escape"
  | .property => "unknown property"
  | .unclosedSet => "unclosed set"
  | .setRange => "invalid range in a set"
  | .notUnicode => "not possible without Unicode"
  | .tooDeep => "nested too deeply"
  | .tooLarge => "too large"

/-- The flags that change how a pattern is read. -/
structure Flags where
  ignoreCase : Bool := false
  multiLine : Bool := false
  dotMatchesNewline : Bool := false
  swapGreed : Bool := false
  unicode : Bool := true
  crlf : Bool := false
  ignoreBlanks : Bool := false
deriving DecidableEq, Repr

/-- A flag set or cleared by its letter. -/
def Flags.set? (flags : Flags) (value : Bool) : Char → Option Flags
  | 'i' => some { flags with ignoreCase := value }
  | 'm' => some { flags with multiLine := value }
  | 's' => some { flags with dotMatchesNewline := value }
  | 'U' => some { flags with swapGreed := value }
  | 'u' => some { flags with unicode := value }
  | 'R' => some { flags with crlf := value }
  | 'x' => some { flags with ignoreBlanks := value }
  | _ => none

/-- What is known while a pattern is read: the flags and the groups so far. -/
structure Progress where
  flags : Flags
  groups : Nat
  names : List String
deriving DecidableEq, Repr

/-- Drops blanks and comments; a comment ends with its line. -/
def dropBlanks (inComment : Bool) : List Char → List Char
  | [] => []
  | c :: rest =>
      if inComment then dropBlanks (c != '\n') rest
      else if c == '#' then dropBlanks true rest
      else if isBlank c then dropBlanks false rest
      else c :: rest

/-- Drops blanks and comments where the flags say so. -/
def Flags.skip (flags : Flags) (text : List Char) : List Char :=
  if flags.ignoreBlanks then dropBlanks false text else text

/-- Closes a set under letter case where the flags say so. -/
def Flags.fold (flags : Flags) (set : CharSet) : CharSet :=
  if flags.ignoreCase then .anyCase (!flags.unicode) set else set

/-- Negates a set. Without Unicode a negated set would match parts of characters. -/
def Flags.negate (flags : Flags) (negated : Bool) (set : CharSet) :
    Except PatternFault CharSet :=
  if !negated then .ok set
  else if flags.unicode then .ok (.complement set)
  else .error .notUnicode

/-- What an escape stands for. -/
inductive Escape where
  | literal (c : Char)
  | set (set : CharSet)
  | assertion (assertion : Assertion)

/-- A part of a pattern with the text that follows it. -/
abbrev Parsed (α : Type) := Except PatternFault (α × List Char)

/-- The value of a hexadecimal digit. -/
def hexValue? (c : Char) : Option Nat :=
  if isDigit c then some (c.toNat - 48)
  else if 'a' ≤ c && c ≤ 'f' then some (c.toNat - 87)
  else if 'A' ≤ c && c ≤ 'F' then some (c.toNat - 55)
  else none

/-- The value of hexadecimal digits. -/
def hexNumber? (digits : List Char) : Option Nat :=
  digits.foldl (fun value c =>
    match value, hexValue? c with
    | some value, some digit => some (16 * value + digit)
    | _, _ => none) (some 0)

/-- The character with a code point; halves of surrogate pairs are none. -/
def charOfCode? (code : Nat) : Option Char :=
  if code.isValidChar then some (Char.ofNat code) else none

/-- Reads a code point after `\x`, `\u` or `\U`: that many digits, or digits in braces. -/
def readCode (flags : Flags) (width : Nat) (text : List Char) : Parsed Escape :=
  match text with
  | '\x7b' :: rest =>
      let digits := rest.takeWhile fun c => c != '\x7d'
      match rest.dropWhile fun c => c != '\x7d' with
      | [] => .error .escape
      | _ :: rest =>
          match (if digits.isEmpty then none else (hexNumber? digits).bind charOfCode?) with
          | some c => .ok (.literal c, rest)
          | none => .error .escape
  | _ =>
      let digits := text.take width
      if digits.length != width then .error .escape
      else
        match (hexNumber? digits).bind charOfCode? with
        | some c =>
            if width == 2 && !flags.unicode && 128 ≤ c.toNat then .error .notUnicode
            else .ok (.literal c, text.drop width)
        | none => .error .escape

/-- Splits a text at the first place where a separator starts. -/
def splitOnce? (separator before : List Char) : List Char → Option (List Char × List Char)
  | [] => none
  | c :: rest =>
      if separator.isPrefixOf (c :: rest) then
        some (before.reverse, (c :: rest).drop separator.length)
      else
        splitOnce? separator (c :: before) rest

/-- The set of a property with a value, both as written. -/
def propertyValue? (negated : Bool) (parts : List Char × List Char) : Option (Bool × CharSet) :=
  (CharSet.ofPropertyValue? (CharSet.normalName parts.1) (CharSet.normalName parts.2)).map
    fun set => (negated, set)

/-- The set of a property by its written name, which may have a value, and whether the set
is to be negated. -/
def namedProperty? (name : List Char) : Option (Bool × CharSet) :=
  match splitOnce? ['!', '='] [] name with
  | some parts => propertyValue? true parts
  | none =>
      match (splitOnce? [':'] [] name).or (splitOnce? ['='] [] name) with
      | some parts => propertyValue? false parts
      | none => (CharSet.ofProperty? (CharSet.normalName name)).map fun set => (false, set)

/-- Reads a property after `\p` or `\P`: one letter, or a name in braces. -/
def readProperty (flags : Flags) (negated : Bool) (text : List Char) : Parsed Escape :=
  let named : Option (List Char × List Char) :=
    match text with
    | [] => none
    | '\x7b' :: rest =>
        match rest.dropWhile fun c => c != '\x7d' with
        | [] => none
        | _ :: after => some (rest.takeWhile fun c => c != '\x7d', after)
    | c :: rest => if c == '\\' then none else some ([c], rest)
  match named with
  | none => .error .escape
  | some (name, rest) =>
      if !flags.unicode then .error .notUnicode
      else
        match namedProperty? name with
        | none => .error .property
        | some (unequal, set) =>
            (flags.negate (negated != unequal) (flags.fold set)).map fun set => (.set set, rest)

/-- The kinds of word tests by their names in braces. -/
def wordTest? : String → Option WordTest
  | "start" => some .start
  | "end" => some .stop
  | "start-half" => some .startHalf
  | "end-half" => some .stopHalf
  | _ => none

/-- Whether a character can stand in the name of a word test. -/
def isTestName (c : Char) : Bool :=
  c.isAlpha || c == '-'

/-- Reads what follows `\b`: nothing, or a word test in braces. Braces that hold no name
belong to a repetition. -/
def readWordTest (flags : Flags) (text : List Char) : Parsed Escape :=
  let word (test : WordTest) : Escape := .assertion (.word test (!flags.unicode))
  match text with
  | '\x7b' :: rest =>
      match rest with
      | [] => .error .escape
      | c :: _ =>
          if !isTestName c then .ok (word .boundary, text)
          else
            match rest.dropWhile isTestName with
            | '\x7d' :: after =>
                match wordTest? (String.ofList (rest.takeWhile isTestName)) with
                | some test => .ok (word test, after)
                | none => .error .escape
            | _ => .error .escape
  | _ => .ok (word .boundary, text)

/-- Reads an escape after its backslash. -/
def readEscape (flags : Flags) (text : List Char) : Parsed Escape :=
  let ascii := !flags.unicode
  match text with
  | [] => .error .escape
  | c :: rest =>
      if isDigit c then .error .backReference
      else if c == 'x' then readCode flags 2 rest
      else if c == 'u' then readCode flags 4 rest
      else if c == 'U' then readCode flags 8 rest
      else if c == 'p' || c == 'P' then readProperty flags (c == 'P') rest
      else if c == 'd' || c == 'D' then
        (flags.negate (c == 'D') (.digits ascii)).map fun set => (.set set, rest)
      else if c == 's' || c == 'S' then
        (flags.negate (c == 'S') (.blanks ascii)).map fun set => (.set set, rest)
      else if c == 'w' || c == 'W' then
        (flags.negate (c == 'W') (.wordChars ascii)).map fun set => (.set set, rest)
      else if c == 'a' then .ok (.literal '\x07', rest)
      else if c == 'f' then .ok (.literal '\x0c', rest)
      else if c == 't' then .ok (.literal '\t', rest)
      else if c == 'n' then .ok (.literal '\n', rest)
      else if c == 'r' then .ok (.literal '\r', rest)
      else if c == 'v' then .ok (.literal '\x0b', rest)
      else if c == 'A' then .ok (.assertion .textStart, rest)
      else if c == 'z' then .ok (.assertion .textStop, rest)
      else if c == 'b' then readWordTest flags rest
      else if c == 'B' then .ok (.assertion (.word .noBoundary ascii), rest)
      else if c == '<' then .ok (.assertion (.word .start ascii), rest)
      else if c == '>' then .ok (.assertion (.word .stop ascii), rest)
      else if c.isAlpha || 128 ≤ c.toNat then .error .escape
      else .ok (.literal c, rest)

/-- Reads the name of a set in brackets after its `[`, such as `:alpha:]`. -/
def readBracketName? (flags : Flags) (text : List Char) :
    Option (Except PatternFault CharSet × List Char) :=
  match text with
  | ':' :: rest =>
      let (negated, rest) :=
        match rest with
        | '^' :: rest => (true, rest)
        | rest => (false, rest)
      let name := rest.takeWhile fun c => c != ':'
      match rest.dropWhile fun c => c != ':' with
      | ':' :: ']' :: after =>
          (CharSet.ofBracketName? (String.ofList name)).map fun ranges =>
            (flags.negate negated (flags.fold (.ranges ranges)), after)
      | _ => none
  | _ => none

/-- Reads one item of a set: a character or a set by its escape. -/
def readSetItem (flags : Flags) (text : List Char) : Parsed Escape :=
  match text with
  | [] => .error .unclosedSet
  | '\\' :: rest =>
      match readEscape flags rest with
      | .ok (.assertion _, _) => .error .escape
      | result => result
  | c :: rest => .ok (.literal c, rest)

/-- The set of a range of characters. Without Unicode its characters have to be ASCII. -/
def rangeSet (flags : Flags) (first last : Char) : Except PatternFault CharSet :=
  if last < first then .error .setRange
  else if !flags.unicode && (128 ≤ first.toNat || 128 ≤ last.toNat) then .error .notUnicode
  else .ok (.ranges [(first.toNat, last.toNat)])

/-- Reads an item of a set or a range between two of them. -/
def readSetRange (flags : Flags) (text : List Char) : Parsed CharSet :=
  match readSetItem flags text with
  | .error fault => .error fault
  | .ok (first, rest) =>
      let rest := flags.skip rest
      let isRange :=
        match rest with
        | '-' :: after =>
            match flags.skip after with
            | next :: _ => next != ']' && next != '-'
            | [] => true
        | _ => false
      if !isRange then
        match first with
        | .literal c => (rangeSet flags c c).map fun set => (set, rest)
        | .set set => .ok (set, rest)
        | .assertion _ => .error .escape
      else
        match readSetItem flags (flags.skip rest.tail) with
        | .error fault => .error fault
        | .ok (last, rest) =>
            match first, last with
            | .literal first, .literal last =>
                (rangeSet flags first last).map fun set => (set, rest)
            | _, _ => .error .setRange

/-- Whether a text starts with an operator between sets. -/
def startsOperator : List Char → Bool
  | '&' :: '&' :: _ => true
  | '-' :: '-' :: _ => true
  | '~' :: '~' :: _ => true
  | _ => false

/-- Reads the items of a set up to its end or to an operator, at most `rounds` of them. -/
def readUnion (flags : Flags) (nested : List Char → Parsed CharSet) (set : CharSet)
    (text : List Char) : Nat → Parsed CharSet
  | 0 => .error .unclosedSet
  | rounds + 1 =>
      let text := flags.skip text
      if startsOperator text then .ok (set, text)
      else
        match text with
        | [] => .error .unclosedSet
        | ']' :: _ => .ok (set, text)
        | '[' :: rest =>
            match readBracketName? flags rest with
            | some (.error fault, _) => .error fault
            | some (.ok named, rest) => readUnion flags nested (.union set named) rest rounds
            | none =>
                match nested rest with
                | .error fault => .error fault
                | .ok (inner, rest) => readUnion flags nested (.union set inner) rest rounds
        | text =>
            match readSetRange flags text with
            | .error fault => .error fault
            | .ok (item, rest) => readUnion flags nested (.union set item) rest rounds

/-- Applies the operators that follow a set from left to right, at most `rounds` of them,
and reads the closing bracket. -/
def readOperations (flags : Flags) (nested : List Char → Parsed CharSet) (left : CharSet)
    (text : List Char) : Nat → Parsed CharSet
  | 0 => .error .unclosedSet
  | rounds + 1 =>
      match text with
      | ']' :: rest => .ok (left, rest)
      | a :: _ :: rest =>
          match readUnion flags nested .empty rest (rest.length + 1) with
          | .error fault => .error fault
          | .ok (right, rest) =>
              let left := flags.fold left
              let right := flags.fold right
              let joined : CharSet :=
                if a == '&' then .intersection left right
                else if a == '-' then .difference left right
                else .symmetricDifference left right
              readOperations flags nested joined rest rounds
      | _ => .error .unclosedSet

/-- Takes the hyphens at the start of a set, which stand for themselves. -/
def leadingHyphens (flags : Flags) (set : CharSet) (text : List Char) :
    Nat → CharSet × List Char
  | 0 => (set, text)
  | rounds + 1 =>
      match text with
      | '-' :: rest => leadingHyphens flags (.union set (.single '-')) (flags.skip rest) rounds
      | _ => (set, text)

/-- Reads a set after its opening bracket; sets in it may be nested `depth` deep. A closing
bracket in the first place stands for itself. -/
def readSet (flags : Flags) : Nat → List Char → Parsed CharSet
  | 0, _ => .error .tooDeep
  | depth + 1, text =>
      let text := flags.skip text
      let (negated, text) :=
        match text with
        | '^' :: rest => (true, flags.skip rest)
        | _ => (false, text)
      let (set, afterHyphens) := leadingHyphens flags .empty text text.length
      let (set, start) :=
        match set, afterHyphens with
        | .ranges [], ']' :: rest => (CharSet.single ']', flags.skip rest)
        | set, rest => (set, rest)
      if start.isEmpty then .error .unclosedSet
      else
        match readUnion flags (readSet flags depth) set start (start.length + 1) with
        | .error fault => .error fault
        | .ok (set, rest) =>
            match readOperations flags (readSet flags depth) set rest (rest.length + 1) with
            | .error fault => .error fault
            | .ok (set, rest) =>
                (flags.negate negated (flags.fold set)).map fun set => (set, rest)

/-- The pattern of a single character. -/
def ofChar (flags : Flags) (c : Char) : Pattern :=
  .char (flags.fold (.single c))

/-- The pattern of a point: any character that ends no line, or any at all. -/
def ofDot (flags : Flags) : Except PatternFault Pattern :=
  if !flags.unicode then .error .notUnicode
  else if flags.dotMatchesNewline then .ok (.char .all)
  else if flags.crlf then .ok (.char (.complement (.ranges [(10, 10), (13, 13)])))
  else .ok (.char (.complement (.ranges [(10, 10)])))

/-- Reads a character, a point, a position or an escape. -/
def readPrimitive (flags : Flags) (c : Char) (rest : List Char) : Parsed Pattern :=
  if c == '\\' then
    match readEscape flags rest with
    | .error fault => .error fault
    | .ok (.literal c, rest) => .ok (ofChar flags c, rest)
    | .ok (.set set, rest) => .ok (.char set, rest)
    | .ok (.assertion assertion, rest) => .ok (.check assertion, rest)
  else if c == '.' then (ofDot flags).map fun pattern => (pattern, rest)
  else if c == '^' then
    .ok (.check (if flags.multiLine then .lineStart flags.crlf else .textStart), rest)
  else if c == '$' then
    .ok (.check (if flags.multiLine then .lineStop flags.crlf else .textStop), rest)
  else .ok (ofChar flags c, rest)

/-- Takes digits from the front, at most `rounds` of them. Where blanks are ignored they may
stand between the digits. -/
def takeDigits (flags : Flags) (text : List Char) : Nat → List Char × List Char
  | 0 => ([], text)
  | rounds + 1 =>
      match text with
      | [] => ([], [])
      | c :: rest =>
          if isDigit c then
            let (digits, rest) := takeDigits flags (flags.skip rest) rounds
            (c :: digits, rest)
          else ([], c :: rest)

/-- Reads the digits of a repetition count with blanks around them. -/
def readCount (flags : Flags) (text : List Char) : List Char × List Char :=
  let text := text.dropWhile isBlank
  let (digits, rest) := takeDigits flags text text.length
  (digits, rest.dropWhile isBlank)

/-- The value of a repetition count, which has to be below `2 ^ 32`. -/
def countValue (digits : List Char) : Except PatternFault Nat :=
  if digits.isEmpty || twoTo 32 ≤ digitsValue digits then .error .repetitionCount
  else .ok (digitsValue digits)

/-- Reads the bounds of a repetition after its opening brace. -/
def readBounds (flags : Flags) (text : List Char) : Parsed (Nat × Option Nat) :=
  let (first, rest) := readCount flags (flags.skip text)
  match countValue first with
  | .error fault => .error fault
  | .ok least =>
      match rest with
      | '\x7d' :: rest => .ok ((least, some least), rest)
      | ',' :: rest =>
          match flags.skip rest with
          | '\x7d' :: rest => .ok ((least, none), rest)
          | rest =>
              let (last, rest) := readCount flags rest
              match countValue last, rest with
              | .ok most, '\x7d' :: rest =>
                  if most < least then .error .repetitionCount
                  else .ok ((least, some most), rest)
              | _, _ => .error .repetitionCount
      | _ => .error .repetitionCount

/-- One item of a sequence; flags for what follows are an item that cannot be repeated. -/
abbrev Item := Option Pattern

/-- Repeats the last item. A pattern that is repeated no time is empty. -/
def repeatLast (flags : Flags) (items : List Item) (least : Nat) (most : Option Nat)
    (text : List Char) : Parsed (List Item) :=
  match items with
  | some body :: items =>
      let (isLazy, rest) :=
        match text with
        | '?' :: rest => (true, rest)
        | rest => (false, rest)
      let pattern : Pattern :=
        if most == some 0 then .empty
        else .repeated body least most (isLazy == flags.swapGreed)
      .ok (some pattern :: items, rest)
  | _ => .error .nothingToRepeat

/-- Reads the letters of flags up to a colon or a closing parenthesis. Every letter and the
minus sign may occur once, and a letter has to follow the sign. -/
def readFlags (flags : Flags) (seen : List Char) : List Char → Parsed Flags
  | [] => .error .flags
  | c :: rest =>
      if c == ':' || c == ')' then
        if seen.head? == some '-' then .error .flags else .ok (flags, c :: rest)
      else if seen.contains c then .error .flags
      else if c == '-' then readFlags flags (c :: seen) rest
      else
        match flags.set? (!seen.contains '-') c with
        | some flags => readFlags flags (c :: seen) rest
        | none => .error .flags

/-- Whether a character can go on the name of a group. -/
def isNamePart (c : Char) : Bool :=
  c == '_' || c == '.' || c == '[' || c == ']' || isAlphabetic c || isNumeric c

/-- Reads the name of a group up to its closing angle. -/
def readGroupName (names : List String) (text : List Char) : Parsed String :=
  let name := text.takeWhile fun c => c != '>'
  match name, text.dropWhile fun c => c != '>' with
  | c :: others, _ :: rest =>
      let written := String.ofList name
      if !(c == '_' || isAlphabetic c) || !others.all isNamePart then .error .groupName
      else if names.contains written then .error (.repeatedGroupName written)
      else .ok (written, rest)
  | _, _ => .error .groupName

/-- How to read alternatives up to a closing parenthesis or the end. -/
abbrev Reader := Progress → List Char → Except PatternFault (Pattern × Progress × List Char)

/-- Reads the rest of a group after what opens it. The flags of a group end with it. -/
def readGroupBody (nested : Reader) (outer : Flags) (progress : Progress)
    (close : Pattern → Pattern) (text : List Char) :
    Except PatternFault (Item × Progress × List Char) :=
  match nested progress text with
  | .error fault => .error fault
  | .ok (body, progress, ')' :: rest) =>
      .ok (some (close body), { progress with flags := outer }, rest)
  | .ok _ => .error .unclosedGroup

/-- Reads a group after its opening parenthesis. -/
def readGroup (nested : Reader) (progress : Progress) (text : List Char) :
    Except PatternFault (Item × Progress × List Char) :=
  let flags := progress.flags
  let index := progress.groups + 1
  let named (rest : List Char) : Except PatternFault (Item × Progress × List Char) :=
    match readGroupName progress.names rest with
    | .error fault => .error fault
    | .ok (name, rest) =>
        readGroupBody nested flags
          { progress with groups := index, names := name :: progress.names }
          (.group index (some name)) rest
  match flags.skip text with
  | '?' :: '=' :: _ => .error .lookAround
  | '?' :: '!' :: _ => .error .lookAround
  | '?' :: '<' :: '=' :: _ => .error .lookAround
  | '?' :: '<' :: '!' :: _ => .error .lookAround
  | '?' :: 'P' :: '<' :: rest => named rest
  | '?' :: '<' :: rest => named rest
  | '?' :: rest =>
      match readFlags flags [] rest with
      | .error fault => .error fault
      | .ok (inner, ')' :: after) =>
          if rest.head? == some ')' then .error .nothingToRepeat
          else .ok (none, { progress with flags := inner }, after)
      | .ok (inner, after) =>
          readGroupBody nested flags { progress with flags := inner } id after.tail
  | text =>
      readGroupBody nested flags { progress with groups := index } (.group index none) text

/-- Reads a sequence of items, last one first, up to a bar, a closing parenthesis or the
end, in at most `rounds` steps. -/
def readItems (nested : Reader) (depth : Nat) (items : List Item) (progress : Progress)
    (text : List Char) : Nat → Except PatternFault (List Item × Progress × List Char)
  | 0 => .ok (items, progress, text)
  | rounds + 1 =>
      let flags := progress.flags
      let next (result : Parsed (List Item)) :
          Except PatternFault (List Item × Progress × List Char) :=
        match result with
        | .error fault => .error fault
        | .ok (items, rest) => readItems nested depth items progress rest rounds
      match flags.skip text with
      | [] => .ok (items, progress, [])
      | c :: rest =>
          if c == '|' || c == ')' then .ok (items, progress, c :: rest)
          else if c == '(' then
            match readGroup nested progress rest with
            | .error fault => .error fault
            | .ok (item, progress, rest) =>
                readItems nested depth (item :: items) progress rest rounds
          else if c == '[' then
            next ((readSet flags depth rest).map fun (set, rest) =>
              (some (.char set) :: items, rest))
          else if c == '?' then next (repeatLast flags items 0 (some 1) rest)
          else if c == '*' then next (repeatLast flags items 0 none rest)
          else if c == '+' then next (repeatLast flags items 1 none rest)
          else if c == '\x7b' then
            if items.head?.join.isNone then .error .nothingToRepeat
            else
              match readBounds flags rest with
              | .error fault => .error fault
              | .ok ((least, most), rest) =>
                  next (repeatLast flags items least most (flags.skip rest))
          else
            next ((readPrimitive flags c rest).map fun (pattern, rest) =>
              (some pattern :: items, rest))

/-- The sequence of items, given last one first. -/
def sequenceOf (items : List Item) : Pattern :=
  items.foldl (fun rest item =>
    match item, rest with
    | none, rest => rest
    | some pattern, .empty => pattern
    | some pattern, rest => .sequence pattern rest) .empty

/-- Reads alternatives, at most `rounds` of them. -/
def readAlternatives (nested : Reader) (depth : Nat) (progress : Progress)
    (text : List Char) : Nat → Except PatternFault (Pattern × Progress × List Char)
  | 0 => .ok (.empty, progress, text)
  | rounds + 1 =>
      match readItems nested depth [] progress text (text.length + 1) with
      | .error fault => .error fault
      | .ok (items, progress, '|' :: rest) =>
          match readAlternatives nested depth progress rest rounds with
          | .error fault => .error fault
          | .ok (others, progress, rest) =>
              .ok (.either (sequenceOf items) others, progress, rest)
      | .ok (items, progress, rest) => .ok (sequenceOf items, progress, rest)

/-- Reads alternatives in which groups may be nested `depth` deep. -/
def reader : Nat → Reader
  | 0 => fun _ _ => .error .tooDeep
  | depth + 1 => fun progress text =>
      readAlternatives (reader depth) depth progress text (text.length + 1)

/-- The number of levels a pattern may have. -/
def maxDepth : Nat := 250

/-- The size up to which patterns are accepted. -/
def maxSize : Nat := 262144

/-- Reads a text as a pattern under the given flags. -/
def ofText (flags : Flags) (text : String) : Except PatternFault Pattern :=
  match reader (maxDepth + 1) ⟨flags, 0, []⟩ text.toList with
  | .error fault => .error fault
  | .ok (pattern, _, []) =>
      if maxSize < pattern.size then .error .tooLarge else .ok pattern
  | .ok _ => .error .unopenedGroup

end LogPipe.Pattern
