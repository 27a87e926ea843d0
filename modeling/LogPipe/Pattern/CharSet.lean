import LogPipe.Text.Case
import LogPipe.Text.Category
import LogPipe.Text.Property
import LogPipe.Text.Script
import LogPipe.Text.WordChar

/-!
# Sets of characters

A set is built from ranges of code points by the set operations and by closing a set under
letter case. Sets with names come from the tables of character properties.
-/

namespace LogPipe.Pattern

open LogPipe.Text

/-- A set of characters. -/
inductive CharSet where
  | ranges (runs : List (Nat × Nat))
  | union (left right : CharSet)
  | intersection (left right : CharSet)
  | difference (left right : CharSet)
  | symmetricDifference (left right : CharSet)
  | complement (set : CharSet)
  /-- The characters that differ from one of the set in case only; `ascii` restricts this
  to the ASCII letters. -/
  | anyCase (ascii : Bool) (set : CharSet)
deriving DecidableEq, Repr

namespace CharSet

/-- The character with the other case of an ASCII letter. -/
def asciiVariants (c : Char) : List Char :=
  if c.isUpper then [c, c.toLower] else if c.isLower then [c, c.toUpper] else [c]

/-- Whether a character is in a set. -/
def contains : CharSet → Char → Bool
  | .ranges runs, c => inRanges runs c.toNat
  | .union left right, c => left.contains c || right.contains c
  | .intersection left right, c => left.contains c && right.contains c
  | .difference left right, c => left.contains c && !right.contains c
  | .symmetricDifference left right, c => left.contains c != right.contains c
  | .complement set, c => !set.contains c
  | .anyCase ascii set, c =>
      (if ascii then asciiVariants c else caseVariants c).any fun variant => set.contains variant

/-- The empty set. -/
def empty : CharSet := .ranges []

/-- The set of all characters. -/
def all : CharSet := .ranges [(0, 0x10FFFF)]

/-- The set of one character. -/
def single (c : Char) : CharSet := .ranges [(c.toNat, c.toNat)]

/-- The number of ranges a set is built from, as a measure of its size. -/
def weight : CharSet → Nat
  | .ranges runs => runs.length
  | .union left right => left.weight + right.weight
  | .intersection left right => left.weight + right.weight
  | .difference left right => left.weight + right.weight
  | .symmetricDifference left right => left.weight + right.weight
  | .complement set => set.weight + 1
  | .anyCase _ set => set.weight

/-- The sets with names in brackets, made of ASCII characters. -/
def ofBracketName? : String → Option (List (Nat × Nat))
  | "alnum" => some [(0x30, 0x39), (0x41, 0x5A), (0x61, 0x7A)]
  | "alpha" => some [(0x41, 0x5A), (0x61, 0x7A)]
  | "ascii" => some [(0, 0x7F)]
  | "blank" => some [(0x09, 0x09), (0x20, 0x20)]
  | "cntrl" => some [(0, 0x1F), (0x7F, 0x7F)]
  | "digit" => some [(0x30, 0x39)]
  | "graph" => some [(0x21, 0x7E)]
  | "lower" => some [(0x61, 0x7A)]
  | "print" => some [(0x20, 0x7E)]
  | "punct" => some [(0x21, 0x2F), (0x3A, 0x40), (0x5B, 0x60), (0x7B, 0x7E)]
  | "space" => some [(0x09, 0x0D), (0x20, 0x20)]
  | "upper" => some [(0x41, 0x5A)]
  | "word" => some [(0x30, 0x39), (0x41, 0x5A), (0x5F, 0x5F), (0x61, 0x7A)]
  | "xdigit" => some [(0x30, 0x39), (0x41, 0x46), (0x61, 0x66)]
  | _ => none

/-- Decimal digits. -/
def digits (ascii : Bool) : CharSet :=
  .ranges (if ascii then [(0x30, 0x39)] else digitRanges)

/-- Blank characters. -/
def blanks (ascii : Bool) : CharSet :=
  .ranges (if ascii then [(0x09, 0x0D), (0x20, 0x20)] else whiteSpaceRanges)

/-- Characters of words. -/
def wordChars (ascii : Bool) : CharSet :=
  .ranges (if ascii then [(0x30, 0x39), (0x41, 0x5A), (0x5F, 0x5F), (0x61, 0x7A)] else wordRanges)

/-- A property name in lower case, without separators and without a leading `is`. -/
def normalName (name : List Char) : String :=
  let body :=
    match name with
    | a :: b :: rest => if a.toLower == 'i' && b.toLower == 's' then rest else name
    | _ => name
  let kept := (body.filter fun c =>
    c != ' ' && c != '_' && c != '-' && c.toNat < 128).map Char.toLower
  if kept == ['c'] && body.length != name.length then "isc" else String.ofList kept

/-- The union of the general categories whose two-letter names start in the same way. -/
def categoriesFrom (start : List Char) : List (Nat × Nat) :=
  (categories.filter fun entry => start.isPrefixOf entry.1.toList).flatMap Prod.snd

/-- The short names of general categories by their long ones. -/
def categoryNames : List (String × String) :=
  [("uppercaseletter", "lu"), ("lowercaseletter", "ll"), ("titlecaseletter", "lt"),
    ("casedletter", "lc"), ("modifierletter", "lm"), ("otherletter", "lo"), ("letter", "l"),
    ("nonspacingmark", "mn"), ("spacingmark", "mc"), ("enclosingmark", "me"), ("mark", "m"),
    ("combiningmark", "m"), ("decimalnumber", "nd"), ("digit", "nd"), ("letternumber", "nl"),
    ("othernumber", "no"), ("number", "n"), ("connectorpunctuation", "pc"),
    ("dashpunctuation", "pd"), ("openpunctuation", "ps"), ("closepunctuation", "pe"),
    ("initialpunctuation", "pi"), ("finalpunctuation", "pf"), ("otherpunctuation", "po"),
    ("punctuation", "p"), ("punct", "p"), ("mathsymbol", "sm"), ("currencysymbol", "sc"),
    ("modifiersymbol", "sk"), ("othersymbol", "so"), ("symbol", "s"), ("spaceseparator", "zs"),
    ("lineseparator", "zl"), ("paragraphseparator", "zp"), ("separator", "z"),
    ("control", "cc"), ("cntrl", "cc"), ("format", "cf"), ("privateuse", "co"),
    ("unassigned", "cn"), ("other", "c")]

/-- The set of a general category, given its normal name. -/
def ofCategory? (name : String) : Option CharSet :=
  let short := (categoryNames.lookup name).getD name
  let assigned := CharSet.ranges (categoriesFrom [])
  match short with
  | "any" => some all
  | "assigned" => some assigned
  | "ascii" => some (.ranges [(0, 0x7F)])
  | "cn" => some (.complement assigned)
  | "c" => some (.union (.ranges (categoriesFrom ['c'])) (.complement assigned))
  | "lc" => some (.ranges (categoriesFrom ['l', 'u'] ++ categoriesFrom ['l', 'l'] ++
      categoriesFrom ['l', 't']))
  | _ =>
      if short.isEmpty then none
      else
        match categoriesFrom short.toList with
        | [] => none
        | runs => some (.ranges runs)

/-- The set of a script, given its normal name. -/
def ofScript? (name : String) : Option CharSet :=
  (scripts.find? fun script => script.names.contains name).map fun script =>
    .ranges script.ranges

/-- The set of a property without a value, given its normal name. A name that a property
shares with a general category means the category. -/
def ofProperty? (name : String) : Option CharSet :=
  let property :=
    (properties.find? fun entry => entry.1.contains name).map fun entry =>
      CharSet.ranges entry.2
  property.or ((ofCategory? name).or (ofScript? name))

/-- The set of a property with a value, both by their normal names. -/
def ofPropertyValue? (property value : String) : Option CharSet :=
  if property == "gc" || property == "generalcategory" then ofCategory? value
  else if property == "sc" || property == "script" then ofScript? value
  else none

end CharSet

end LogPipe.Pattern
