import LogPipe.Decimal.Layout

/-!
# JSON values and their text

An object keeps its members in the order in which they were written. The text of a value
has no blanks; characters that JSON does not allow in strings are escaped.
-/

namespace LogPipe

open LogPipe.Decimal

/-- A JSON value. A number is an integer or a float. -/
inductive Json where
  | null
  | bool (value : Bool)
  | int (value : Int)
  | float (value : Float)
  | string (value : String)
  | array (items : List Json)
  | object (members : List (String × Json))
deriving Repr, Inhabited

namespace Json

/-- One character inside a JSON string. -/
def escapeChar (c : Char) : List Char :=
  if c == '"' then ['\\', '"']
  else if c == '\\' then ['\\', '\\']
  else if c == '\x08' then ['\\', 'b']
  else if c == '\x0c' then ['\\', 'f']
  else if c == '\n' then ['\\', 'n']
  else if c == '\r' then ['\\', 'r']
  else if c == '\t' then ['\\', 't']
  else if c.toNat < 32 then
    ['\\', 'u', '0', '0', Nat.digitChar (c.toNat / 16), Nat.digitChar (c.toNat % 16)]
  else [c]

/-- The text of a JSON string. -/
def writeString (text : String) : String :=
  String.ofList ('"' :: text.toList.flatMap escapeChar ++ ['"'])

/-- The text of a JSON number that is a float; one that has no digits is written as null. -/
def writeFloat (x : Float) : String :=
  if x.isFinite then Layout.json.write x else "null"

mutual

/-- The text of a value. -/
def write : Json → String
  | .null => "null"
  | .bool value => if value then "true" else "false"
  | .int value => toString value
  | .float x => writeFloat x
  | .string text => writeString text
  | .array items => "[" ++ ",".intercalate (writeItems items) ++ "]"
  | .object members => "\x7b" ++ ",".intercalate (writeMembers members) ++ "\x7d"

/-- The texts of the items of an array. -/
def writeItems : List Json → List String
  | [] => []
  | item :: items => item.write :: writeItems items

/-- The texts of the members of an object. -/
def writeMembers : List (String × Json) → List String
  | [] => []
  | (name, value) :: members => (writeString name ++ ":" ++ value.write) :: writeMembers members

end

/-- Adds a member to an object. A repeated name keeps its place and takes the new value. -/
def insertMember (members : List (String × Json)) (name : String) (value : Json) :
    List (String × Json) :=
  if members.any fun entry => entry.1 == name then
    members.map fun entry => if entry.1 == name then (name, value) else entry
  else
    members ++ [(name, value)]

/-- The members of an object with repeated names merged. -/
def mergeMembers (members : List (String × Json)) : List (String × Json) :=
  members.foldl (fun merged entry => insertMember merged entry.1 entry.2) []

mutual

/-- The value with repeated names merged in all its objects. -/
def merged : Json → Json
  | .array items => .array (mergedItems items)
  | .object members => .object (mergeMembers (mergedMembers members))
  | value => value

/-- The items of an array, each merged. -/
def mergedItems : List Json → List Json
  | [] => []
  | item :: items => item.merged :: mergedItems items

/-- The members of an object, the value of each merged. -/
def mergedMembers : List (String × Json) → List (String × Json)
  | [] => []
  | (name, value) :: members => (name, value.merged) :: mergedMembers members

end

/-- What a value is, in messages. -/
def describe : Json → String
  | .null => "null"
  | .bool _ => "a boolean"
  | .int _ => "a number"
  | .float _ => "a number"
  | .string _ => "a string"
  | .array _ => "an array"
  | .object _ => "an object"

end Json

end LogPipe
