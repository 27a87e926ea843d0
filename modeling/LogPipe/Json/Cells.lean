import LogPipe.Cell.Written
import LogPipe.Decimal.Reading
import LogPipe.Json.Reading

/-!
# Cells as JSON

Two forms are kept apart. In the plain form a cell is the JSON value that looks like it,
so that times and texts look alike. In the tagged form an object names the kind of the
cell beside its value, and nothing is lost except floats that are not finite.
-/

namespace LogPipe

open LogPipe.Decimal

namespace Cell

mutual

/-- The plain JSON form of a cell; a missing cell and a float that is not finite are null. -/
def toJson : Cell → Json
  | .missing _ => .null
  | .bool value => .bool value
  | .int value => .int value.toInt
  | .float x => if x.isFinite then .float x else .null
  | .time millis => .string (written (.time millis))
  | .text value => .string value
  | .list items => .array (toJsonList items)

/-- The plain JSON forms of the items of a list. -/
def toJsonList : List Cell → List Json
  | [] => []
  | item :: items => item.toJson :: toJsonList items

end

mutual

/-- The cell that looks like a JSON value. An object is kept as its text. -/
def ofJson : Json → Cell
  | .null => .null
  | .bool value => .bool value
  | .int value =>
      match int64? value with
      | some value => .int value
      | none => .float (Float.ofInt value)
  | .float x => .float x
  | .string value => .text value
  | .array items => .list (ofJsonList items)
  | .object members => .text (Json.object members).write

/-- The cells of the items of an array. -/
def ofJsonList : List Json → List Cell
  | [] => []
  | item :: items => ofJson item :: ofJsonList items

end

/-- The name of a marker in tagged form. -/
def markerName : Marker → String
  | .null => "null"
  | .nan => "na_n"
  | .nat => "na_t"

mutual

/-- The tagged JSON form of a cell. -/
def toTagged (cell : Cell) : Json :=
  let value :=
    match cell with
    | .missing marker => Json.string (markerName marker)
    | .bool value => .bool value
    | .int value => .int value.toInt
    | .float x => .float x
    | .time millis => .int millis.toInt
    | .text value => .string value
    | .list items => .array (toTaggedList items)
  .object [("kind", .string cell.kind.name), ("value", value)]

/-- The tagged JSON forms of the items of a list. -/
def toTaggedList : List Cell → List Json
  | [] => []
  | item :: items => item.toTagged :: toTaggedList items

end

/-- A name given as a string, or as an object whose only member has that name and the
value null. -/
def nameOfJson? : Json → Option String
  | .string name => some name
  | .object [(name, .null)] => some name
  | _ => none

/-- The value of a member that occurs exactly once. -/
def onlyMember? (name : String) (members : List (String × Json)) : Option Json :=
  match members.filter fun entry => entry.1 == name with
  | [entry] => some entry.2
  | _ => none

/-- A 64-bit integer in JSON. -/
def int64OfJson? : Json → Option Int64
  | .int value => int64? value
  | _ => none

mutual

/-- Reads the tagged form: an object with one kind and one value, or an array of the two.
`fuel` bounds the nesting. -/
def ofTagged? (json : Json) : Nat → Option Cell
  | 0 => none
  | fuel + 1 =>
      let parts :=
        match json with
        | .array [kind, value] => some (kind, value)
        | .object members =>
            match onlyMember? "kind" members, onlyMember? "value" members with
            | some kind, some value => some (kind, value)
            | _, _ => none
        | _ => none
      match parts with
      | none => none
      | some (kindName, value) =>
          match (nameOfJson? kindName).bind Kind.ofName? with
          | some .null =>
              match nameOfJson? value with
              | some "null" => some (.missing .null)
              | some "na_n" => some (.missing .nan)
              | some "na_t" => some (.missing .nat)
              | _ => none
          | some .bool =>
              match value with
              | .bool value => some (.bool value)
              | _ => none
          | some .int => (int64OfJson? value).map .int
          | some .float =>
              match value with
              | .int value => some (.float (Float.ofInt value))
              | .float x => some (.float x)
              | _ => none
          | some .time => (int64OfJson? value).map .time
          | some .text =>
              match value with
              | .string value => some (.text value)
              | _ => none
          | some .list =>
              match value with
              | .array items => (ofTaggedList? items fuel).map .list
              | _ => none
          | none => none

/-- Reads the tagged forms of the items of a list. -/
def ofTaggedList? (items : List Json) : Nat → Option (List Cell)
  | 0 => none
  | fuel + 1 =>
      match items with
      | [] => some []
      | item :: items =>
          match ofTagged? item fuel, ofTaggedList? items fuel with
          | some cell, some cells => some (cell :: cells)
          | _, _ => none

end

/-- The cell of a text in tagged form. -/
def readTagged? (text : String) : Option Cell :=
  (Json.readRaw? text).bind fun json => ofTagged? json (2 * text.length + 2)

end Cell

end LogPipe
