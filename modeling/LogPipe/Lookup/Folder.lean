import LogPipe.Codec.Delimited
import LogPipe.Codec.Records
import LogPipe.Lookup.Memory

/-!
# Lookups in a folder

A folder holds lookups as files, below it or in folders inside it. The extension of a
name picks the format of its file. A name cannot lead out of the folder, and saving makes
no new folders inside it.

A database file holds one table whose cells are integers, floats and texts. Cells of
other kinds are stored as what is written for them.
-/

namespace LogPipe

open LogPipe.Codec LogPipe.Text

/-- What a file holds. -/
inductive LookupFile where
  | text (content : String)
  | database (table : Table)
deriving DecidableEq, Repr

/-- The place of a file: its components below the folder. -/
abbrev Location := List (List Char)

/-- Files below a root, each at its location. -/
structure LookupFolder where
  root : String
  files : List (Location × LookupFile) := []
deriving DecidableEq, Repr

namespace Database

/-- A cell as a database gives it back. It keeps no sign of zero. -/
def storedCell (cell : Cell) : Cell :=
  if cell.isMissing then .null
  else
    match cell with
    | .bool value => .int (if value then 1 else 0)
    | .int value => .int value
    | .float x => if x == 0.0 then .float 0.0 else .float x
    | other => .text other.written

/-- A table as a database gives it back. -/
def storedTable (table : Table) : Table :=
  ⟨table.rows, table.columns.map fun entry =>
    (entry.1, Column.lossy (entry.2.cells.map storedCell))⟩

/-- Whether names are distinct in any letter case. -/
def distinctNames : List String → Bool
  | [] => true
  | name :: names => !names.any (sameIgnoringCase name) && distinctNames names

/-- Whether a database can have the columns of a table. -/
def canHold (table : Table) : Bool :=
  !table.columns.isEmpty && distinctNames table.names &&
    !table.names.any fun name => name.toList.contains '\x00'

end Database

namespace LookupFolder

/-- Whether a name asks for a folder: it ends in a slash, or in a slash and a dot. -/
def asksForFolder (name : String) : Bool :=
  match name.toList.reverse with
  | '/' :: _ => true
  | '.' :: '/' :: _ => true
  | _ => false

/-- Whether a component of a location is a name of its own. -/
def isPlainComponent (component : List Char) : Bool :=
  component != ['.'] && component != ['.', '.']

/-- The location of a name. The name has to be relative and go down only. -/
def locate (name : String) : Except LookupError Location :=
  let components := pathComponents name
  if name.isEmpty || name.toList.head? == some '/' || !components.all isPlainComponent then
    .error (.invalidName name)
  else
    .ok components

/-- The path of a name, in messages. -/
def path (folder : LookupFolder) (name : String) : String :=
  folder.root ++ "/" ++ name

/-- The file of a name at a location. -/
def file? (folder : LookupFolder) (name : String) (location : Location) : Option LookupFile :=
  if asksForFolder name then none else folder.files.lookup location

/-- Whether there is a folder at a location: the root, or one on the way to a file. -/
def isFolder (folder : LookupFolder) (location : Location) : Bool :=
  location.isEmpty || folder.files.any fun entry =>
    location.isPrefixOf entry.1 && location != entry.1

/-- Whether a file can be written under a name. -/
def canWrite (folder : LookupFolder) (name : String) (location : Location) : Bool :=
  !asksForFolder name && !name.toList.contains '\x00' && !folder.isFolder location &&
    folder.isFolder location.dropLast

/-- Puts a file at a location, in place of the one that is there. -/
def put (folder : LookupFolder) (location : Location) (file : LookupFile) : LookupFolder :=
  if folder.files.any fun entry => entry.1 == location then
    { folder with files := folder.files.map fun entry =>
        if entry.1 == location then (location, file) else entry }
  else
    { folder with files := folder.files ++ [(location, file)] }

/-- Reads a file in a format. -/
def decode (format : Format) (file : LookupFile) : Except CodecError Table :=
  match format, file with
  | .database, .database table => .ok table
  | .database, .text _ => .error .database
  | _, .database _ => .error .inaccessible
  | .csv, .text content => readDelimited ',' content
  | .tsv, .text content => readDelimited '\t' content
  | .json, .text content => readJson content
  | .jsonLines, .text content => readJsonLines content

/-- The text of a table in a format; nothing for a database, which is no text. -/
def encode? (format : Format) (table : Table) : Option String :=
  match format with
  | .csv => some (writeDelimited ',' table)
  | .tsv => some (writeDelimited '\t' table)
  | .json => some (writeJson table)
  | .jsonLines => some (writeJsonLines table)
  | .database => none

/-- Reads the file of a name. -/
def read (folder : LookupFolder) (name : String) (file : LookupFile) : Except CodecError Table :=
  match Format.ofPath (folder.path name) with
  | .ok format => decode format file
  | .error error => .error error

/-- Writes a table into a database. A file that holds text is no database unless the text
is shorter than two bytes. A refused table leaves an empty file where there was none. -/
def writeDatabase (folder : LookupFolder) (name : String) (location : Location)
    (table : Table) : Except CodecError Unit × LookupFolder :=
  let existing := folder.file? name location
  let isForeign :=
    match existing with
    | some (.text content) => 1 < content.utf8ByteSize
    | _ => false
  if !folder.canWrite name location || isForeign then (.error .database, folder)
  else if Database.canHold table then
    (.ok (), folder.put location (.database (Database.storedTable table)))
  else
    (.error .database,
      if existing.isNone then folder.put location (.text "") else folder)

/-- Writes a table under a name. -/
def write (folder : LookupFolder) (name : String) (location : Location) (table : Table) :
    Except CodecError Unit × LookupFolder :=
  match Format.ofPath (folder.path name) with
  | .error error => (.error error, folder)
  | .ok format =>
      match encode? format table with
      | none => folder.writeDatabase name location table
      | some content =>
          if folder.canWrite name location then
            (.ok (), folder.put location (.text content))
          else
            (.error .inaccessible, folder)

/-- The table of a name. -/
def load (folder : LookupFolder) (name : String) : Except LookupError Table :=
  match locate name with
  | .error error => .error error
  | .ok location =>
      match folder.file? name location with
      | none => .error (.notFound name)
      | some file => (folder.read name file).mapError .codec

/-- Saves a table under a name. -/
def save (folder : LookupFolder) (name : String) (table : Table) (mode : SaveMode) :
    Except LookupError Unit × LookupFolder :=
  match locate name with
  | .error error => (.error error, folder)
  | .ok location =>
      let (result, folder) :=
        match folder.file? name location with
        | none => folder.write name location table
        | some file =>
            if mode.keepsOld table then (.ok (), folder)
            else if mode.append then
              match folder.read name file with
              | .error error => (.error error, folder)
              | .ok existing => folder.write name location (Table.concat [existing, table])
            else folder.write name location table
      (result.mapError .codec, folder)

/-- The text that the file of a name holds. -/
def text? (folder : LookupFolder) (name : String) : Option String :=
  match locate name with
  | .error _ => none
  | .ok location =>
      match folder.file? name location with
      | some (.text content) => some content
      | _ => none

/-- Adds a text file. -/
def addText (folder : LookupFolder) (name content : String) : LookupFolder :=
  folder.put (pathComponents name) (.text content)

instance : LookupStore LookupFolder where
  load := load
  save := save

end LookupFolder

end LogPipe
