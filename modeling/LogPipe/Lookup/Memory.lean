import LogPipe.Codec.Format

/-!
# Lookups

Lookups are tables that outlive a query. A store loads and saves them by name, and a query
can do nothing else with it.
-/

namespace LogPipe

open LogPipe.Text

/-- Why a lookup cannot be loaded or saved. -/
inductive LookupError where
  | notFound (name : String)
  | invalidName (name : String)
  | codec (error : Codec.CodecError)
deriving DecidableEq, Repr

/-- The text of the error. -/
def LookupError.message : LookupError → String
  | .notFound name => "lookup " ++ quoted name ++ " not found"
  | .invalidName name => "invalid lookup name " ++ quoted name
  | .codec error => error.message

/-- How a table is saved under a name that may be taken. -/
structure SaveMode where
  /-- Whether the table goes below the one that is there. -/
  append : Bool := false
  /-- Whether a table without rows replaces the one that is there. -/
  overrideIfEmpty : Bool := true
deriving DecidableEq, Repr

/-- Whether a table leaves one that is already there as it is. -/
def SaveMode.keepsOld (mode : SaveMode) (table : Table) : Bool :=
  table.rows == 0 && !mode.overrideIfEmpty

/-- A store of lookups. A save that fails may still change the store. -/
class LookupStore (σ : Type) where
  load : σ → String → Except LookupError Table
  save : σ → String → Table → SaveMode → Except LookupError Unit × σ

end LogPipe

/-!
## Lookups in memory

A memory of lookups holds tables as they were saved.
-/

namespace LogPipe

/-- Tables by name. -/
structure LookupMemory where
  tables : List (String × Table) := []
deriving DecidableEq, Repr

namespace LookupMemory

/-- Puts a table under a name, in place of the one that is there. -/
def put (memory : LookupMemory) (name : String) (table : Table) : LookupMemory :=
  if memory.tables.any fun entry => entry.1 == name then
    ⟨memory.tables.map fun entry => if entry.1 == name then (name, table) else entry⟩
  else
    ⟨memory.tables ++ [(name, table)]⟩

/-- The table of a name. -/
def load (memory : LookupMemory) (name : String) : Except LookupError Table :=
  match memory.tables.lookup name with
  | some table => .ok table
  | none => .error (.notFound name)

/-- The memory after a table has been saved. -/
def save (memory : LookupMemory) (name : String) (table : Table) (mode : SaveMode) :
    LookupMemory :=
  match memory.tables.lookup name with
  | none => memory.put name table
  | some existing =>
      if mode.keepsOld table then memory
      else memory.put name (if mode.append then Table.concat [existing, table] else table)

instance : LookupStore LookupMemory where
  load := load
  save := fun memory name table mode => (.ok (), memory.save name table mode)

end LookupMemory

end LogPipe
