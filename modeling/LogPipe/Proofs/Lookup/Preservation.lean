import LogPipe.Lookup.Folder
import LogPipe.Lookup.Memory
import LogPipe.Proofs.Table.Preservation

/-!
# Stores of well-formed tables

A store is sound when every table in it is well formed.  Then it loads only well-formed
tables, and saving one leaves it sound.  Text files need no promise: whatever they hold,
what is read from them is well formed.
-/

namespace LogPipe

instance : MayMismatch Codec.CodecError where
  isMismatch
    | .table error => isMismatch error
    | _ => false

instance : MayMismatch LookupError where
  isMismatch
    | .codec error => isMismatch error
    | _ => false

/-- What a save may do: it leaves a sound store and does not fail over a length. -/
def Saves {ε σ : Type} [MayMismatch ε] (sound : σ → Prop) (saved : Except ε Unit × σ) : Prop :=
  Keeps (fun _ => True) saved.1 ∧ sound saved.2

theorem Saves.mapError {ε δ σ : Type} [MayMismatch ε] [MayMismatch δ] {sound : σ → Prop}
    {saved : Except ε Unit × σ} (saves : Saves sound saved) (wrap : ε → δ)
    (wraps : ∀ failure, isMismatch (wrap failure) = isMismatch failure) :
    Saves sound (saved.1.mapError wrap, saved.2) :=
  ⟨saves.1.mapError wrap wraps, saves.2⟩

/-- Stores of which it can be said that they hold well-formed tables only. -/
class SoundStore (σ : Type) [LookupStore σ] where
  Sound : σ → Prop
  load_keeps : ∀ {store : σ}, Sound store → ∀ name,
    Keeps Table.WellFormed (LookupStore.load store name)
  save_keeps : ∀ {store : σ} {table : Table}, Sound store → table.WellFormed → ∀ name mode,
    Saves Sound (LookupStore.save store name table mode)

namespace LookupMemory

/-- All tables of a memory are well formed. -/
def Sound (memory : LookupMemory) : Prop :=
  ∀ entry ∈ memory.tables, entry.2.WellFormed

variable {memory : LookupMemory} {table : Table}

theorem Sound.lookup (sound : memory.Sound) {name : String}
    (found : memory.tables.lookup name = some table) : table.WellFormed :=
  sound (name, table) (Table.mem_of_lookup found)

theorem Sound.put (sound : memory.Sound) (wellFormed : table.WellFormed) (name : String) :
    (memory.put name table).Sound := by
  rw [LookupMemory.put]
  split
  · intro entry member
    obtain ⟨before, inMemory, rfl⟩ := List.mem_map.mp member
    split
    · exact wellFormed
    · exact sound before inMemory
  · intro entry member
    rcases List.mem_append.mp member with old | new
    · exact sound entry old
    · cases List.mem_singleton.mp new
      exact wellFormed

theorem load_keeps (sound : memory.Sound) (name : String) :
    Keeps Table.WellFormed (memory.load name) := by
  rw [load]
  split
  · next found => exact .ok (sound.lookup found)
  · exact .error rfl

theorem Sound.save (sound : memory.Sound) (wellFormed : table.WellFormed) (name : String)
    (mode : SaveMode) : (memory.save name table mode).Sound := by
  rw [LookupMemory.save]
  split
  · exact sound.put wellFormed name
  · next existing found =>
      split
      · exact sound
      · apply sound.put
        split
        · exact Table.wellFormed_concat_pair (sound.lookup found) wellFormed
        · exact wellFormed

instance : SoundStore LookupMemory where
  Sound := Sound
  load_keeps := load_keeps
  save_keeps := fun sound wellFormed name mode => ⟨.ok trivial, sound.save wellFormed name mode⟩

end LookupMemory

namespace Codec

/-- A text gives one cell for each record in every column. -/
theorem readDelimited_keeps (delimiter : Char) (text : String) :
    Keeps Table.WellFormed (readDelimited delimiter text) := by
  rw [readDelimited]
  split
  · exact .error rfl
  · refine Keeps.mapError ?_ _ fun _ => rfl
    apply Table.ofColumns_keeps
    intro entry member
    obtain ⟨⟨name, index⟩, -, rfl⟩ := List.mem_map.mp member
    exact Column.suits_lossy (List.length_map _)

theorem tableOfRecords_keeps (records : List (List (String × Json))) :
    Keeps Table.WellFormed (tableOfRecords records) := by
  refine (Table.ofRows_keeps fun entry member => ?_).mapError _ fun _ => rfl
  obtain ⟨name, -, rfl⟩ := List.mem_map.mp member
  exact Column.suits_lossy (List.length_map _)

theorem expectRecord_keeps (json : Json) : Keeps (fun _ => True) (expectRecord json) := by
  cases json with
  | object members => exact .ok trivial
  | _ => exact .error rfl

theorem expectRecords_keeps (items : List Json) : Keeps (fun _ => True) (expectRecords items) := by
  induction items with
  | nil => exact .ok trivial
  | cons item items induction =>
      exact (expectRecord_keeps item).bind fun _ _ => induction.bind fun _ _ => .ok trivial

theorem readJson_keeps (text : String) : Keeps Table.WellFormed (readJson text) := by
  rw [readJson]
  split
  · exact .error rfl
  · next items _ =>
      split
      · exact tableOfRecords_keeps _
      · next failed => exact .error ((expectRecords_keeps items).of_eq_error failed)
  · exact tableOfRecords_keeps _
  · exact .error rfl

theorem readLines_keeps (lines : List (List Char)) : Keeps (fun _ => True) (readLines lines) := by
  induction lines with
  | nil => exact .ok trivial
  | cons line lines induction =>
      rw [readLines]
      split
      · exact .error rfl
      · exact (expectRecord_keeps _).bind fun _ _ => induction.bind fun _ _ => .ok trivial

theorem readJsonLines_keeps (text : String) : Keeps Table.WellFormed (readJsonLines text) := by
  rw [readJsonLines]
  split
  · exact tableOfRecords_keeps _
  · next failed => exact .error ((readLines_keeps _).of_eq_error failed)

end Codec

namespace LookupFolder

open LogPipe.Codec

/-- A file that holds a text, or a well-formed table. -/
def SoundFile : LookupFile → Prop
  | .text _ => True
  | .database table => table.WellFormed

theorem soundFile_text (content : String) : SoundFile (.text content) :=
  trivial

/-- All databases of a folder hold well-formed tables. -/
def Sound (folder : LookupFolder) : Prop :=
  ∀ entry ∈ folder.files, SoundFile entry.2

theorem wellFormed_storedTable {table : Table} (wellFormed : table.WellFormed) :
    (Database.storedTable table).WellFormed := by
  rw [Table.wellFormed_iff_suits] at *
  constructor
  · have sameNames : (Database.storedTable table).names = table.names := by
      simp only [Database.storedTable, Table.names, List.map_map, Function.comp_def]
    rw [sameNames]
    exact wellFormed.1
  · intro entry member
    obtain ⟨source, inTable, rfl⟩ := List.mem_map.mp member
    exact Column.suits_lossy ((List.length_map _).trans (wellFormed.2 source inTable).size_eq)

theorem soundFile_database {table : Table} (wellFormed : table.WellFormed) :
    SoundFile (.database (Database.storedTable table)) :=
  wellFormed_storedTable wellFormed

variable {folder : LookupFolder} {name : String} {location : Location} {file : LookupFile}

theorem Sound.file? (sound : folder.Sound) (found : folder.file? name location = some file) :
    SoundFile file := by
  rw [LookupFolder.file?] at found
  split at found
  · cases found
  · exact sound (location, file) (Table.mem_of_lookup found)

theorem Sound.put (sound : folder.Sound) (soundFile : SoundFile file) (location : Location) :
    (folder.put location file).Sound := by
  rw [LookupFolder.put]
  split
  · intro entry member
    obtain ⟨before, inFolder, rfl⟩ := List.mem_map.mp member
    split
    · exact soundFile
    · exact sound before inFolder
  · intro entry member
    rcases List.mem_append.mp member with old | new
    · exact sound entry old
    · cases List.mem_singleton.mp new
      exact soundFile

theorem decode_keeps (soundFile : SoundFile file) (format : Format) :
    Keeps Table.WellFormed (decode format file) := by
  cases file with
  | database table => cases format <;> first | exact .ok soundFile | exact .error rfl
  | text content =>
      cases format with
      | csv | tsv => exact readDelimited_keeps _ content
      | json => exact readJson_keeps content
      | jsonLines => exact readJsonLines_keeps content
      | database => exact .error rfl

theorem ofPath_keeps (path : String) : Keeps (fun _ => True) (Format.ofPath path) := by
  rw [Format.ofPath.eq_def]
  split
  all_goals first | exact .ok trivial | exact .error rfl

theorem read_keeps (soundFile : SoundFile file) (folder : LookupFolder) (name : String) :
    Keeps Table.WellFormed (folder.read name file) := by
  -- the equation of `read` would be proved by working out the format of the path
  delta read
  split
  · exact decode_keeps soundFile _
  · next failed => exact .error ((ofPath_keeps _).of_eq_error failed)

theorem locate_keeps (name : String) : Keeps (fun _ => True) (locate name) := by
  rw [locate]
  split
  · exact .error rfl
  · exact .ok trivial

theorem load_keeps (sound : folder.Sound) (name : String) :
    Keeps Table.WellFormed (folder.load name) := by
  rw [load]
  split
  · next failed => exact .error ((locate_keeps name).of_eq_error failed)
  · split
    · exact .error rfl
    · next file found =>
        exact (read_keeps (sound.file? found) folder name).mapError _ fun _ => rfl

variable {table : Table}

theorem writeDatabase_keeps (sound : folder.Sound) (wellFormed : table.WellFormed) (name : String)
    (location : Location) : Saves Sound (folder.writeDatabase name location table) := by
  simp only [writeDatabase]
  refine iteInduction (fun _ => ⟨.error rfl, sound⟩) fun _ => ?_
  refine iteInduction (fun _ => ?_) fun _ => ⟨.error rfl, ?_⟩
  · exact ⟨.ok trivial, sound.put (soundFile_database wellFormed) location⟩
  · exact iteInduction (fun _ => sound.put (soundFile_text _) location) fun _ => sound

theorem write_keeps (sound : folder.Sound) (wellFormed : table.WellFormed) (name : String)
    (location : Location) : Saves Sound (folder.write name location table) := by
  delta write
  split
  · next failed => exact ⟨.error ((ofPath_keeps _).of_eq_error failed), sound⟩
  · split
    · exact writeDatabase_keeps sound wellFormed name location
    · split
      · exact ⟨.ok trivial, sound.put (soundFile_text _) location⟩
      · exact ⟨.error rfl, sound⟩

theorem save_keeps (sound : folder.Sound) (wellFormed : table.WellFormed) (name : String)
    (mode : SaveMode) : Saves Sound (folder.save name table mode) := by
  rw [save]
  split
  · next failed => exact ⟨.error ((locate_keeps name).of_eq_error failed), sound⟩
  · next location _ =>
      simp only
      split
      · exact (write_keeps sound wellFormed name location).mapError LookupError.codec fun _ => rfl
      · next file found =>
          have reads := read_keeps (sound.file? found) folder name
          split
          · exact ⟨.ok trivial, sound⟩
          · split
            · split
              · next failed => exact ⟨.error (reads.of_eq_error failed), sound⟩
              · next existing done =>
                  exact (write_keeps sound
                    (Table.wellFormed_concat_pair (reads.of_eq_ok done) wellFormed) name
                      location).mapError LookupError.codec fun _ => rfl
            · exact (write_keeps sound wellFormed name location).mapError LookupError.codec
                fun _ => rfl

instance : SoundStore LookupFolder where
  Sound := Sound
  load_keeps := load_keeps
  save_keeps := save_keeps

end LookupFolder

end LogPipe
