import LogPipe.Lookup.Folder
import LogPipe.Proofs.Codec.Stacking
import LogPipe.Proofs.Lookup.Memory

/-!
# JSON files in a folder

A name of one component that ends in the extension of JSON files, behind something else, is the
name of a JSON file right below the root.  When a folder holds no other files, loading such a
name reads the table of its file, and saving writes one.
-/

namespace LogPipe

open LogPipe.Codec LogPipe.Text

/-- A name of one component that ends in the extension of JSON files, behind a stem. -/
structure JsonName (name : String) : Prop where
  named : ∃ stem, stem ≠ [] ∧ name.toList = stem ++ ".json".toList
  oneComponent : '/' ∉ name.toList
  writable : '\x00' ∉ name.toList

theorem splitOn_of_not_mem {text : List Char} (absent : '/' ∉ text) : text.splitOn '/' = [text] :=
  List.splitOnP_eq_singleton fun _ member =>
    beq_eq_false_iff_ne.mpr fun isSlash => absent (isSlash ▸ member)

namespace JsonName

variable {name : String} (jsonName : JsonName name)

include jsonName

theorem reverse_eq : ∃ c rest,
    name.toList.reverse = 'n' :: 'o' :: 's' :: 'j' :: '.' :: c :: rest := by
  obtain ⟨stem, some, named⟩ := jsonName.named
  obtain ⟨c, rest, reversed⟩ := List.exists_cons_of_ne_nil (mt List.reverse_eq_nil_iff.mp some)
  exact ⟨c, rest, by rw [named, List.reverse_append, reversed]; rfl⟩

theorem length_lt : 5 < name.toList.length := by
  obtain ⟨c, rest, reversed⟩ := jsonName.reverse_eq
  rw [← List.length_reverse, reversed]
  simp

theorem isPlain : name.toList ≠ [] ∧ name.toList ≠ ['.'] ∧ name.toList ≠ ['.', '.'] := by
  have long := jsonName.length_lt
  refine ⟨?_, ?_, ?_⟩ <;> intro same <;> rw [same] at long <;> simp at long

theorem pathComponents_eq : pathComponents name = [name.toList] := by
  obtain ⟨someChar, -⟩ := jsonName.isPlain
  rw [pathComponents, splitOn_of_not_mem jsonName.oneComponent]
  simp [someChar]

theorem locate_eq : LookupFolder.locate name = .ok [name.toList] := by
  obtain ⟨someChar, noDot, noDots⟩ := jsonName.isPlain
  have notEmpty : name.isEmpty = false := by
    rw [Bool.eq_false_iff, Ne, String.isEmpty_iff]
    rintro rfl
    exact someChar rfl
  have relative : ¬name.toList.head? = some '/' := fun first =>
    jsonName.oneComponent (List.mem_of_head? first)
  rw [LookupFolder.locate, jsonName.pathComponents_eq, notEmpty]
  simp [LookupFolder.isPlainComponent, noDot, noDots, relative]

theorem asksForFolder_eq : LookupFolder.asksForFolder name = false := by
  obtain ⟨c, rest, reversed⟩ := jsonName.reverse_eq
  rw [LookupFolder.asksForFolder, reversed]
  rfl

/-- Below any root the file is the last component of the path. -/
theorem fileName?_eq (root : String) : fileName? (root ++ "/" ++ name) = some name.toList := by
  obtain ⟨someChar, noDot, noDots⟩ := jsonName.isPlain
  have path : (root ++ "/" ++ name).toList = root.toList ++ '/' :: name.toList := by
    rw [String.toList_append, String.toList_append, List.append_assoc]
    rfl
  have parts : (root.toList ++ '/' :: name.toList).splitOn '/' =
      root.toList.splitOn '/' ++ [name.toList] := by
    rw [← splitOn_of_not_mem jsonName.oneComponent]
    exact List.splitOnP_append_cons _ _ rfl
  have last : (pathComponents (root ++ "/" ++ name)).getLast? = some name.toList := by
    rw [pathComponents, path, parts, List.zipIdx_append, List.filter_append, List.map_append]
    simp [someChar, noDot]
  rw [fileName?, last]
  simp [noDot, noDots]

theorem extension?_eq (root : String) : extension? (root ++ "/" ++ name) = some "json" := by
  obtain ⟨c, rest, reversed⟩ := jsonName.reverse_eq
  have long := jsonName.length_lt
  have found : name.toList.reverse.takeWhile (fun c => c != '.') = ['n', 'o', 's', 'j'] := by
    rw [reversed]
    rfl
  have behind : ¬name.toList.length - ['n', 'o', 's', 'j'].reverse.length ≤ 1 := by
    rw [List.length_reverse]
    simp
    omega
  rw [extension?, jsonName.fileName?_eq root]
  simp only [found, if_neg behind]
  rfl

theorem format_eq (root : String) : Format.ofPath (root ++ "/" ++ name) = .ok .json := by
  have lower : asciiLower "json" = "json" := by decide +kernel
  rw [Format.ofPath.eq_def, jsonName.extension?_eq root, Option.getD_some, lower]
  rfl

end JsonName

namespace LookupFolder

/-- The file of a table under a name of a JSON file. -/
def jsonFile (table : Table) : LookupFile :=
  .text (writeJson table)

/-- A folder whose files all stand right below the root. -/
def Flat (folder : LookupFolder) : Prop :=
  ∀ entry ∈ folder.files, entry.1.length = 1

theorem files_put (folder : LookupFolder) (location : Location) (file : LookupFile) :
    (folder.put location file).files = entriesWith folder.files location file := by
  rw [put, entriesWith]
  split <;> rfl

variable {folder : LookupFolder} {name : String} {table : Table}

theorem Flat.put (flat : folder.Flat) (component : List Char) (file : LookupFile) :
    (folder.put [component] file).Flat := by
  intro entry member
  rw [files_put, entriesWith] at member
  split at member
  · obtain ⟨before, inFolder, rfl⟩ := List.mem_map.mp member
    split
    · rfl
    · exact flat before inFolder
  · rcases List.mem_append.mp member with old | new
    · exact flat entry old
    · rw [List.mem_singleton.mp new]
      rfl

variable (flat : folder.Flat) (jsonName : JsonName name)

include jsonName

theorem file?_eq : folder.file? name [name.toList] = folder.files.lookup [name.toList] := by
  rw [file?, jsonName.asksForFolder_eq]
  rfl

theorem read_jsonFile (storable : Storable table) :
    folder.read name (jsonFile table) = .ok table := by
  -- the equation of `read` would be proved by working out the format of the path
  delta read
  rw [path, jsonName.format_eq]
  exact storable.readJson

include flat

/-- No other file stands in the way of a file right below the root. -/
theorem canWrite_eq : folder.canWrite name [name.toList] = true := by
  have noFolder : folder.isFolder [name.toList] = false := by
    rw [isFolder, List.isEmpty_cons, Bool.false_or, List.any_eq_false]
    intro entry member
    obtain ⟨component, location⟩ := List.length_eq_one_iff.mp (flat entry member)
    rw [location]
    simp
  have noNull : name.toList.contains '\x00' = false :=
    Bool.eq_false_iff.mpr (mt List.contains_iff_mem.mp jsonName.writable)
  rw [canWrite, jsonName.asksForFolder_eq, noFolder, noNull]
  rfl

theorem write_eq (table : Table) : folder.write name [name.toList] table =
    (.ok (), folder.put [name.toList] (jsonFile table)) := by
  delta write
  rw [path, jsonName.format_eq]
  simp only [encode?, canWrite_eq flat jsonName, if_true]
  rfl

variable {stored : Option Table}
  (found : folder.files.lookup [name.toList] = stored.map jsonFile)
  (storable : ∀ table ∈ stored, Storable table)

include found storable

omit flat in
theorem load_eq : folder.load name = stored.elim (.error (.notFound name)) .ok := by
  rw [load, jsonName.locate_eq]
  simp only [file?_eq jsonName, found]
  cases stored with
  | none => rfl
  | some existing =>
      simp only [Option.map_some, read_jsonFile jsonName (storable existing rfl)]
      rfl

/-- Saving writes the file of the table, or of the stack of the tables, or nothing. -/
theorem save_eq (table : Table) (mode : SaveMode) :
    folder.save name table mode =
      (.ok (), stored.elim (folder.put [name.toList] (jsonFile table)) fun existing =>
        if mode.keepsOld table then folder
        else
          folder.put [name.toList]
            (jsonFile (if mode.append then Table.concat [existing, table] else table))) := by
  rw [save, jsonName.locate_eq]
  simp only [file?_eq jsonName, found]
  cases stored with
  | none =>
      simp only [Option.map_none, write_eq flat jsonName]
      rfl
  | some existing =>
      simp only [Option.map_some, read_jsonFile jsonName (storable existing rfl),
        write_eq flat jsonName]
      cases mode.keepsOld table <;> cases mode.append <;> rfl

end LookupFolder

end LogPipe
