import LogPipe.Proofs.Lookup.Folder

/-!
# A folder beside a memory

A folder and a memory are asked the same, call by call.  As long as the names are those of JSON
files, the memory has a table wherever the folder has the text of it, and tables that have been
stacked in one are the tables that are read, stacked and written again in the other.  So nobody
can tell the two apart by their answers.
-/

namespace LogPipe

open LogPipe.Codec

inductive LookupCall where
  | load (name : String)
  | save (name : String) (table : Table) (mode : SaveMode)

/-- What a store answers to a call. -/
inductive LookupAnswer where
  | loaded (result : Except LookupError Table)
  | saved (result : Except LookupError Unit)
deriving DecidableEq

namespace LookupCall

section Answers

variable {σ : Type} [LookupStore σ]

/-- The answer to a call, and the store that is left. -/
def answer (store : σ) : LookupCall → LookupAnswer × σ
  | .load name => (.loaded (LookupStore.load store name), store)
  | .save name table mode =>
      (.saved (LookupStore.save store name table mode).1,
        (LookupStore.save store name table mode).2)

def answers (store : σ) : List LookupCall → List LookupAnswer
  | [] => []
  | call :: calls => (call.answer store).1 :: answers (call.answer store).2 calls

end Answers

/-- Calls on JSON files.  A table is one that can be stored, or it has no rows and leaves the
table alone that is there. -/
def Served (memory : LookupMemory) : LookupCall → Prop
  | .load name => JsonName name
  | .save name table mode =>
      JsonName name ∧
        (Storable table ∨ mode.keepsOld table = true ∧ ∃ existing, memory.load name = .ok existing)

/-- Which calls are served depends on what the earlier ones have left. -/
def AllServed (memory : LookupMemory) : List LookupCall → Prop
  | [] => True
  | call :: calls => call.Served memory ∧ AllServed (call.answer memory).2 calls

end LookupCall

/-- A memory and a folder with the texts of its tables. -/
structure Agree (memory : LookupMemory) (folder : LookupFolder) : Prop where
  flat : folder.Flat
  files : ∀ {name}, JsonName name →
    folder.files.lookup [name.toList] = (memory.tables.lookup name).map LookupFolder.jsonFile
  storable : ∀ {name}, JsonName name → ∀ table ∈ memory.tables.lookup name, Storable table

namespace Agree

variable {memory : LookupMemory} {folder : LookupFolder} {name : String} {table : Table}

theorem empty (root : String) : Agree ⟨[]⟩ ⟨root, []⟩ :=
  ⟨List.forall_mem_nil _, fun _ => rfl, fun _ _ found => nomatch found⟩

theorem put (agree : Agree memory folder) (storable : Storable table) (name : String) :
    Agree (memory.put name table) (folder.put [name.toList] (LookupFolder.jsonFile table)) where
  flat := agree.flat.put name.toList _
  files := by
    intro other jsonName
    rw [LookupFolder.files_put, LookupMemory.tables_put]
    by_cases same : other = name
    · rw [same, lookup_entriesWith, lookup_entriesWith]
      rfl
    · have elsewhere : [other.toList] ≠ [name.toList] := fun equal =>
        same (String.toList_inj.mp (List.singleton_inj.mp equal))
      rw [lookup_entriesWith_of_ne elsewhere, lookup_entriesWith_of_ne same, agree.files jsonName]
  storable := by
    intro other jsonName found member
    rw [LookupMemory.tables_put] at member
    by_cases same : other = name
    · rw [same, lookup_entriesWith, Option.mem_some] at member
      exact member ▸ storable
    · rw [lookup_entriesWith_of_ne same] at member
      exact agree.storable jsonName found member

theorem load_eq (agree : Agree memory folder) (jsonName : JsonName name) :
    folder.load name = memory.load name := by
  rw [LookupFolder.load_eq jsonName (agree.files jsonName) (agree.storable jsonName),
    LookupMemory.load]
  cases memory.tables.lookup name <;> rfl

/-- Saving is done in the memory and in the folder, and they agree again. -/
theorem save (agree : Agree memory folder) {mode : SaveMode}
    (served : (LookupCall.save name table mode).Served memory) :
    (folder.save name table mode).1 = .ok () ∧
      Agree (memory.save name table mode) (folder.save name table mode).2 := by
  obtain ⟨jsonName, fits⟩ := served
  rw [LookupFolder.save_eq agree.flat jsonName (agree.files jsonName) (agree.storable jsonName),
    LookupMemory.save]
  refine ⟨rfl, ?_⟩
  cases found : memory.tables.lookup name with
  | none =>
      obtain storable | ⟨-, existing, there⟩ := fits
      · exact agree.put storable name
      -- without a table that is there, one without rows is not served
      · rw [LookupMemory.load_eq_ok_iff, found] at there
        cases there
  | some existing =>
      by_cases keeps : mode.keepsOld table = true
      · simp only [if_pos keeps]
        exact agree
      · have storable : Storable table := fits.resolve_right fun kept => keeps kept.1
        have existingStorable := agree.storable jsonName existing found
        simp only [if_neg keeps]
        apply agree.put
        split
        · exact existingStorable.concat storable
        · exact storable

/-- A call that is served has the same answer, and the stores agree after it. -/
theorem answer {call : LookupCall} (agree : Agree memory folder) (served : call.Served memory) :
    (call.answer folder).1 = (call.answer memory).1 ∧
      Agree (call.answer memory).2 (call.answer folder).2 := by
  cases call with
  | load name => exact ⟨congrArg LookupAnswer.loaded (agree.load_eq served), agree⟩
  | save name table mode =>
      obtain ⟨done, after⟩ := agree.save served
      exact ⟨congrArg LookupAnswer.saved done, after⟩

theorem answers {calls : List LookupCall} (agree : Agree memory folder)
    (served : LookupCall.AllServed memory calls) :
    LookupCall.answers folder calls = LookupCall.answers memory calls := by
  induction calls generalizing memory folder with
  | nil => rfl
  | cons call calls induction =>
      obtain ⟨here, later⟩ := served
      obtain ⟨same, after⟩ := agree.answer here
      rw [LookupCall.answers, LookupCall.answers, same, induction after later]

end Agree

namespace LookupCall

/-- What a memory answers. -/
theorem answers_of_memory (memory : LookupMemory) (calls : List LookupCall) :
    ∀ answer ∈ answers memory calls,
      answer = .saved (.ok ()) ∨ (∃ table, answer = .loaded (.ok table)) ∨
        ∃ name, answer = .loaded (.error (.notFound name)) := by
  induction calls generalizing memory with
  | nil => exact List.forall_mem_nil _
  | cons call calls induction =>
      refine List.forall_mem_cons.mpr ⟨?_, induction _⟩
      cases call with
      | save name table mode => exact .inl rfl
      | load name =>
          have loaded : (LookupCall.answer memory (.load name)).1 = .loaded (memory.load name) :=
            rfl
          rw [loaded, LookupMemory.load]
          cases memory.tables.lookup name with
          | none => exact .inr (.inr ⟨name, rfl⟩)
          | some table => exact .inr (.inl ⟨table, rfl⟩)

/-- A folder and a memory that start empty cannot be told apart on JSON files.  Every call has
the same answer: a save is done, and a load gives the same table or says that there is none. -/
theorem folder_answers_as_memory (root : String) {calls : List LookupCall}
    (served : AllServed ⟨[]⟩ calls) :
    answers (⟨root, []⟩ : LookupFolder) calls = answers (⟨[]⟩ : LookupMemory) calls ∧
      ∀ answer ∈ answers (⟨root, []⟩ : LookupFolder) calls,
        answer = .saved (.ok ()) ∨ (∃ table, answer = .loaded (.ok table)) ∨
          ∃ name, answer = .loaded (.error (.notFound name)) := by
  have same := (Agree.empty root).answers served
  exact ⟨same, same ▸ answers_of_memory ⟨[]⟩ calls⟩

section Samples

def numbered : Table :=
  ⟨1, [("n", ⟨.int, [.int 1]⟩)]⟩

theorem storable_numbered : Storable numbered := by
  refine storable_iff.mpr ⟨⟨by decide, by decide, ?_, by decide⟩, by decide⟩
  simp [numbered, Cell.Plain.int]

def listed : Table :=
  ⟨1, [("n", ⟨.text, [.text "x"]⟩), ("items", ⟨.list, [.list [.bool true, .null]]⟩)]⟩

theorem storable_listed : Storable listed := by
  refine storable_iff.mpr ⟨⟨by decide, by decide, ?_, by decide⟩, by decide⟩
  have items : Cell.Plain (.list [.bool true, .null]) := by
    refine .list ?_
    simp [Cell.Plain.bool, Cell.Plain.null]
  simp [listed, Cell.Plain.text, items]

/-- A lookup that is appended to twice, once without rows. -/
theorem folder_answers_as_memory_appended :
    answers (⟨"lookups", []⟩ : LookupFolder)
        [.save "hosts.json" numbered {}, .save "hosts.json" listed ⟨true, true⟩,
          .save "hosts.json" Table.empty ⟨true, false⟩, .load "hosts.json", .load "users.json"] =
      [.saved (.ok ()), .saved (.ok ()), .saved (.ok ()),
        .loaded (.ok ⟨2, [("n", ⟨.text, [.text "1", .text "x"]⟩),
          ("items", ⟨.list, [.null, .list [.bool true, .null]]⟩)]⟩),
        .loaded (.error (.notFound "users.json"))] := by
  have hosts : JsonName "hosts.json" :=
    ⟨⟨"hosts".toList, by decide, by decide⟩, by decide, by decide⟩
  have users : JsonName "users.json" :=
    ⟨⟨"users".toList, by decide, by decide⟩, by decide, by decide⟩
  refine (folder_answers_as_memory "lookups" ?_).1.trans (by decide +kernel)
  exact ⟨⟨hosts, .inl storable_numbered⟩, ⟨hosts, .inl storable_listed⟩,
    ⟨hosts, .inr ⟨by decide, _, rfl⟩⟩, hosts, users, trivial⟩

/-- A name that is an extension and nothing else has no extension, and one with a null
character cannot be written.  A memory saves under both. -/
theorem folder_refuses_names :
    Storable numbered ∧
      (answers (⟨"lookups", []⟩ : LookupFolder) [.save ".json" numbered {}] =
          [.saved (.error (.codec (.unsupportedFormat "lookups/.json")))] ∧
        answers (⟨[]⟩ : LookupMemory) [.save ".json" numbered {}] = [.saved (.ok ())]) ∧
      answers (⟨"lookups", []⟩ : LookupFolder) [.save "a\x00.json" numbered {}] =
          [.saved (.error (.codec .inaccessible))] ∧
        answers (⟨[]⟩ : LookupMemory) [.save "a\x00.json" numbered {}] = [.saved (.ok ())] :=
  ⟨storable_numbered, ⟨by decide +kernel, by decide +kernel⟩, by decide +kernel,
    by decide +kernel⟩

end Samples

end LookupCall

end LogPipe
