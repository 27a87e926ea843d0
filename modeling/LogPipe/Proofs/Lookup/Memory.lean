import LogPipe.Lookup.Memory

/-!
# What a memory of lookups loads

A table that has been saved is loaded, or stands in what is loaded below the tables that it
was appended to.  Under other names nothing changes.
-/

namespace LogPipe

section Entries

variable {α β : Type} [BEq α]

/-- Entries with a value put under a key, in place of the one that is there. -/
def entriesWith (entries : List (α × β)) (key : α) (value : β) : List (α × β) :=
  if entries.any fun entry => entry.1 == key then
    entries.map fun entry => if entry.1 == key then (key, value) else entry
  else
    entries ++ [(key, value)]

variable [LawfulBEq α] {entries : List (α × β)} {key other : α} {value : β}

theorem lookup_map_of_any (there : (entries.any fun entry => entry.1 == key) = true) :
    (entries.map fun entry => if entry.1 == key then (key, value) else entry).lookup key =
      some value := by
  induction entries with
  | nil => cases there
  | cons entry entries induction =>
      rw [List.map_cons]
      by_cases same : (entry.1 == key) = true
      · rw [if_pos same, List.lookup_cons_self]
      · have other : (key == entry.1) = false := by
          rw [BEq.comm]
          exact Bool.eq_false_iff.mpr same
        rw [if_neg same, List.lookup_cons, other]
        exact induction (by simpa [same] using there)

theorem lookup_map_of_ne (different : other ≠ key) :
    (entries.map fun entry => if entry.1 == key then (key, value) else entry).lookup other =
      entries.lookup other := by
  have differs : (other == key) = false := beq_eq_false_iff_ne.mpr different
  induction entries with
  | nil => rfl
  | cons entry entries induction =>
      rw [List.map_cons]
      by_cases same : (entry.1 == key) = true
      · rw [if_pos same, List.lookup_cons, List.lookup_cons, eq_of_beq same, differs, induction]
      · rw [if_neg same, List.lookup_cons, List.lookup_cons, induction]

theorem lookup_entriesWith (entries : List (α × β)) (key : α) (value : β) :
    (entriesWith entries key value).lookup key = some value := by
  rw [entriesWith]
  split
  · next there => exact lookup_map_of_any there
  · next absent =>
      have free : entries.lookup key = none := by
        rw [List.lookup_eq_none_iff]
        intro entry member
        rw [bne_iff_ne]
        rintro rfl
        exact absent (List.any_eq_true.mpr ⟨entry, member, beq_self_eq_true _⟩)
      simp [List.lookup_append, free]

theorem lookup_entriesWith_of_ne (different : other ≠ key) (entries : List (α × β)) (value : β) :
    (entriesWith entries key value).lookup other = entries.lookup other := by
  have differs : (other == key) = false := beq_eq_false_iff_ne.mpr different
  rw [entriesWith]
  split
  · exact lookup_map_of_ne different
  · rw [List.lookup_append, List.lookup_cons, differs]
    simp

end Entries

namespace LookupMemory

variable {memory : LookupMemory} {name other : String} {existing table : Table} {mode : SaveMode}

theorem load_eq_ok_iff :
    memory.load name = .ok table ↔ memory.tables.lookup name = some table := by
  rw [load]
  cases memory.tables.lookup name <;> simp

theorem tables_put (memory : LookupMemory) (name : String) (table : Table) :
    (memory.put name table).tables = entriesWith memory.tables name table := by
  rw [put, entriesWith]
  split <;> rfl

theorem load_put (memory : LookupMemory) (name : String) (table : Table) :
    (memory.put name table).load name = .ok table := by
  rw [load_eq_ok_iff, tables_put, lookup_entriesWith]

theorem load_put_of_ne (different : other ≠ name) (memory : LookupMemory) (table : Table) :
    (memory.put name table).load other = memory.load other := by
  rw [load, load, tables_put, lookup_entriesWith_of_ne different]

theorem load_save_of_absent (table : Table) (mode : SaveMode)
    (absent : memory.load name = .error (.notFound name)) :
    (memory.save name table mode).load name = .ok table := by
  have free : memory.tables.lookup name = none := by
    rw [load] at absent
    split at absent
    · cases absent
    · assumption
  simp only [save, free, load_put]

/-- Appending to a lookup stacks the table below the one that is there. -/
theorem load_save_append (there : memory.load name = .ok existing) (appends : mode.append = true)
    (saves : mode.keepsOld table = false) :
    (memory.save name table mode).load name = .ok (Table.concat [existing, table]) := by
  rw [load_eq_ok_iff] at there
  simp only [save, there, saves, appends, Bool.false_eq_true, if_false, if_true, load_put]

/-- Saving changes nothing under other names. -/
theorem load_save_of_ne (different : other ≠ name) (memory : LookupMemory) (table : Table)
    (mode : SaveMode) : (memory.save name table mode).load other = memory.load other := by
  rw [save]
  split
  · exact load_put_of_ne different memory _
  · split
    · rfl
    · exact load_put_of_ne different memory _

end LookupMemory

end LogPipe
