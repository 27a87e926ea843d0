import LogPipe.Table.Basic

/-!
# Well-formed tables

A table built from the outside keeps three promises: its column names are
distinct, every column has one cell per row, and a column holds only missing
markers and cells of its own kind.  A computation keeps a property when its result has it and
its error, if it fails, is never a length mismatch.
-/

namespace LogPipe

/-- A cell that may stand in a column of a kind: a missing marker, or a cell of
the kind itself. -/
def Cell.Fits (kind : Kind) (cell : Cell) : Prop :=
  cell.kind = .null ∨ cell.kind = kind

instance (kind : Kind) (cell : Cell) : Decidable (cell.Fits kind) :=
  inferInstanceAs (Decidable (_ ∨ _))

/-- All cells of a column fit its kind. -/
def Column.Uniform (column : Column) : Prop :=
  ∀ cell ∈ column.cells, cell.Fits column.kind

instance (column : Column) : Decidable column.Uniform :=
  inferInstanceAs (Decidable (∀ cell ∈ column.cells, _))

namespace Table

/-- The representation invariant of tables. -/
structure WellFormed (table : Table) : Prop where
  names_nodup : table.names.Nodup
  sizes : ∀ entry ∈ table.columns, entry.2.size = table.rows
  uniform : ∀ entry ∈ table.columns, entry.2.Uniform

instance (table : Table) : Decidable table.WellFormed :=
  decidable_of_iff
    (table.names.Nodup ∧ (∀ entry ∈ table.columns, entry.2.size = table.rows) ∧
      ∀ entry ∈ table.columns, entry.2.Uniform)
    ⟨fun ⟨nodup, sizes, uniform⟩ => ⟨nodup, sizes, uniform⟩,
      fun ⟨nodup, sizes, uniform⟩ => ⟨nodup, sizes, uniform⟩⟩

theorem mem_of_lookup {κ α : Type} [BEq κ] [LawfulBEq κ] {entries : List (κ × α)} {key : κ}
    {value : α} (found : entries.lookup key = some value) : (key, value) ∈ entries := by
  obtain ⟨before, after, split, -⟩ := List.lookup_eq_some_iff.mp found
  simp [split]

/-- With distinct keys every value is found under its key. -/
theorem lookup_of_mem {κ α : Type} [BEq κ] [LawfulBEq κ] {entries : List (κ × α)} {key : κ}
    {value : α} (distinct : (entries.map Prod.fst).Nodup) (member : (key, value) ∈ entries) :
    entries.lookup key = some value := by
  induction entries with
  | nil => cases member
  | cons head rest induction =>
      obtain ⟨first, shown⟩ := head
      rw [List.map_cons, List.nodup_cons] at distinct
      rcases List.mem_cons.mp member with same | later
      · cases same
        exact List.lookup_cons_self
      · have different : (key == first) = false := by
          rw [beq_eq_false_iff_ne]
          rintro rfl
          exact distinct.1 (List.mem_map.mpr ⟨(key, value), later, rfl⟩)
        rw [List.lookup_cons, different]
        exact induction distinct.2 later

theorem mem_columns_of_column? {table : Table} {name : String} {column : Column}
    (found : table.column? name = some column) :
    (name, column) ∈ table.columns :=
  mem_of_lookup found

theorem column?_isSome_iff {table : Table} {name : String} :
    (table.column? name).isSome ↔ name ∈ table.names := by
  simp only [column?, names, List.lookup_isSome_iff, beq_iff_eq, List.mem_map]
  constructor
  · rintro ⟨entry, member, rfl⟩
    exact ⟨entry, member, rfl⟩
  · rintro ⟨entry, member, rfl⟩
    exact ⟨entry, member, rfl⟩

namespace WellFormed

variable {table : Table} {name : String} {column : Column}

theorem size_eq (wellFormed : table.WellFormed)
    (found : table.column? name = some column) : column.size = table.rows :=
  wellFormed.sizes _ (mem_columns_of_column? found)

theorem uniform_of_column? (wellFormed : table.WellFormed)
    (found : table.column? name = some column) : column.Uniform :=
  wellFormed.uniform _ (mem_columns_of_column? found)

end WellFormed

end Table

/-! ## Length mismatches

A column may turn out to be longer or shorter than its table or than another column.  The
errors of all parts of the library can carry that one inside. -/

/-- Errors among which there may be length mismatches. -/
class MayMismatch (ε : Type) where
  /-- Whether an error is a length mismatch, or wraps one. -/
  isMismatch : ε → Bool

export MayMismatch (isMismatch)

instance : MayMismatch ColumnError where
  isMismatch
    | .lengthMismatch _ _ => true
    | _ => false

instance : MayMismatch TableError where
  isMismatch
    | .lengthMismatch _ _ _ => true
    | .column error => isMismatch error
    | _ => false

section

variable {ε δ α β : Type} [MayMismatch ε] [MayMismatch δ]

/-- A result has a property, or is an error that is no length mismatch. -/
inductive Keeps (property : α → Prop) : Except ε α → Prop where
  | ok {value : α} (holds : property value) : Keeps property (.ok value)
  | error {failure : ε} (fine : isMismatch failure = false) : Keeps property (.error failure)

namespace Keeps

variable {property stronger : α → Prop} {final : β → Prop} {result : Except ε α}

theorem bind {next : α → Except ε β} (keeps : Keeps property result)
    (later : ∀ value, property value → Keeps final (next value)) :
    Keeps final (result >>= next) := by
  cases keeps with
  | ok holds => exact later _ holds
  | error fine => exact .error fine

theorem map {change : α → β} (keeps : Keeps property result)
    (later : ∀ value, property value → final (change value)) :
    Keeps final (result.map change) := by
  cases keeps with
  | ok holds => exact .ok (later _ holds)
  | error fine => exact .error fine

theorem imp (keeps : Keeps stronger result) (implies : ∀ value, stronger value → property value) :
    Keeps property result := by
  cases keeps with
  | ok holds => exact .ok (implies _ holds)
  | error fine => exact .error fine

/-- An error may be wrapped, as long as the wrapped one says the same. -/
theorem mapError (keeps : Keeps property result) (wrap : ε → δ)
    (wraps : ∀ failure, isMismatch (wrap failure) = isMismatch failure) :
    Keeps property (result.mapError wrap) := by
  cases keeps with
  | ok holds => exact .ok holds
  | error fine => exact .error ((wraps _).trans fine)

/-- Errors of parts that know nothing of lengths are no mismatches when they are wrapped. -/
theorem of_mapError {γ : Type} {result : Except γ α} {wrap : γ → δ}
    (never : ∀ failure, isMismatch (wrap failure) = false)
    (holds : ∀ value, result = .ok value → property value) :
    Keeps property (result.mapError wrap) := by
  cases result with
  | error failure => exact .error (never failure)
  | ok value => exact .ok (holds value rfl)

theorem wrapped {γ : Type} {result : Except γ α} {wrap : γ → δ}
    (never : ∀ failure, isMismatch (wrap failure) = false) :
    Keeps (fun _ => True) (result.mapError wrap) :=
  .of_mapError never fun _ _ => trivial

theorem of_eq_ok {value : α} (keeps : Keeps property result) (done : result = .ok value) :
    property value := by
  subst done
  cases keeps with
  | ok holds => exact holds

theorem of_eq_error {failure : ε} (keeps : Keeps property result)
    (failed : result = .error failure) : isMismatch failure = false := by
  subst failed
  cases keeps with
  | error fine => exact fine

end Keeps

end

end LogPipe
