import LogPipe.Proofs.Column.Uniformity
import LogPipe.Proofs.Table.Columns
import LogPipe.Proofs.Table.WellFormed
import LogPipe.Stats.Grouping
import LogPipe.Table.Filling
import LogPipe.Table.Join
import LogPipe.Table.Sorted
import Mathlib.Data.List.Nodup

/-!
# Operations on tables keep tables well formed

Each operation is looked at once: from well-formed tables, and from columns that have one
cell for each row, it makes a well-formed table, and it never fails over a length.
-/

namespace LogPipe

/-- A column that a well-formed table with a number of rows can have. -/
structure Column.Suits (rows : Nat) (column : Column) : Prop where
  size_eq : column.size = rows
  uniform : column.Uniform

namespace Column

theorem suits_lossy {rows : Nat} {cells : List Cell} (length : cells.length = rows) :
    (lossy cells).Suits rows :=
  ⟨(size_lossy cells).trans length, uniform_lossy cells⟩

theorem suits_nulls (rows : Nat) : (nulls rows).Suits rows :=
  ⟨size_replicate rows .null, uniform_replicate rows .null⟩

theorem Suits.take {rows : Nat} {column : Column} (suits : column.Suits rows)
    (positions : List Nat) : (column.take positions).Suits positions.length :=
  ⟨size_take column positions, uniform_take suits.uniform positions⟩

theorem suits_reindex {column gathered : Column} {positions : List (Option Nat)}
    (done : column.reindex positions = .ok gathered) : gathered.Suits positions.length := by
  obtain ⟨size, uniform⟩ := ofKind_eq_ok done
  rw [List.length_map] at size
  exact ⟨size, uniform⟩

end Column

namespace Table

/-- A table whose columns all suit it, under names that differ. -/
theorem wellFormed_iff_suits {table : Table} :
    table.WellFormed ↔
      table.names.Nodup ∧ ∀ entry ∈ table.columns, entry.2.Suits table.rows := by
  constructor
  · intro wellFormed
    exact ⟨wellFormed.names_nodup, fun entry member =>
      ⟨wellFormed.sizes entry member, wellFormed.uniform entry member⟩⟩
  · rintro ⟨distinct, suit⟩
    exact ⟨distinct, fun entry member => (suit entry member).size_eq,
      fun entry member => (suit entry member).uniform⟩

/-- A well-formed table with as many rows as another one. -/
def Follows (table next : Table) : Prop :=
  next.WellFormed ∧ next.rows = table.rows

theorem nodup_append_fresh {names : List String} {name : String} (distinct : names.Nodup)
    (fresh : name ∉ names) : (names ++ [name]).Nodup :=
  (List.perm_append_singleton name names).nodup_iff.mpr (List.nodup_cons.mpr ⟨fresh, distinct⟩)

/-- Names stay distinct when one of them is replaced and the replacement is dropped before. -/
theorem nodup_renamed {names : List String} (distinct : names.Nodup) (source target : String) :
    ((names.filter fun name => name != target).map fun name =>
      if name == source then target else name).Nodup := by
  refine (distinct.filter _).map_on ?_
  intro left inLeft right inRight same
  have leftOther : left ≠ target := by simpa using (List.mem_filter.mp inLeft).2
  have rightOther : right ≠ target := by simpa using (List.mem_filter.mp inRight).2
  by_cases leftSource : left = source <;> by_cases rightSource : right = source
  · rw [leftSource, rightSource]
  · simp [leftSource, rightSource, rightOther.symm] at same
  · simp [leftSource, rightSource, leftOther] at same
  · simpa [leftSource, rightSource] using same

section Single

variable {table : Table} (wellFormed : table.WellFormed)

include wellFormed

theorem WellFormed.suits {name : String} {column : Column}
    (found : table.column? name = some column) : column.Suits table.rows :=
  ⟨wellFormed.size_eq found, wellFormed.uniform_of_column? found⟩

/-! ## Choosing rows -/

theorem WellFormed.takeRows (positions : List Nat) : (table.takeRows positions).WellFormed := by
  rw [wellFormed_iff_suits] at wellFormed
  rw [wellFormed_iff_suits]
  constructor
  · have sameNames : (table.takeRows positions).names = table.names := by
      simp only [Table.takeRows, names, List.map_map, Function.comp_def]
    rw [sameNames]
    exact wellFormed.1
  · intro entry member
    obtain ⟨source, inTable, rfl⟩ := List.mem_map.mp member
    exact (wellFormed.2 source inTable).take positions

theorem filterRows_keeps {mask : List Bool} (length : mask.length = table.rows) :
    Keeps WellFormed (table.filterRows mask) := by
  rw [filterRows, if_neg (by simp [length])]
  exact .ok (wellFormed.takeRows _)

theorem WellFormed.dedup (columns : List Column) (count : Nat) :
    (table.dedup columns count).WellFormed :=
  wellFormed.takeRows _

theorem WellFormed.dedupRuns (columns : List Column) (count : Nat) :
    (table.dedupRuns columns count).WellFormed :=
  wellFormed.takeRows _

theorem require_keeps (name : String) :
    Keeps (Column.Suits table.rows) (table.require name) := by
  rw [require]
  cases found : table.column? name with
  | none => exact .error rfl
  | some column => exact .ok (wellFormed.suits found)

theorem sortColumns_keeps (keys : List SortKey) :
    Keeps (fun _ => True) (table.sortColumns keys) := by
  induction keys with
  | nil => exact .ok trivial
  | cons key keys induction =>
      rw [sortColumns]
      split
      · next failed => exact .error ((require_keeps wellFormed key.column).of_eq_error failed)
      · split
        · next failed => exact .error (induction.of_eq_error failed)
        · exact .ok trivial

theorem sortBy_keeps (keys : List SortKey) : Keeps WellFormed (table.sortBy keys) := by
  rw [sortBy]
  split
  · next failed => exact .error ((sortColumns_keeps wellFormed keys).of_eq_error failed)
  · exact .ok (wellFormed.takeRows _)

/-! ## Choosing and naming columns -/

theorem WellFormed.without (names : List String) : (table.without names).WellFormed := by
  rw [wellFormed_iff_suits] at *
  constructor
  · exact (List.filter_sublist.map Prod.fst).nodup wellFormed.1
  · intro entry member
    exact wellFormed.2 entry (List.mem_filter.mp member).1

/-- The new name is fresh among the columns that stay, and the old one stands only once. -/
theorem rename_keeps (source target : String) : Keeps WellFormed (table.rename source target) := by
  rw [rename]
  split
  · next failed => exact .error ((require_keeps wellFormed source).of_eq_error failed)
  · split
    · exact .ok wellFormed
    · rw [wellFormed_iff_suits] at wellFormed
      refine .ok (wellFormed_iff_suits.mpr ⟨?_, ?_⟩)
      · have renamed : ((table.columns.filter fun entry => entry.1 != target).map fun entry =>
            if entry.1 == source then (target, entry.2) else entry).map Prod.fst =
              (table.names.filter fun name => name != target).map fun name =>
                if name == source then target else name := by
          rw [names, List.filter_map, List.map_map, List.map_map]
          apply List.map_congr_left
          intro entry _
          simp only [Function.comp_apply, apply_ite Prod.fst]
        exact (congrArg List.Nodup renamed).mpr (nodup_renamed wellFormed.1 source target)
      · intro entry member
        obtain ⟨before, kept, rfl⟩ := List.mem_map.mp member
        have suits := wellFormed.2 before (List.mem_filter.mp kept).1
        split
        · exact suits
        · exact suits

theorem selectColumns_keeps {chosen : List (String × Column)}
    (suit : ∀ entry ∈ chosen, entry.2.Suits table.rows) (names : List String) :
    Keeps (fun columns => ∀ entry ∈ columns, entry.2.Suits table.rows)
      (table.selectColumns chosen names) := by
  induction names generalizing chosen with
  | nil => exact .ok suit
  | cons name names induction =>
      rw [selectColumns]
      split
      · exact induction suit
      · split
        · next column found =>
            have suits : column.Suits table.rows :=
              (require_keeps wellFormed name).of_eq_ok found
            refine induction fun entry member => ?_
            rcases List.mem_append.mp member with earlier | last
            · exact suit entry earlier
            · cases List.mem_singleton.mp last
              exact suits
        · next failed => exact .error ((require_keeps wellFormed name).of_eq_error failed)

end Single

/-- Columns of one length are refused only for their names. -/
theorem ofRows_keeps {rows : Nat} {columns : List (String × Column)}
    (suit : ∀ entry ∈ columns, entry.2.Suits rows) : Keeps WellFormed (ofRows rows columns) := by
  have sizes : ∀ entry ∈ columns, entry.2.size = rows := fun entry member =>
    (suit entry member).size_eq
  by_cases distinct : (columns.map Prod.fst).Nodup
  · rw [ofRows_of_nodup sizes distinct]
    exact .ok (wellFormed_iff_suits.mpr ⟨distinct, suit⟩)
  · obtain ⟨name, repeated⟩ := exists_firstRepeated_iff.mpr distinct
    rw [ofRows_of_firstRepeated sizes repeated]
    exact .error rfl

theorem ofColumns_keeps {rows : Nat} {columns : List (String × Column)}
    (suit : ∀ entry ∈ columns, entry.2.Suits rows) : Keeps WellFormed (ofColumns columns) := by
  cases columns with
  | nil => exact ofRows_keeps (List.forall_mem_nil _)
  | cons first columns =>
      have sameRows : first.2.size = rows := (suit first List.mem_cons_self).size_eq
      subst sameRows
      exact ofRows_keeps suit

section Building

variable {table : Table} (wellFormed : table.WellFormed)

include wellFormed

theorem select_keeps (names : List String) : Keeps WellFormed (table.select names) := by
  rw [select]
  have chosen := selectColumns_keeps wellFormed (List.forall_mem_nil _) names
  split
  · next columns done => exact ofRows_keeps (chosen.of_eq_ok done)
  · next failed => exact .error (chosen.of_eq_error failed)

theorem arrange_keeps (names : List String) : Keeps WellFormed (table.arrange names) := by
  refine ofRows_keeps fun entry member => ?_
  obtain ⟨name, -, rfl⟩ := List.mem_map.mp member
  cases found : table.column? name with
  | none => exact Column.suits_nulls table.rows
  | some column => exact wellFormed.suits found

end Building

/-! ## Adding columns -/

section Adding

variable {columns : List (String × Column)} {name : String} {column : Column}

theorem mem_insertColumn {entry : String × Column}
    (member : entry ∈ insertColumn columns name column) :
    entry = (name, column) ∨ entry ∈ columns := by
  rw [insertColumn] at member
  split at member
  · obtain ⟨before, inColumns, rfl⟩ := List.mem_map.mp member
    split
    · exact Or.inl rfl
    · exact Or.inr inColumns
  · rcases List.mem_append.mp member with earlier | last
    · exact Or.inr earlier
    · exact Or.inl (List.mem_singleton.mp last)

theorem nodup_insertColumn (distinct : (columns.map Prod.fst).Nodup) :
    ((insertColumn columns name column).map Prod.fst).Nodup := by
  rw [names_insertColumn]
  split
  · exact distinct
  · next fresh => exact nodup_append_fresh distinct fresh

variable {table : Table}

theorem withColumn_keeps (wellFormed : table.WellFormed) (name : String)
    (suits : column.Suits table.rows) : Keeps table.Follows (table.withColumn name column) := by
  rw [withColumn_of_size suits.size_eq]
  rw [wellFormed_iff_suits] at wellFormed
  refine .ok ⟨wellFormed_iff_suits.mpr ⟨nodup_insertColumn wellFormed.1, ?_⟩, rfl⟩
  intro entry member
  rcases mem_insertColumn member with rfl | old
  · exact suits
  · exact wellFormed.2 entry old

theorem putCells_keeps (wellFormed : table.WellFormed) (name : String) {cells : List Cell}
    (length : cells.length = table.rows) : Keeps table.Follows (table.putCells name cells) :=
  withColumn_keeps wellFormed name (Column.suits_lossy length)

theorem fillColumn_keeps (wellFormed : table.WellFormed) (fill : Cell) (name : String) :
    Keeps table.Follows (table.fillColumn fill name) := by
  rw [fillColumn]
  split
  · next column found =>
      apply putCells_keeps wellFormed
      rw [List.length_map]
      exact wellFormed.size_eq found
  · exact putCells_keeps wellFormed name List.length_replicate

theorem fillColumns_keeps (wellFormed : table.WellFormed) (fill : Cell) (names : List String) :
    Keeps WellFormed (table.fillColumns fill names) := by
  induction names generalizing table with
  | nil => exact .ok wellFormed
  | cons name names induction =>
      rw [fillColumns]
      have filled := fillColumn_keeps wellFormed fill name
      split
      · next failed => exact .error (filled.of_eq_error failed)
      · next next done => exact induction (filled.of_eq_ok done).1

theorem length_expandedRows (row : Nat) (cells : List Cell) :
    (expandedRows row cells).length = (cells.flatMap expandedCells).length := by
  induction cells generalizing row with
  | nil => rfl
  | cons cell cells induction =>
      rw [expandedRows, List.length_append, List.length_replicate, induction, List.flatMap_cons,
        List.length_append]

theorem fill_keeps (wellFormed : table.WellFormed) (fill : Cell) (names : List String) :
    Keeps WellFormed (table.fill fill names) :=
  fillColumns_keeps wellFormed fill _

/-- As many rows are taken as there are elements to put into them. -/
theorem expand_keeps (wellFormed : table.WellFormed) (name : String) (column : Column) :
    Keeps WellFormed (table.expand name column) :=
  (putCells_keeps (wellFormed.takeRows _) name (length_expandedRows 0 column.cells).symm).imp
    fun _ follows => follows.1

end Adding

/-! ## Putting tables together -/

section Stacking

theorem nodup_addNames {known : List String} (distinct : known.Nodup) (names : List String) :
    (names.foldl (fun names name =>
      if names.contains name then names else names ++ [name]) known).Nodup := by
  induction names generalizing known with
  | nil => exact distinct
  | cons name names induction =>
      rw [List.foldl_cons]
      apply induction
      split
      · exact distinct
      · next fresh =>
          exact nodup_append_fresh distinct (by simpa using fresh)

theorem nodup_unionNames (tables : List Table) : (unionNames tables).Nodup := by
  have kept : ∀ known : List String, known.Nodup →
      (tables.foldl (fun names table =>
        table.names.foldl (fun names name =>
          if names.contains name then names else names ++ [name]) names) known).Nodup := by
    induction tables with
    | nil => exact fun known distinct => distinct
    | cons table tables induction =>
        exact fun known distinct => induction _ (nodup_addNames distinct table.names)
  exact kept [] List.nodup_nil

theorem WellFormed.length_cellsOf {table : Table} (wellFormed : table.WellFormed) (name : String) :
    (table.cellsOf name).length = table.rows := by
  rw [cellsOf]
  cases found : table.column? name with
  | none => exact List.length_replicate
  | some column => exact wellFormed.size_eq found

theorem length_flatMap_cellsOf {tables : List Table} (each : ∀ table ∈ tables, table.WellFormed)
    (name : String) :
    (tables.flatMap fun table => table.cellsOf name).length = totalRows tables := by
  induction tables with
  | nil => rfl
  | cons table tables induction =>
      rw [List.forall_mem_cons] at each
      rw [List.flatMap_cons, List.length_append, each.1.length_cellsOf, induction each.2, totalRows]

@[simp] theorem names_concat (tables : List Table) : (concat tables).names = unionNames tables := by
  simp only [concat, names, List.map_map, Function.comp_def, List.map_id']

theorem wellFormed_concat {tables : List Table} (each : ∀ table ∈ tables, table.WellFormed) :
    (concat tables).WellFormed := by
  rw [wellFormed_iff_suits]
  constructor
  · rw [names_concat]
    exact nodup_unionNames tables
  · intro entry member
    obtain ⟨name, -, rfl⟩ := List.mem_map.mp member
    exact Column.suits_lossy (length_flatMap_cellsOf each name)

theorem wellFormed_concat_pair {first second : Table} (firstFormed : first.WellFormed)
    (secondFormed : second.WellFormed) : (concat [first, second]).WellFormed :=
  wellFormed_concat
    (List.forall_mem_cons.mpr ⟨firstFormed, List.forall_mem_singleton.mpr secondFormed⟩)

end Stacking

end Table

namespace Join

instance : MayMismatch JoinError where
  isMismatch
    | .table error => isMismatch error
    | .column error => isMismatch error
    | _ => false

variable {left right : Table} {keys : List String} {pairs : List RowPair}

theorem keyColumns_keeps (side : String) (table : Table) (names : List String) :
    Keeps (fun _ => True) (keyColumns side table names) := by
  induction names with
  | nil => exact .ok trivial
  | cons name names induction =>
      rw [keyColumns]
      split
      · exact .error rfl
      · exact induction.map fun _ _ => trivial

theorem leftColumn_keeps (entry : String × Column) :
    Keeps (fun built : String × Column => built.2.Suits pairs.length)
      (leftColumn right keys pairs entry) := by
  obtain ⟨name, column⟩ := entry
  rw [leftColumn]
  split
  · exact .ok (Column.suits_lossy (List.length_map _))
  · cases done : column.reindex (pairs.map Prod.fst) with
    | ok gathered =>
        have suits := Column.suits_reindex done
        rw [List.length_map] at suits
        exact .ok suits
    | error error => exact .error rfl

theorem rightColumn_keeps (entry : String × Column) :
    Keeps (fun built : String × Column => built.2.Suits pairs.length)
      (rightColumn left pairs entry) := by
  obtain ⟨name, column⟩ := entry
  cases done : column.reindex (pairs.map Prod.snd) with
  | ok gathered =>
      have suits := Column.suits_reindex done
      rw [List.length_map] at suits
      simp only [rightColumn, done]
      exact .ok suits
  | error error =>
      simp only [rightColumn, done]
      exact .error rfl

theorem buildColumns_keeps {build : String × Column → Except JoinError (String × Column)}
    {holds : String × Column → Prop} (each : ∀ entry, Keeps holds (build entry))
    (entries : List (String × Column)) :
    Keeps (fun columns => ∀ entry ∈ columns, holds entry) (buildColumns build entries) := by
  induction entries with
  | nil => exact .ok (List.forall_mem_nil _)
  | cons entry entries induction =>
      exact (each entry).bind fun built suits =>
        induction.bind fun columns suit => .ok (List.forall_mem_cons.mpr ⟨suits, suit⟩)

/-- A join makes a well-formed table of whatever tables it is given. -/
theorem tables_keeps (left right : Table) (keys : List String) (kind : JoinKind) :
    Keeps Table.WellFormed (tables left right keys kind) := by
  rw [tables]
  split
  · exact .error rfl
  · refine (keyColumns_keeps "left" left keys).bind fun leftKeys _ => ?_
    refine (keyColumns_keeps "right" right keys).bind fun rightKeys _ => ?_
    refine (buildColumns_keeps leftColumn_keeps left.columns).bind fun leftOut leftSuit => ?_
    refine (buildColumns_keeps rightColumn_keeps _).bind fun rightOut rightSuit => ?_
    refine (Table.ofRows_keeps ?_).mapError _ fun _ => rfl
    intro entry member
    rcases List.mem_append.mp member with onLeft | onRight
    · exact leftSuit entry onLeft
    · exact rightSuit entry onRight

end Join

end LogPipe
