import LogPipe.Proofs.Column.Restacking
import LogPipe.Proofs.Table.Preservation

/-!
# Tables that are stacked in steps

A stack may be taken into another one instead of the tables that it was made of.  The names,
their order, the rows and the kinds of the columns stay the same.  The cells do as well where
the columns of the inner stack are transparent.
-/

namespace LogPipe

namespace Table

/-! ## Names -/

/-- Adds a name behind the known ones, unless it is known. -/
def addName (known : List String) (name : String) : List String :=
  if known.contains name then known else known ++ [name]

theorem mem_addName {known : List String} {name other : String} :
    other ∈ addName known name ↔ other ∈ known ∨ other = name := by
  rw [addName]
  split
  · next found =>
      have isKnown : name ∈ known := by simpa using found
      constructor
      · exact Or.inl
      · rintro (member | rfl)
        · exact member
        · exact isKnown
  · rw [List.mem_append, List.mem_singleton]

theorem mem_foldl_addName {known names : List String} {other : String} :
    other ∈ names.foldl addName known ↔ other ∈ known ∨ other ∈ names := by
  induction names generalizing known with
  | nil => simp
  | cons name names induction =>
      rw [List.foldl_cons, induction, mem_addName, List.mem_cons, or_assoc]

/-- Names that have been added to others may be added in their place. -/
theorem foldl_addName_foldl (known seen names : List String) :
    (names.foldl addName seen).foldl addName known =
      names.foldl addName (seen.foldl addName known) := by
  induction names generalizing seen with
  | nil => rfl
  | cons name names induction =>
      have added : (addName seen name).foldl addName known =
          addName (seen.foldl addName known) name := by
        by_cases isSeen : name ∈ seen
        · have isKnown : name ∈ seen.foldl addName known := mem_foldl_addName.mpr (.inr isSeen)
          rw [addName, if_pos (by simpa using isSeen), addName, if_pos (by simpa using isKnown)]
        · rw [addName, if_neg (by simpa using isSeen), List.foldl_append]
          rfl
      rw [List.foldl_cons, List.foldl_cons, induction, added]

/-- Names are added in the order in which they occur first. -/
theorem foldl_addName_eq (known names : List String) :
    names.foldl addName known =
      known ++ (names.filter fun name => name ∉ known).eraseDups := by
  induction names generalizing known with
  | nil => simp
  | cons name names induction =>
      rw [List.foldl_cons, induction]
      by_cases isKnown : name ∈ known
      · rw [addName, if_pos (by simpa using isKnown),
          List.filter_cons_of_neg (by simpa using isKnown)]
      · have others : (names.filter fun other => other ∉ known ++ [name]) =
            (names.filter fun other => other ∉ known).filter fun other => !(other == name) := by
          rw [List.filter_filter]
          refine List.filter_congr fun other _ => ?_
          by_cases same : other = name <;> simp [same]
        rw [addName, if_neg (by simpa using isKnown),
          List.filter_cons_of_pos (by simpa using isKnown), List.eraseDups_cons, others,
          List.append_assoc, List.singleton_append]

theorem unionNames_eq (tables : List Table) :
    unionNames tables = (tables.flatMap names).foldl addName [] := by
  rw [unionNames, List.foldl_flatMap]
  rfl

theorem unionNames_restack (before inner after : List Table) :
    unionNames (before ++ concat inner :: after) = unionNames (before ++ inner ++ after) := by
  simp only [unionNames_eq, List.flatMap_append, List.flatMap_cons, names_concat,
    List.foldl_append, foldl_addName_foldl]
  rfl

theorem totalRows_append (left right : List Table) :
    totalRows (left ++ right) = totalRows left + totalRows right := by
  induction left with
  | nil => exact (Nat.zero_add _).symm
  | cons table left induction =>
      rw [List.cons_append, totalRows, totalRows, induction, Nat.add_assoc]

theorem totalRows_restack (before inner after : List Table) :
    totalRows (before ++ concat inner :: after) = totalRows (before ++ inner ++ after) := by
  simp only [totalRows_append, totalRows, concat, Nat.add_assoc]

/-! ## Cells -/

/-- The cells of a name in all tables, from the first to the last. -/
def cellsIn (tables : List Table) (name : String) : List Cell :=
  tables.flatMap fun table => table.cellsOf name

theorem concat_eq (tables : List Table) : concat tables = ⟨totalRows tables,
    (unionNames tables).map fun name => (name, Column.lossy (cellsIn tables name))⟩ :=
  rfl

theorem mem_unionNames {tables : List Table} {name : String} :
    name ∈ unionNames tables ↔ ∃ table ∈ tables, name ∈ table.names := by
  rw [unionNames_eq, mem_foldl_addName, List.mem_flatMap]
  simp

/-- No table has a cell under a name that none of them has. -/
theorem cellsIn_of_not_mem {tables : List Table} {name : String}
    (absent : name ∉ unionNames tables) :
    cellsIn tables name = List.replicate (totalRows tables) .null := by
  rw [mem_unionNames] at absent
  induction tables with
  | nil => rfl
  | cons table tables induction =>
      have notHere : table.column? name = none := by
        rw [← Option.not_isSome_iff_eq_none, column?_isSome_iff]
        exact fun member => absent ⟨table, List.mem_cons_self, member⟩
      have notLater := induction fun ⟨other, later, member⟩ =>
        absent ⟨other, List.mem_cons_of_mem table later, member⟩
      rw [cellsIn] at notLater
      rw [cellsIn, List.flatMap_cons, notLater, cellsOf, notHere, totalRows,
        List.replicate_append_replicate]

/-- A stack shows under any name the lossy column of the cells that its tables have there. -/
theorem cellsOf_concat (tables : List Table) (name : String) :
    (concat tables).cellsOf name = (Column.lossy (cellsIn tables name)).cells := by
  by_cases member : name ∈ unionNames tables
  · have found : (concat tables).column? name = some (Column.lossy (cellsIn tables name)) := by
      apply column?_of_mem
      · rw [names_concat]
        exact nodup_unionNames tables
      · exact List.mem_map.mpr ⟨name, member, rfl⟩
    rw [cellsOf, found]
  · have absent : (concat tables).column? name = none := by
      rw [← Option.not_isSome_iff_eq_none, column?_isSome_iff, names_concat]
      exact member
    have nulls : ∀ cell ∈ cellsIn tables name, cell.kind = .null := by
      rw [cellsIn_of_not_mem member]
      exact fun cell isNull => List.eq_of_mem_replicate isNull ▸ rfl
    rw [cellsOf, absent, Column.cells_lossy_of_kind nulls, cellsIn_of_not_mem member]
    rfl

theorem cellsIn_restack (before inner after : List Table) (name : String) :
    cellsIn (before ++ concat inner :: after) name =
      cellsIn before name ++ (Column.lossy (cellsIn inner name)).cells ++ cellsIn after name := by
  rw [cellsIn, List.flatMap_append, List.flatMap_cons, cellsOf_concat, ← List.append_assoc]
  rfl

theorem cellsIn_append (left right : List Table) (name : String) :
    cellsIn (left ++ right) name = cellsIn left name ++ cellsIn right name :=
  List.flatMap_append

/-- The kind of the column that a stack shows under a name. -/
def kindIn (tables : List Table) (name : String) : Kind :=
  Column.lossyKind (cellsIn tables name)

/-- The kinds of the columns in order. -/
def kinds (table : Table) : List Kind :=
  table.columns.map fun entry => entry.2.kind

/-- A stack made in steps: a table that has the names, the rows and the kinds of the stack of
all tables, and its cells where what is stacked inside is transparent. -/
structure Restacks (inner all : List Table) (nested : Table) : Prop where
  names_eq : nested.names = (concat all).names
  rows_eq : nested.rows = (concat all).rows
  kinds_eq : nested.kinds = (concat all).kinds
  eq_iff : nested = concat all ↔
    ∀ name ∈ (concat all).names, Column.Transparent (kindIn all name) (cellsIn inner name)
  eq_of_aligned : (∀ name ∈ (concat all).names,
    Column.Aligned (kindIn all name) (cellsIn inner name)) → nested = concat all

@[simp] theorem kinds_concat (tables : List Table) :
    (concat tables).kinds = (unionNames tables).map (kindIn tables) := by
  rw [kinds, concat_eq, List.map_map]
  apply List.map_congr_left
  intro name _
  rw [Function.comp_apply, Column.lossy_eq]
  rfl

theorem kindIn_restack (before inner after : List Table) (name : String) :
    kindIn (before ++ concat inner :: after) name = kindIn (before ++ inner ++ after) name := by
  rw [kindIn, kindIn, cellsIn_restack, Column.lossyKind_restack, cellsIn_append, cellsIn_append]

theorem kindIn_under (before inner after : List Table) (name : String) :
    Kind.Under (kindIn inner name) (kindIn (before ++ inner ++ after) name) := by
  apply Column.lossyKind_under
  intro cell member
  apply Column.under_lossyKind
  rw [cellsIn_append, cellsIn_append]
  exact List.mem_append_left _ (List.mem_append_right _ member)

/-- With the same names and rows, stacks differ in the columns that are not transparent. -/
theorem concat_restack_eq_iff {before inner after : List Table} :
    concat (before ++ concat inner :: after) = concat (before ++ inner ++ after) ↔
      ∀ name ∈ unionNames (before ++ inner ++ after),
        Column.Transparent (kindIn (before ++ inner ++ after) name) (cellsIn inner name) := by
  rw [concat_eq (before ++ concat inner :: after), concat_eq (before ++ inner ++ after),
    totalRows_restack, unionNames_restack, mk.injEq]
  simp only [true_and, List.map_inj_left, Prod.mk.injEq]
  apply forall₂_congr
  intro name _
  rw [kindIn, cellsIn_restack, cellsIn_append, cellsIn_append, Column.lossy_restack_eq_iff]

/-- A stack may be taken into another one, wherever it stands in there. -/
theorem restacks (before inner after : List Table) :
    Restacks inner (before ++ inner ++ after) (concat (before ++ concat inner :: after)) := by
  refine ⟨?_, totalRows_restack before inner after, ?_, ?_, ?_⟩
  · rw [names_concat, names_concat, unionNames_restack]
  · rw [kinds_concat, kinds_concat, unionNames_restack]
    exact List.map_congr_left fun name _ => kindIn_restack before inner after name
  · rw [names_concat]
    exact concat_restack_eq_iff
  · intro aligned
    rw [names_concat] at aligned
    exact concat_restack_eq_iff.mpr fun name member =>
      Column.transparent_of_aligned (kindIn_under before inner after name) (aligned name member)

theorem restacks_left (first second third : Table) :
    Restacks [first, second] [first, second, third] (concat [concat [first, second], third]) :=
  restacks [] [first, second] [third]

theorem restacks_right (first second third : Table) :
    Restacks [second, third] [first, second, third] (concat [first, concat [second, third]]) :=
  restacks [first] [second, third] []

end Table

end LogPipe
