import LogPipe.Proofs.Column.Canonical
import LogPipe.Proofs.Directive.Preservation
import LogPipe.Proofs.Table.Gathering
import LogPipe.Proofs.Table.Writing

/-!
# The elements of multivalues

A list has its items as elements, a missing cell has none, and any other cell is its only
element.  `mvexpand` gives each element a row of its own and loses none.  `mvfilter` drops the
elements that are not asked for, but only those of lists: a single cell stays, whatever it says.
-/

namespace LogPipe

open LogPipe.Query

section Cells

variable {kind : Kind} {cell : Cell} {cells : List Cell}

theorem Cell.isMissing_of_kind (null : cell.kind = .null) : cell.isMissing = true := by
  cases cell <;> first | rfl | cases null

theorem Cell.elements_of_isMissing (missing : cell.isMissing = true) : cell.elements = [] := by
  rw [elements.eq_def]
  split
  · cases missing
  · exact if_pos missing

theorem Cell.elements_of_single (noList : cell.kind ≠ .list) (present : cell.isMissing = false) :
    cell.elements = [cell] := by
  rw [elements.eq_def]
  split
  · exact absurd rfl noList
  · exact if_neg (Bool.eq_false_iff.mp present)

/-- Cells that fit one kind stay as they are in their lossy column, missing markers apart. -/
theorem Column.coerce_of_fits (fits : ∀ other ∈ cells, other.Fits kind) (member : cell ∈ cells)
    (present : cell.kind ≠ .null) : coerce (lossyKind cells) cell = cell := by
  have same : cell.kind = kind := (fits cell member).resolve_left present
  exact coerce_lossyKind (fun other inCells => same ▸ fits other inCells) member

theorem Column.elements_coerce (fits : ∀ other ∈ cells, other.Fits kind) (member : cell ∈ cells) :
    (coerce (lossyKind cells) cell).elements = cell.elements := by
  by_cases null : cell.kind = .null
  · have missing := Cell.isMissing_of_kind null
    have coerced : (coerce (lossyKind cells) cell).isMissing = true :=
      (isMissing_coerce_eq (under_lossyKind member)).trans missing
    rw [Cell.elements_of_isMissing missing, Cell.elements_of_isMissing coerced]
  · rw [coerce_of_fits fits member null]

end Cells

namespace Table

variable {table : Table} {source : String} {column : Column} (wellFormed : table.WellFormed)
  (found : table.column? source = some column)

include wellFormed found

theorem WellFormed.cells_eq_map :
    column.cells = (List.range table.rows).map (table.cell source) := by
  rw [Column.cells_eq_map (wellFormed.size_eq found)]
  exact List.map_congr_left fun row inside =>
    (wellFormed.cell_eq found (List.mem_range.mp inside)).symm

theorem mapInto_eq (target : String) (change : Cell → Cell) :
    table.mapInto source target change =
      .ok (table.withCells target (column.cells.map change)) := by
  have length : (column.cells.map change).length = table.rows :=
    (List.length_map _).trans (wellFormed.size_eq found)
  simp only [mapInto, need_eq_ok_iff.mpr found, put, putCells_eq length]
  rfl

/-- A changed cell, as its new column shows it. -/
theorem cell_withCells_map (target : String) (change : Cell → Cell) {row : Nat}
    (inside : row < table.rows) :
    (table.withCells target (column.cells.map change)).cell target row =
      Column.coerce (Column.lossyKind (column.cells.map change))
        (change (table.cell source row)) := by
  have shown : column.cells[row]? = some (table.cell source row) := by
    rw [wellFormed.cells_eq_map found, List.getElem?_map, List.getElem?_range inside]
    rfl
  rw [cell, value?, column?_withCells, if_pos rfl, Option.bind_some, Column.get?_lossy,
    List.getElem?_map, shown]
  rfl

theorem cell_mem {row : Nat} (inside : row < table.rows) :
    table.cell source row ∈ column.cells := by
  rw [wellFormed.cells_eq_map found]
  exact List.mem_map_of_mem (List.mem_range.mpr inside)

end Table

namespace Multivalue

theorem firstName_of_head {invocation : Invocation} {names : List String} {name : String}
    (first : names.head? = some name) : firstName invocation names = .ok name := by
  obtain ⟨others, rfl⟩ := List.head?_eq_some_iff.mp first
  rfl

/-! ## One row for each element -/

section Expanding

/-- The rows of a table, each with every element of its cell in a column.  A row whose cell has
no elements comes once, with a missing cell. -/
def unnested (table : Table) (name : String) : List (Nat × Cell) :=
  (List.range table.rows).flatMap fun row =>
    match (table.cell name row).elements with
    | [] => [(row, .null)]
    | items => items.map fun item => (row, item)

/-- A table that has a row for each element of a column of another one. -/
structure Expanded (table : Table) (name : String) (result : Table) : Prop where
  names : result.names = table.names
  rows : result.rows =
    ((List.range table.rows).map fun row => max 1 (table.cell name row).elements.length).sum
  elements : result.column? name = some (Column.lossy ((unnested table name).map Prod.snd))
  repeated : ∀ other ≠ name, ∀ column, table.column? other = some column →
    result.column? other =
      some ⟨column.kind, (unnested table name).map fun entry => table.cell other entry.1⟩

theorem unnested_eq (table : Table) (name : String) :
    unnested table name = (List.range table.rows).flatMap fun row =>
      (Table.expandedCells (table.cell name row)).map fun item => (row, item) := by
  refine congrArg (List.flatMap · _) (funext fun row => ?_)
  rw [Table.expandedCells]
  cases (table.cell name row).elements <;> rfl

/-- The positions and the elements are collected side by side. -/
theorem expandedRows_eq (view : Nat → Cell) (start length : Nat) :
    Table.expandedRows start ((List.range' start length).map view) =
      ((List.range' start length).flatMap fun row =>
        (Table.expandedCells (view row)).map fun item => (row, item)).map Prod.fst := by
  induction length generalizing start with
  | zero => rfl
  | succ length induction =>
      rw [List.range'_succ, List.map_cons, Table.expandedRows, induction, List.flatMap_cons,
        List.map_append, List.map_map]
      exact congrArg (· ++ _) List.map_const'.symm

theorem length_expandedCells (cell : Cell) :
    (Table.expandedCells cell).length = max 1 cell.elements.length := by
  rw [Table.expandedCells]
  cases cell.elements with
  | nil => rfl
  | cons item items => simp

variable {table : Table} {name : String}

theorem lt_of_mem_unnested {entry : Nat × Cell} (member : entry ∈ unnested table name) :
    entry.1 < table.rows := by
  rw [unnested_eq, List.mem_flatMap] at member
  obtain ⟨row, inside, made⟩ := member
  obtain ⟨item, -, rfl⟩ := List.mem_map.mp made
  exact List.mem_range.mp inside

theorem length_unnested (table : Table) (name : String) : (unnested table name).length =
    ((List.range table.rows).map fun row => max 1 (table.cell name row).elements.length).sum := by
  simp only [unnested_eq, List.length_flatMap, List.length_map, length_expandedCells]

variable {column : Column} (wellFormed : table.WellFormed)
  (found : table.column? name = some column)

include wellFormed found

theorem expandedRows_cells :
    Table.expandedRows 0 column.cells = (unnested table name).map Prod.fst := by
  rw [wellFormed.cells_eq_map found, unnested_eq, List.range_eq_range']
  exact expandedRows_eq (table.cell name) 0 table.rows

theorem expandedCells_cells :
    column.cells.flatMap Table.expandedCells = (unnested table name).map Prod.snd := by
  rw [wellFormed.cells_eq_map found, unnested_eq, List.flatMap_map, List.map_flatMap]
  simp only [List.map_map, Function.comp_def, List.map_id']

/-- The table is expanded along one list of rows and elements. -/
theorem expand_eq : table.expand name column =
    .ok ((table.takeRows ((unnested table name).map Prod.fst)).withCells name
      ((unnested table name).map Prod.snd)) := by
  have length : ((unnested table name).map Prod.snd).length =
      (table.takeRows ((unnested table name).map Prod.fst)).rows := by
    rw [Table.takeRows, List.length_map, List.length_map]
  rw [Table.expand, expandedRows_cells wellFormed found, expandedCells_cells wellFormed found]
  exact Table.putCells_eq length

theorem expanded_withCells :
    Expanded table name ((table.takeRows ((unnested table name).map Prod.fst)).withCells name
      ((unnested table name).map Prod.snd)) where
  names := by
    have present : name ∈ table.names :=
      Table.column?_isSome_iff.mp (Option.isSome_iff_exists.mpr ⟨column, found⟩)
    rw [Table.names, Table.withCells, Table.names_insertColumn, ← Table.names,
      Table.names_takeRows, if_pos present]
  rows := by
    rw [← length_unnested]
    exact List.length_map _
  elements := by
    rw [Table.column?_withCells, if_pos rfl]
  repeated := by
    intro other different shown isShown
    rw [Table.column?_withCells, if_neg different, Table.column?_takeRows, isShown,
      Option.map_some, Column.take, List.map_map]
    refine congrArg (some ∘ Column.mk shown.kind) (List.map_congr_left fun entry member => ?_)
    exact (wellFormed.cell_eq isShown (lt_of_mem_unnested member)).symm

end Expanding

/-- `mvexpand` makes a row for each element of a column and keeps a row without elements, and
does so with every column.  The elements are those that `mvcount` counts. -/
theorem expand_unnests {table : Table} (wellFormed : table.WellFormed) {name : String}
    (present : name ∈ table.names) :
    (∀ invocation : Invocation, invocation.fieldNames.head? = some name →
      ∃ result, expand table invocation = .ok result ∧ Expanded table name result) ∧
    ∀ invocation : Invocation, invocation.fieldNames.head? = some name →
      ∃ counted, derive "_count" Cell.elementCount table invocation = .ok counted ∧
        ∀ row < table.rows, counted.cell (name ++ "_count") row =
          .int (Int64.ofInt (table.cell name row).elements.length) := by
  obtain ⟨column, found⟩ := Option.isSome_iff_exists.mp (Table.column?_isSome_iff.mpr present)
  constructor
  · intro invocation asks
    refine ⟨_, ?_, expanded_withCells wellFormed found⟩
    refine Except.bind_eq_ok_iff.mpr ⟨name, firstName_of_head asks, ?_⟩
    refine Except.bind_eq_ok_iff.mpr ⟨column, Table.need_eq_ok_iff.mpr found, ?_⟩
    exact Except.mapError_eq_ok_iff.mpr (expand_eq wellFormed found)
  · intro invocation asks
    refine ⟨_, Except.bind_eq_ok_iff.mpr ⟨name, firstName_of_head asks,
      Table.mapInto_eq wellFormed found (name ++ "_count") Cell.elementCount⟩, ?_⟩
    intro row inside
    have member : (table.cell name row).elementCount ∈ column.cells.map Cell.elementCount :=
      List.mem_map_of_mem (Table.cell_mem wellFormed found inside)
    have ints : ∀ cell ∈ column.cells.map Cell.elementCount, cell.Fits .int :=
      List.forall_mem_map.mpr fun _ _ => Or.inr rfl
    have isInt : (table.cell name row).elementCount.kind ≠ .null := fun null => by cases null
    rw [Table.cell_withCells_map wellFormed found _ _ inside,
      Column.coerce_of_fits ints member isInt]
    rfl

/-- Posts with two tags, with an empty list of them, without any, and with one. -/
def posts : Table :=
  ⟨4, [("id", ⟨.int, [.int 1, .int 2, .int 3, .int 4]⟩),
    ("tags", ⟨.list, [.list [.text "a", .text "b"], .list [], .null, .list [.text "c"]]⟩)]⟩

/-- The query segment `mvexpand tags`. -/
def expandTags : Invocation :=
  ⟨.mvExpand, ⟨.identifier, "mvexpand", 0⟩, [⟨.identifier, "tags", 9⟩], "tags"⟩

/-- The query segment `mvcount tags`. -/
def countTags : Invocation :=
  ⟨.mvCount, ⟨.identifier, "mvcount", 0⟩, [⟨.identifier, "tags", 8⟩], "tags"⟩

/-- The first post comes twice, and those without a tag stay. -/
theorem expand_unnests_posts :
    (∃ result, expand posts expandTags = .ok result ∧ result.rows = 5 ∧
      result.column? "id" = some ⟨.int, [.int 1, .int 1, .int 2, .int 3, .int 4]⟩ ∧
      result.column? "tags" =
        some ⟨.text, [.text "a", .text "b", .null, .null, .text "c"]⟩) ∧
    ∃ counted, derive "_count" Cell.elementCount posts countTags = .ok counted ∧
      counted.cell "tags_count" 0 = .int 2 := by
  have wellFormed : posts.WellFormed := by decide
  have present : "tags" ∈ posts.names := by decide
  obtain ⟨expands, counts⟩ := expand_unnests wellFormed present
  obtain ⟨result, expanded, shape⟩ := expands expandTags (by decide +kernel)
  obtain ⟨counted, derived, each⟩ := counts countTags (by decide +kernel)
  refine ⟨⟨result, expanded, ?_, ?_, ?_⟩, counted, derived, ?_⟩
  · rw [shape.rows]
    decide +kernel
  · rw [shape.repeated "id" (by decide) _ rfl]
    decide +kernel
  · rw [shape.elements]
    decide +kernel
  · exact each 0 (by decide)

/-! ## The elements that are asked for -/

/-- What an invocation of `mvfilter` asks for, in one of its two forms. -/
inductive AsksFilter (invocation : Invocation) : String → String → Prop where
  | words {field value : Token} : invocation.arguments = [field, value] →
      AsksFilter invocation field.unquoted value.unquoted
  | equation {field sign value : Token} : invocation.arguments = [field, sign, value] →
      sign.isOperator "=" = true → AsksFilter invocation field.unquoted value.unquoted

theorem filter_eq {invocation : Invocation} {name wanted : String}
    (asks : AsksFilter invocation name wanted) (table : Table) :
    filter table invocation = table.mapInto name name (Cell.keepItems wanted) := by
  cases asks with
  | words arguments => rw [filter, arguments]
  | equation arguments isEqual => simp only [filter, arguments, isEqual, if_true]

theorem kind_keepItems (wanted : String) (cell : Cell) :
    (cell.keepItems wanted).kind = cell.kind := by
  cases cell <;> rfl

/-- The elements of a list are filtered.  A single cell is kept, which is right only if it is
written as the text. -/
theorem elements_keepItems_iff (wanted : String) (cell : Cell) :
    (cell.keepItems wanted).elements =
        cell.elements.filter (fun item => item.written == wanted) ↔
      cell.kind = .list ∨ cell.isMissing = true ∨ cell.written = wanted := by
  by_cases isList : cell.kind = .list
  · cases cell with
    | list items => exact iff_of_true rfl (Or.inl rfl)
    | _ => cases isList
  · have same : cell.keepItems wanted = cell := by
      cases cell with
      | list items => exact absurd rfl isList
      | _ => rfl
    rw [same, or_iff_right isList]
    by_cases missing : cell.isMissing = true
    · rw [Cell.elements_of_isMissing missing]
      exact iff_of_true rfl (Or.inl missing)
    · rw [Cell.elements_of_single isList (Bool.eq_false_iff.mpr missing), or_iff_right missing]
      by_cases isWanted : cell.written = wanted
      · simp [isWanted]
      · simp [isWanted]

/-- `mvfilter` keeps of every list, and of no other cell, exactly the elements that are written
as a text, in their order, and it writes no other column.  So a row has the elements that are
asked for if its cell is a list, if it is missing, or if the only element is one of them. -/
theorem filter_elements {table : Table} (wellFormed : table.WellFormed) {name : String}
    (present : name ∈ table.names) {invocation : Invocation} {wanted : String}
    (asks : AsksFilter invocation name wanted) :
    ∃ result, filter table invocation = .ok result ∧ Table.Assigned [name] table result ∧
      ∀ row < table.rows,
        ((result.cell name row).elements =
            (table.cell name row).elements.filter (fun item => item.written == wanted) ↔
          (table.cell name row).kind = .list ∨ (table.cell name row).isMissing = true ∨
            (table.cell name row).written = wanted) ∧
        ((table.cell name row).kind ≠ .list →
          (result.cell name row).elements = (table.cell name row).elements) := by
  obtain ⟨column, found⟩ := Option.isSome_iff_exists.mp (Table.column?_isSome_iff.mpr present)
  refine ⟨_, (filter_eq asks table).trans (Table.mapInto_eq wellFormed found name _),
    Table.assigned_withCells table name _, ?_⟩
  intro row inside
  have member : (table.cell name row).keepItems wanted ∈
      column.cells.map (Cell.keepItems wanted) :=
    List.mem_map_of_mem (Table.cell_mem wellFormed found inside)
  have fits : ∀ cell ∈ column.cells.map (Cell.keepItems wanted), cell.Fits column.kind := by
    refine List.forall_mem_map.mpr fun cell inColumn => ?_
    rw [Cell.Fits, kind_keepItems]
    exact wellFormed.uniform_of_column? found cell inColumn
  rw [Table.cell_withCells_map wellFormed found name _ inside, Column.elements_coerce fits member]
  refine ⟨elements_keepItems_iff wanted _, fun noList => ?_⟩
  generalize table.cell name row = cell at noList
  cases cell with
  | list items => exact absurd rfl noList
  | _ => rfl

/-- The query segment `mvfilter tags=a`. -/
def onlyA : Invocation :=
  ⟨.mvFilter, ⟨.identifier, "mvfilter", 0⟩,
    [⟨.identifier, "tags", 9⟩, ⟨.operator, "=", 13⟩, ⟨.identifier, "a", 14⟩], "tags=a"⟩

theorem asksFilter_onlyA : AsksFilter onlyA "tags" "a" :=
  @AsksFilter.equation onlyA _ _ _ rfl (by decide)

theorem filter_elements_posts :
    ∃ result, filter posts onlyA = .ok result ∧ (result.cell "tags" 0).elements = [.text "a"] ∧
      (result.cell "tags" 3).elements = [] := by
  have wellFormed : posts.WellFormed := by decide
  obtain ⟨result, filtered, -, each⟩ := filter_elements wellFormed (by decide) asksFilter_onlyA
  refine ⟨result, filtered, ?_, ?_⟩
  · rw [(each 0 (by decide)).1.mpr (Or.inl (by decide))]
    decide +kernel
  · rw [(each 3 (by decide)).1.mpr (Or.inl (by decide))]
    decide +kernel

/-- A post whose only tag is not in a list. -/
def soloPost : Table :=
  ⟨1, [("tags", ⟨.text, [.text "solo"]⟩)]⟩

/-- The single tag stays, although another one is asked for. -/
theorem filter_keeps_single :
    soloPost.WellFormed ∧ AsksFilter onlyA "tags" "a" ∧
      filter soloPost onlyA = .ok soloPost ∧
      (soloPost.cell "tags" 0).elements = [.text "solo"] ∧
      (soloPost.cell "tags" 0).elements.filter (fun item => item.written == "a") = [] := by
  refine ⟨by decide, asksFilter_onlyA, Except.toOption_eq_some_iff.mp ?_, ?_, ?_⟩
  · decide +kernel
  · decide +kernel
  · decide +kernel

end Multivalue

end LogPipe
