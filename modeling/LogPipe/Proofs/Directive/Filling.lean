import LogPipe.Directive.Shape
import LogPipe.Proofs.Column.Canonical
import LogPipe.Proofs.Table.Writing

/-!
# Filled columns

`fillnull` makes columns of the cells of columns, with one cell in place of the missing ones.
The column may get another kind by that, but it is canonical and has no missing cell any more.
So a column that is filled a second time, because its name or the directive is repeated, stays
what it is.
-/

namespace LogPipe

namespace Cell

variable {fill : Cell}

theorem orElse_of_present {cell : Cell} (present : cell.isMissing = false) :
    orElse fill cell = cell :=
  if_neg (Bool.eq_false_iff.mp present)

theorem isMissing_orElse (present : fill.isMissing = false) (cell : Cell) :
    (orElse fill cell).isMissing = false := by
  rw [orElse]
  split
  · exact present
  · next isPresent => exact Bool.eq_false_iff.mpr isPresent

end Cell

namespace Column

variable {cells : List Cell}

theorem present_lossy (present : ∀ cell ∈ cells, cell.isMissing = false) :
    ∀ cell ∈ (lossy cells).cells, cell.isMissing = false := by
  rw [lossy_eq, List.forall_mem_map]
  intro cell member
  rw [isMissing_coerce_eq (under_lossyKind member)]
  exact present cell member

/-- A canonical column without missing cells has nothing to fill. -/
theorem lossy_map_orElse (fill : Cell) (present : ∀ cell ∈ cells, cell.isMissing = false) :
    lossy ((lossy cells).cells.map (Cell.orElse fill)) = lossy cells := by
  have same : (lossy cells).cells.map (Cell.orElse fill) = (lossy cells).cells.map id :=
    List.map_congr_left fun cell member =>
      Cell.orElse_of_present (present_lossy present cell member)
  rw [same, List.map_id, lossy_lossy]

end Column

namespace Table

variable {table : Table} {fill : Cell}

/-- The cells of a name with one cell in place of the missing ones. -/
def filledCells (table : Table) (fill : Cell) (name : String) : List Cell :=
  (table.cellsOf name).map (Cell.orElse fill)

theorem present_filledCells (present : fill.isMissing = false) (table : Table) (name : String) :
    ∀ cell ∈ table.filledCells fill name, cell.isMissing = false :=
  List.forall_mem_map.mpr fun cell _ => Cell.isMissing_orElse present cell

theorem length_filledCells (wellFormed : table.WellFormed) (fill : Cell) (name : String) :
    (table.filledCells fill name).length = table.rows :=
  (List.length_map _).trans (wellFormed.length_cellsOf name)

/-- A column that is not there is filled in every row. -/
theorem filledCells_of_absent {name : String} (absent : table.column? name = none) (fill : Cell) :
    table.filledCells fill name = List.replicate table.rows fill := by
  rw [filledCells, cellsOf, absent]
  exact List.map_replicate

theorem fillColumn_eq (wellFormed : table.WellFormed) (fill : Cell) (name : String) :
    table.fillColumn fill name = .ok (table.withCells name (table.filledCells fill name)) := by
  rw [← putCells_eq (length_filledCells wellFormed fill name), fillColumn]
  cases found : table.column? name with
  | none => rw [filledCells_of_absent found]
  | some column => rw [filledCells, cellsOf, found]

theorem cellsOf_withCells (table : Table) (name other : String) (cells : List Cell) :
    (table.withCells name cells).cellsOf other =
      if other = name then (Column.lossy cells).cells else table.cellsOf other := by
  rw [cellsOf, column?_withCells]
  by_cases same : other = name
  · rw [if_pos same, if_pos same]
  · rw [if_neg same, if_neg same]
    rfl

/-- A table with some of its columns filled, which no other change has been made to. -/
structure Filled (fill : Cell) (names : List String) (table result : Table) : Prop where
  assigned : Assigned names table result
  filled : ∀ name ∈ names, result.column? name = some (Column.lossy (table.filledCells fill name))
  kept : ∀ name, name ∉ names → result.column? name = table.column? name

namespace Filled

variable {names : List String} {middle result : Table} {name : String}

theorem refl (fill : Cell) (table : Table) : Filled fill [] table table where
  assigned := .refl table
  filled := fun _ member => absurd member List.not_mem_nil
  kept := fun _ _ => rfl

/-- One more column is filled first.  If its name comes again, it is filled already. -/
theorem cons (present : fill.isMissing = false)
    (later : Filled fill names (table.withCells name (table.filledCells fill name)) result) :
    Filled fill (name :: names) table result where
  assigned := (assigned_withCells table name _).trans later.assigned
  filled := by
    intro other member
    by_cases again : other ∈ names
    · rw [later.filled other again, filledCells, cellsOf_withCells]
      split
      · next same =>
          rw [same, Column.lossy_map_orElse fill (present_filledCells present table name)]
      · rfl
    · obtain rfl : other = name := (List.mem_cons.mp member).resolve_right again
      rw [later.kept other again, column?_withCells, if_pos rfl]
  kept := by
    intro other apart
    rw [List.mem_cons, not_or] at apart
    rw [later.kept other apart.2, column?_withCells, if_neg apart.1]

/-- A filled column has no missing cell. -/
theorem present_cells (present : fill.isMissing = false) (done : Filled fill names table result)
    (member : name ∈ names) {column : Column} (found : result.column? name = some column) :
    ∀ cell ∈ column.cells, cell.isMissing = false := by
  rw [done.filled name member] at found
  cases found
  exact Column.present_lossy (present_filledCells present table name)

/-- What a filled column would be filled to. -/
theorem settled (present : fill.isMissing = false) (done : Filled fill names table result)
    (member : name ∈ names) :
    result.column? name = some (Column.lossy (result.filledCells fill name)) := by
  have shown := done.filled name member
  have again : result.filledCells fill name =
      (Column.lossy (table.filledCells fill name)).cells.map (Cell.orElse fill) := by
    rw [filledCells, cellsOf, shown]
  rw [shown, again, Column.lossy_map_orElse fill (present_filledCells present table name)]

end Filled

theorem exists_filled (wellFormed : table.WellFormed) (present : fill.isMissing = false)
    (names : List String) :
    ∃ result, table.fillColumns fill names = .ok result ∧ Filled fill names table result := by
  induction names generalizing table with
  | nil => exact ⟨table, rfl, .refl fill table⟩
  | cons name names induction =>
      have nextFormed : (table.withCells name (table.filledCells fill name)).WellFormed :=
        wellFormed.withCells name (length_filledCells wellFormed fill name)
      obtain ⟨result, done, filled⟩ := induction nextFormed
      refine ⟨result, ?_, filled.cons present⟩
      simp only [fillColumns, fillColumn_eq wellFormed fill name, done]

/-- Columns that are what they would be filled to stay. -/
theorem fillColumns_eq_self (wellFormed : table.WellFormed) {names : List String}
    (settled : ∀ name ∈ names,
      table.column? name = some (Column.lossy (table.filledCells fill name))) :
    table.fillColumns fill names = .ok table := by
  induction names with
  | nil => rfl
  | cons name names induction =>
      rw [List.forall_mem_cons] at settled
      simp only [fillColumns, fillColumn_eq wellFormed fill name,
        withCells_eq_self wellFormed settled.1, induction settled.2]

end Table

namespace Shape

/-- The columns that an invocation of `fillnull` names, or all when it names none. -/
def filledNames (table : Table) (invocation : Invocation) : List String :=
  if invocation.options.names = [] then table.names else invocation.options.names

theorem fillNull_eq {invocation : Invocation} {text : String}
    (given : invocation.options.option? "value" = some text) (table : Table) :
    fillNull table invocation =
      (table.fillColumns (Cell.infer text) (filledNames table invocation)).mapError .table := by
  simp only [fillNull, given, Table.fill, filledNames, List.isEmpty_iff]

/-- The same columns are named once more when they have been filled. -/
theorem filledNames_of_filled {table result : Table} {invocation : Invocation} {fill : Cell}
    (done : Table.Filled fill (filledNames table invocation) table result) :
    filledNames result invocation = filledNames table invocation := by
  have names := done.assigned.names
  rw [filledNames] at names ⊢
  split
  · next unnamed =>
      have none : (table.names.filter fun name => name ∉ table.names) = [] := by
        simp
      rw [if_pos unnamed, none] at names
      rw [names, filledNames, if_pos unnamed]
      exact List.append_nil _
  · next named => rw [filledNames, if_neg named]

/-- `fillnull` with a value that is not missing fills the columns that it names, or all of them,
and makes those that are not there.  It changes no other column, and it does nothing more when it
is carried out again. -/
theorem fillNull_fills {table : Table} (wellFormed : table.WellFormed) {invocation : Invocation}
    {text : String} (given : invocation.options.option? "value" = some text)
    (present : (Cell.infer text).isMissing = false) :
    ∃ result, fillNull table invocation = .ok result ∧
      Table.Filled (Cell.infer text) (filledNames table invocation) table result ∧
      (∀ name ∈ filledNames table invocation, ∀ column, result.column? name = some column →
        ∀ cell ∈ column.cells, cell.isMissing = false) ∧
      (∀ name ∈ filledNames table invocation, name ∉ table.names →
        result.column? name = some (Column.replicate table.rows (Cell.infer text))) ∧
      fillNull result invocation = .ok result := by
  obtain ⟨result, done, filled⟩ :=
    Table.exists_filled wellFormed present (filledNames table invocation)
  have resultFormed : result.WellFormed :=
    (Table.fillColumns_keeps wellFormed _ _).of_eq_ok done
  refine ⟨result, ?_, filled, ?_, ?_, ?_⟩
  · rw [fillNull_eq given, done]
    rfl
  · intro name member column found
    exact filled.present_cells present member found
  · intro name member absent
    rw [← Table.column?_isSome_iff, Option.not_isSome_iff_eq_none] at absent
    rw [filled.filled name member, Table.filledCells_of_absent absent, Column.replicate]
  · have again := Table.fillColumns_eq_self resultFormed fun name member =>
      filled.settled present member
    rw [fillNull_eq given, filledNames_of_filled filled, again]
    rfl

/-- Sizes and labels with gaps. -/
def gaps : Table :=
  ⟨2, [("size", ⟨.int, [.int 7, .null]⟩), ("label", ⟨.text, [.null, .text "b"]⟩)]⟩

/-- The query segment `fillnull value=x size unit size`. -/
def fillSizes : Invocation :=
  ⟨.fillNull, ⟨.identifier, "fillnull", 0⟩,
    [⟨.identifier, "value", 9⟩, ⟨.operator, "=", 14⟩, ⟨.identifier, "x", 15⟩,
      ⟨.identifier, "size", 17⟩, ⟨.identifier, "unit", 22⟩, ⟨.identifier, "size", 27⟩],
    "value=x size unit size"⟩

/-- A column of numbers that is filled with a text becomes one of texts, and only once. -/
theorem fillNull_fills_gaps :
    ∃ result, fillNull gaps fillSizes = .ok result ∧
      result.names = ["size", "label", "unit"] ∧
      result.column? "size" = some ⟨.text, [.text "7", .text "x"]⟩ ∧
      result.column? "label" = gaps.column? "label" ∧
      fillNull result fillSizes = .ok result := by
  have wellFormed : gaps.WellFormed := by decide
  have given : fillSizes.options.option? "value" = some "x" := by decide +kernel
  have isText : Cell.infer "x" = .text "x" := by decide +kernel
  have names : filledNames gaps fillSizes = ["size", "unit", "size"] := by decide +kernel
  obtain ⟨result, done, filled, -, -, again⟩ :=
    fillNull_fills wellFormed given (by rw [isText]; rfl)
  rw [names, isText] at filled
  refine ⟨result, done, ?_, ?_, ?_, again⟩
  · rw [filled.assigned.names]
    decide
  · rw [filled.filled "size" (by decide)]
    decide +kernel
  · exact filled.kept "label" (by decide)

end Shape

end LogPipe
