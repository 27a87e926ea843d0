import LogPipe.Proofs.Directive.Preservation
import LogPipe.Proofs.Table.Writing

/-!
# Columns that patterns are extracted into

The columns of named groups are written one after the other, so an extraction can damage a
column only by writing to its name.  The name of a group that the table has is given a suffix
for that reason.  But it is not looked up again: a column that has the name with the suffix is
replaced.
-/

namespace LogPipe

open LogPipe.Query LogPipe.Text

namespace Pattern

variable {table : Table}

/-- Columns of cells for all rows are written one after the other. -/
theorem exists_putAll {columns : List (String × List Cell)}
    (lengths : ∀ entry ∈ columns, entry.2.length = table.rows) :
    ∃ result, putAll table columns = .ok result ∧
      Table.Assigned (columns.map Prod.fst) table result := by
  induction columns generalizing table with
  | nil => exact ⟨table, rfl, .refl table⟩
  | cons entry columns induction =>
      obtain ⟨name, cells⟩ := entry
      rw [List.forall_mem_cons] at lengths
      obtain ⟨result, done, assigned⟩ := @induction (table.withCells name cells) lengths.2
      refine ⟨result, ?_, (Table.assigned_withCells table name cells).trans assigned⟩
      simp only [putAll, Table.putCells_eq lengths.1, done]

/-- The name that a group is given is new, unless the table has it with and without suffix. -/
theorem columnName_mem_iff {group : String} :
    columnName table group ∈ table.names ↔
      group ∈ table.names ∧ group ++ "_rex" ∈ table.names := by
  by_cases taken : group ∈ table.names
  · have has : table.hasColumn group = true := Table.column?_isSome_iff.mpr taken
    rw [columnName, if_pos has, and_iff_right taken]
  · have lacks : ¬table.hasColumn group = true := mt Table.column?_isSome_iff.mp taken
    rw [columnName, if_neg lacks]
    exact iff_of_false taken fun both => taken both.1

theorem columnName_of_mem {group : String} (taken : group ∈ table.names) :
    columnName table group = group ++ "_rex" :=
  if_pos (Table.column?_isSome_iff.mpr taken)

/-- Whatever has been captured for the groups, it is written to their names and nowhere else. -/
theorem exists_putAll_groups (groups : List String) {captured : Nat → List Cell}
    (lengths : ∀ index, (captured index).length = table.rows) :
    ∃ result,
      putAll table (groups.zipIdx.map fun (name, index) =>
        (columnName table name, captured index)) = .ok result ∧
      Table.Assigned (groups.map (columnName table)) table result := by
  have names : (groups.zipIdx.map fun (name, index) =>
      (columnName table name, captured index)).map Prod.fst = groups.map (columnName table) := by
    conv => rhs; rw [← List.zipIdx_map_fst 0 groups]
    rw [List.map_map, List.map_map]
    rfl
  rw [← names]
  exact exists_putAll (List.forall_mem_map.mpr fun entry _ => lengths entry.2)

theorem exists_extract {column : Column} (size : column.size = table.rows) (matcher : Matcher)
    (limit : Option Nat) :
    ∃ result, extract table column matcher limit = .ok result ∧
      Table.Assigned (matcher.names.map (columnName table)) table result := by
  have lengths (index : Nat) : ((column.cells.map (extractCell matcher limit)).map fun row =>
      (row[index]?).getD .null).length = table.rows := by
    rw [List.length_map, List.length_map]
    exact size
  exact exists_putAll_groups matcher.names lengths

end Pattern

namespace Extraction

open LogPipe.Pattern

/-- Whether an invocation of `rex` extracts groups, and does not substitute. -/
def ExtractsGroups (invocation : Invocation) : Prop :=
  ((invocation.options.option? "mode").any fun mode => sameIgnoringCase mode "sed") = false

instance (invocation : Invocation) : Decidable (ExtractsGroups invocation) :=
  inferInstanceAs (Decidable (_ = false))

theorem exists_extract_of_rex {table result : Table} {invocation : Invocation}
    (extracts : ExtractsGroups invocation) (done : rex table invocation = .ok result) :
    ∃ text matcher field column limit, invocation.options.names = [text] ∧
      compile { ignoreCase := true, dotMatchesNewline := true } text = .ok matcher ∧
      table.column? field = some column ∧ extract table column matcher limit = .ok result := by
  rw [rex.eq_def] at done
  simp only at done
  split at done
  · cases done
  · next field text _ named =>
      split at done
      · cases done
      · next column found =>
          rw [extracts, if_neg (by decide)] at done
          obtain ⟨matcher, compiled, done⟩ := Except.bind_eq_ok_iff.mp done
          split at done
          · cases done
          · obtain ⟨given, -, done⟩ := Except.bind_eq_ok_iff.mp done
            exact ⟨text, matcher, field, column, _, named,
              Except.mapError_eq_ok_iff.mp compiled, Table.need_eq_ok_iff.mp found,
              Except.mapError_eq_ok_iff.mp done⟩
  · cases done

/-- An extraction that succeeds keeps the rows and the columns of its table, each at its place
with its cells, and puts new columns behind them.  It fails to do so only for a column that has
the name of a group with the suffix, where the table has the name of the group as well. -/
theorem rex_keeps_columns {table result : Table} (wellFormed : table.WellFormed)
    {invocation : Invocation} (extracts : ExtractsGroups invocation)
    (done : rex table invocation = .ok result) :
    result.rows = table.rows ∧ table.names <+: result.names ∧
      ∃ text matcher, invocation.options.names = [text] ∧
        compile { ignoreCase := true, dotMatchesNewline := true } text = .ok matcher ∧
        ((∀ group ∈ matcher.names, group ∈ table.names → group ++ "_rex" ∉ table.names) →
          table.columns <+: result.columns) ∧
        ∀ (position : Nat) (entry : String × Column), table.columns[position]? = some entry →
          (∀ group ∈ matcher.names, group ∈ table.names → entry.1 ≠ group ++ "_rex") →
          result.columns[position]? = some entry := by
  obtain ⟨text, matcher, field, column, limit, named, compiled, found, extracted⟩ :=
    exists_extract_of_rex extracts done
  obtain ⟨_, again, assigned⟩ :=
    exists_extract (wellFormed.size_eq found) matcher limit
  cases extracted.symm.trans again
  refine ⟨assigned.rows, ?_, text, matcher, named, compiled, fun fresh => ?_, ?_⟩
  · rw [assigned.names]
    exact List.prefix_append _ _
  · refine assigned.columns_prefix (List.forall_mem_map.mpr fun group member written => ?_)
    obtain ⟨taken, suffixed⟩ := columnName_mem_iff.mp written
    exact fresh group member taken suffixed
  · intro position entry there apart
    have inTable : entry.1 ∈ table.names :=
      List.mem_map_of_mem (List.mem_of_getElem? there)
    refine assigned.kept position entry there fun written => ?_
    obtain ⟨group, member, isName⟩ := List.mem_map.mp written
    have taken : group ∈ table.names := (columnName_mem_iff.mp (isName ▸ inTable)).1
    exact apart group member taken (isName.symm.trans (columnName_of_mem taken))

/-- A message with a number, which a column of another name holds as well. -/
def message : Table :=
  ⟨1, [("msg", ⟨.text, [.text "id=7"]⟩), ("id", ⟨.int, [.int 1]⟩)]⟩

/-- The query segment `rex field=msg "id=(?<id>7)"`. -/
def idOfMessage : Invocation :=
  ⟨.rex, ⟨.identifier, "rex", 0⟩,
    [⟨.identifier, "field", 4⟩, ⟨.operator, "=", 9⟩, ⟨.identifier, "msg", 10⟩,
      ⟨.quotedLiteral, "\"id=(?<id>7)\"", 14⟩], "field=msg \"id=(?<id>7)\""⟩

theorem rex_keeps_columns_message :
    ∃ result, rex message idOfMessage = .ok result ∧ message.columns <+: result.columns ∧
      result.column? "id_rex" = some ⟨.text, [.text "7"]⟩ := by
  have wellFormed : message.WellFormed := by decide
  have extracts : ExtractsGroups idOfMessage := by decide +kernel
  have done : rex message idOfMessage =
      .ok ⟨1, message.columns ++ [("id_rex", ⟨.text, [.text "7"]⟩)]⟩ :=
    Except.toOption_eq_some_iff.mp (by decide +kernel)
  have fresh : ∀ name ∈ message.names, name ++ "_rex" ∉ message.names := by decide
  obtain ⟨-, -, text, matcher, -, -, kept, -⟩ := rex_keeps_columns wellFormed extracts done
  exact ⟨_, done, kept fun group _ taken => fresh group taken, by decide⟩

/-- The message beside a column that has the name of the group with the suffix. -/
def suffixedMessage : Table :=
  ⟨1, message.columns ++ [("id_rex", ⟨.text, [.text "a"]⟩)]⟩

/-- The column of that name is replaced. -/
theorem rex_replaces_suffixed :
    suffixedMessage.WellFormed ∧ ExtractsGroups idOfMessage ∧
      ∃ result, rex suffixedMessage idOfMessage = .ok result ∧
        suffixedMessage.column? "id_rex" = some ⟨.text, [.text "a"]⟩ ∧
        result.column? "id_rex" = some ⟨.text, [.text "7"]⟩ ∧
        ¬suffixedMessage.columns <+: result.columns := by
  have done : rex suffixedMessage idOfMessage =
      .ok ⟨1, message.columns ++ [("id_rex", ⟨.text, [.text "7"]⟩)]⟩ :=
    Except.toOption_eq_some_iff.mp (by decide +kernel)
  exact ⟨by decide, by decide +kernel, _, done, by decide, by decide, by decide⟩

end Extraction

end LogPipe
