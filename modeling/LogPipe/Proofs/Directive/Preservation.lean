import LogPipe.Directive.Aggregation
import LogPipe.Directive.Extraction
import LogPipe.Directive.Multivalue
import LogPipe.Directive.Shape
import LogPipe.Proofs.Filter.Preservation
import LogPipe.Proofs.Formula.Preservation
import LogPipe.Proofs.Lookup.Preservation
import LogPipe.Proofs.Stats.Preservation

/-!
# Directives over well-formed tables

A directive that works on its table alone makes a well-formed table of it.  Its arguments
can be wrong in many ways, none of which has to do with lengths, and the cells that it puts
into a column always come from the rows of the table.
-/

namespace LogPipe

open LogPipe.Query

mutual

/-- Whether a directive fails over a length, be it in a query inside it. -/
def DirectiveError.saysMismatch : DirectiveError → Bool
  | .subsearch error => error.saysMismatch
  | .filter error => isMismatch error
  | .formula error => isMismatch error
  | .stats error => isMismatch error
  | .join error => isMismatch error
  | .table error => isMismatch error
  | .lookup error => isMismatch error
  | _ => false

/-- Whether a query fails over a length. -/
def QueryError.saysMismatch : QueryError → Bool
  | .index error => isMismatch error
  | .directive _ _ error => error.saysMismatch
  | _ => false

end

instance : MayMismatch DirectiveError where
  isMismatch := DirectiveError.saysMismatch

instance : MayMismatch QueryError where
  isMismatch := QueryError.saysMismatch

section Access

namespace Invocation

variable {α : Type} {property : α → Prop} (invocation : Invocation)

theorem misused_keeps (fault : UsageFault) : Keeps property (invocation.misused fault) :=
  .error rfl

theorem misset_keeps (fault : SettingFault) : Keeps property (invocation.misset fault) :=
  .error rfl

theorem option?_keeps (read : String → Option α) (key : String) :
    Keeps (fun _ => True) (invocation.option? read key) := by
  rw [option?]
  split
  · exact .ok trivial
  · split
    · exact .ok trivial
    · exact invocation.misset_keeps _

theorem flag_keeps (key : String) (default : Bool) :
    Keeps (fun _ => True) (invocation.flag key default) :=
  (invocation.option?_keeps _ key).map fun _ _ => trivial

theorem count?_keeps (key : String) : Keeps (fun _ => True) (invocation.count? key) :=
  invocation.option?_keeps _ key

end Invocation

namespace Table

theorem need_eq_ok_iff {table : Table} {name : String} {column : Column} :
    table.need name = .ok column ↔ table.column? name = some column := by
  rw [need]
  cases table.column? name with
  | none =>
      constructor
      · intro found
        cases found
      · intro found
        cases found
  | some other => rw [Except.ok.injEq, Option.some.injEq]

variable {table : Table} (wellFormed : table.WellFormed)

include wellFormed

theorem need_keeps (name : String) : Keeps (Column.Suits table.rows) (table.need name) := by
  rw [need]
  split
  · next column found => exact .ok (wellFormed.suits found)
  · exact .error rfl

theorem needAll_keeps (names : List String) : Keeps (fun _ => True) (table.needAll names) := by
  induction names with
  | nil => exact .ok trivial
  | cons name names induction =>
      rw [needAll]
      split
      · next failed => exact .error ((need_keeps wellFormed name).of_eq_error failed)
      · exact induction.map fun _ _ => trivial

theorem put_keeps (name : String) {cells : List Cell} (length : cells.length = table.rows) :
    Keeps WellFormed (table.put name cells) :=
  ((putCells_keeps wellFormed name length).mapError DirectiveError.table fun _ => rfl).imp
    fun _ follows => follows.1

theorem mapInto_keeps (source target : String) (change : Cell → Cell) :
    Keeps WellFormed (table.mapInto source target change) := by
  rw [mapInto]
  split
  · next failed => exact .error ((need_keeps wellFormed source).of_eq_error failed)
  · next column found =>
      have suits := (need_keeps wellFormed source).of_eq_ok found
      exact put_keeps wellFormed target ((List.length_map _).trans suits.size_eq)

/-- Columns of cells for all rows are put into the table one after the other. -/
theorem putAll_keeps {columns : List (String × List Cell)}
    (lengths : ∀ entry ∈ columns, entry.2.length = table.rows) :
    Keeps WellFormed (Pattern.putAll table columns) := by
  induction columns generalizing table with
  | nil => exact .ok wellFormed
  | cons entry columns induction =>
      obtain ⟨name, cells⟩ := entry
      rw [List.forall_mem_cons] at lengths
      have added := putCells_keeps wellFormed name lengths.1
      rw [Pattern.putAll]
      split
      · next failed => exact .error (added.of_eq_error failed)
      · next next done =>
          have follows := added.of_eq_ok done
          exact induction follows.1 fun entry member =>
            (lengths.2 entry member).trans follows.2.symm

end Table

end Access

variable {table : Table} (wellFormed : table.WellFormed) (invocation : Invocation)

namespace Shape

theorem renameAll_keeps {table : Table} (wellFormed : table.WellFormed) (invocation : Invocation)
    (tokens : List Token) : Keeps Table.WellFormed (renameAll invocation table tokens) := by
  rcases tokens with _ | ⟨source, _ | ⟨link, _ | ⟨target, rest⟩⟩⟩
  · exact .ok wellFormed
  · exact .ok wellFormed
  · exact .ok wellFormed
  · have renames := Table.rename_keeps wellFormed source.unquoted target.unquoted
    rw [renameAll]
    split
    · exact invocation.misused_keeps _
    · split
      · exact .error rfl
      · split
        · next done => exact renameAll_keeps (renames.of_eq_ok done) invocation rest
        · next failed => exact .error (renames.of_eq_error failed)

include wellFormed

theorem rename_keeps : Keeps Table.WellFormed (rename table invocation) := by
  rw [rename]
  split
  · exact invocation.misused_keeps _
  · exact renameAll_keeps wellFormed invocation _

theorem fields_keeps : Keeps Table.WellFormed (fields table invocation) := by
  rw [fields]
  simp only
  split
  · exact invocation.misused_keeps _
  · split
    · exact .ok (wellFormed.without _)
    · exact (Table.select_keeps wellFormed _).mapError _ fun _ => rfl

theorem makeTable_keeps : Keeps Table.WellFormed (makeTable table invocation) := by
  rw [makeTable.eq_def]
  split
  · exact invocation.misused_keeps _
  · exact (Table.arrange_keeps wellFormed _).mapError _ fun _ => rfl

omit wellFormed in
theorem headCount_keeps (policy : Policy) :
    Keeps (fun _ => True) (headCount policy invocation) := by
  rw [headCount.eq_def]
  simp only
  split
  · next failed => exact .error ((invocation.count?_keeps _).of_eq_error failed)
  · exact .ok trivial
  · split
    · exact .ok trivial
    · exact .ok trivial
    · exact invocation.misused_keeps _

theorem head_keeps (policy : Policy) : Keeps Table.WellFormed (head policy table invocation) := by
  rw [head]
  split
  · next failed => exact .error ((headCount_keeps invocation policy).of_eq_error failed)
  · split
    · exact invocation.misset_keeps _
    · exact .ok (wellFormed.takeRows _)

theorem dedup_keeps : Keeps Table.WellFormed (dedup table invocation) := by
  refine (invocation.flag_keeps _ _).bind fun consecutive _ => ?_
  simp only
  split
  · exact invocation.misset_keeps _
  · split
    · exact invocation.misused_keeps _
    · refine (Table.needAll_keeps wellFormed _).bind fun columns _ => ?_
      split
      · exact .ok (wellFormed.dedupRuns columns _)
      · exact .ok (wellFormed.dedup columns _)

omit wellFormed in
theorem sortKeys_keeps (descending : Bool) (tokens : List Token) :
    Keeps (fun _ => True) (sortKeys invocation descending tokens) := by
  induction tokens generalizing descending with
  | nil => exact .ok trivial
  | cons token tokens induction =>
      rw [sortKeys]
      split
      · exact induction _
      · split
        · exact induction _
        · split
          · exact induction _
          · split
            · exact (induction _).map fun _ _ => trivial
            · exact invocation.misused_keeps _

theorem sort_keeps : Keeps Table.WellFormed (sort table invocation) := by
  refine (sortKeys_keeps invocation false _).bind fun keys _ => ?_
  split
  · exact invocation.misused_keeps _
  · refine ((Table.sortBy_keeps wellFormed keys).mapError DirectiveError.table fun _ => rfl).bind
      fun sorted sortedFormed => ?_
    exact .ok (iteInduction (fun _ => sortedFormed.takeRows _) fun _ => sortedFormed)

theorem fillNull_keeps : Keeps Table.WellFormed (fillNull table invocation) := by
  rw [fillNull]
  split
  · exact invocation.misset_keeps _
  · exact (Table.fill_keeps wellFormed _ _).mapError _ fun _ => rfl

omit wellFormed in
theorem coalesceNames_keeps (output : String) (tokens : List Token) :
    Keeps (fun _ => True) (coalesceNames invocation output tokens) := by
  fun_induction coalesceNames invocation output tokens with
  | case1 => exact .ok trivial
  | case2 => exact .ok trivial
  | case3 => exact invocation.misused_keeps _
  | case4 => exact .ok trivial
  | case5 output token next rest _ induction => exact induction
  | case6 output token next rest _ _ induction => exact induction
  | case7 output token next rest _ _ induction => exact induction.map fun _ _ => trivial

theorem coalesce_keeps : Keeps Table.WellFormed (coalesce table invocation) := by
  refine (coalesceNames_keeps invocation _ _).bind fun named _ => ?_
  simp only
  split
  · exact invocation.misused_keeps _
  · refine (Table.needAll_keeps wellFormed _).bind fun columns _ => ?_
    exact Table.put_keeps wellFormed _ ((List.length_map _).trans List.length_range)

end Shape

namespace Aggregation

include wellFormed

theorem search_keeps : Keeps Table.WellFormed (search table invocation) := by
  rw [search]
  split
  · next failed => exact .error ((FilterClause.ofTokens_keeps _ _).of_eq_error failed)
  · exact (FilterClause.apply_keeps wellFormed _).mapError _ fun _ => rfl

theorem eval_keeps (seed : Nat) : Keeps Table.WellFormed (eval seed table invocation) := by
  rw [eval]
  split
  · exact invocation.misused_keeps _
  · exact (Assignment.applyClause_keeps wellFormed _ seed).mapError _ fun _ => rfl

omit wellFormed in
theorem aggregate_keeps {form : Table → StatsClause → Except StatsError Table}
    (keeps : ∀ clause, Keeps Table.WellFormed (form table clause)) :
    Keeps Table.WellFormed (aggregate form table invocation) := by
  rw [aggregate]
  split
  · next failed => exact .error ((StatsClause.ofTokens_keeps _ _).of_eq_error failed)
  · exact (keeps _).mapError _ fun _ => rfl

theorem timechart_keeps (policy : Policy) :
    Keeps Table.WellFormed (timechart policy table invocation) := by
  rw [timechart]
  split
  · next failed => exact .error ((Stats.span_ofText_keeps _).of_eq_error failed)
  · exact (Stats.timechart_keeps wellFormed _ _).mapError _ fun _ => rfl

omit wellFormed in
theorem binColumn_keeps {column : Column} {rows : Nat} (size : column.size = rows)
    (name width : String) : Keeps (Column.Suits rows) (binColumn name column width) := by
  rw [binColumn]
  split
  · exact Stats.binNumbers_keeps name _ size
  · split
    · next failed => exact .error ((Stats.span_ofText_keeps _).of_eq_error failed)
    · exact Stats.binTimes_keeps name _ size

theorem bin_keeps (policy : Policy) : Keeps Table.WellFormed (bin policy table invocation) := by
  rw [bin.eq_def]
  simp only
  split
  · next name _ =>
      refine ((Table.require_keeps wellFormed name).mapError DirectiveError.table
        fun _ => rfl).bind fun column suits => ?_
      refine ((binColumn_keeps suits.size_eq name _).mapError DirectiveError.stats
        fun _ => rfl).bind fun binned binnedSuits => ?_
      exact ((Table.withColumn_keeps wellFormed name binnedSuits).mapError DirectiveError.table
        fun _ => rfl).imp fun _ follows => follows.1
  · exact invocation.misused_keeps _

omit wellFormed in
theorem fieldSummary_keeps (table : Table) :
    Keeps Table.WellFormed (fieldSummary table invocation) := by
  rw [fieldSummary]
  split
  · exact invocation.misset_keeps _
  · split
    · next failed => exact .error ((invocation.count?_keeps _).of_eq_error failed)
    · exact .of_mapError (fun _ => rfl) fun _ => Stats.wellFormed_fieldSummary

end Aggregation

namespace Multivalue

theorem firstName_keeps (names : List String) :
    Keeps (fun _ => True) (firstName invocation names) := by
  cases names with
  | nil => exact invocation.misused_keeps _
  | cons name names => exact .ok trivial

theorem readIndexes_keeps (negative : Bool) (tokens : List Token) :
    Keeps (fun _ => True) (readIndexes invocation negative tokens) := by
  induction tokens generalizing negative with
  | nil => exact .ok trivial
  | cons token tokens induction =>
      rw [readIndexes]
      split
      · exact induction _
      · split
        · exact induction _
        · split
          · exact invocation.misused_keeps _
          · exact (induction _).map fun _ _ => trivial

include wellFormed

theorem change_keeps (f : Cell → Cell) :
    Keeps Table.WellFormed (change f table invocation) :=
  (firstName_keeps invocation _).bind fun name _ => Table.mapInto_keeps wellFormed name name f

theorem derive_keeps (suffix : String) (f : Cell → Cell) :
    Keeps Table.WellFormed (derive suffix f table invocation) :=
  (firstName_keeps invocation _).bind fun name _ => Table.mapInto_keeps wellFormed name _ f

theorem expand_keeps : Keeps Table.WellFormed (expand table invocation) :=
  (firstName_keeps invocation _).bind fun name _ =>
    (Table.need_keeps wellFormed name).bind fun column _ =>
      (Table.expand_keeps wellFormed name column).mapError _ fun _ => rfl

theorem join_keeps (default : String) :
    Keeps Table.WellFormed (join default table invocation) :=
  (firstName_keeps invocation _).bind fun name _ => Table.mapInto_keeps wellFormed name name _

theorem index_keeps : Keeps Table.WellFormed (index table invocation) := by
  rw [index.eq_def]
  split
  · exact invocation.misused_keeps _
  · refine (readIndexes_keeps invocation false _).bind fun indexes _ => ?_
    split
    · exact invocation.misused_keeps _
    · exact Table.mapInto_keeps wellFormed _ _ _

theorem find_keeps : Keeps Table.WellFormed (find table invocation) := by
  rw [find.eq_def]
  split
  · refine (Keeps.wrapped fun _ => rfl).bind fun matcher _ => ?_
    exact Table.mapInto_keeps wellFormed _ _ _
  · exact invocation.misused_keeps _

theorem zip_keeps : Keeps Table.WellFormed (zip table invocation) := by
  rw [zip.eq_def]
  simp only
  split
  · refine (Table.need_keeps wellFormed _).bind fun left leftSuits => ?_
    refine (Table.need_keeps wellFormed _).bind fun right rightSuits => ?_
    apply Table.put_keeps wellFormed
    have leftLength : left.cells.length = table.rows := leftSuits.size_eq
    have rightLength : right.cells.length = table.rows := rightSuits.size_eq
    rw [List.length_zipWith, leftLength, rightLength, Nat.min_self]
  · exact invocation.misused_keeps _

theorem append_keeps : Keeps Table.WellFormed (append table invocation) := by
  refine (firstName_keeps invocation _).bind fun target _ => ?_
  refine (Table.needAll_keeps wellFormed _).bind fun columns _ => ?_
  exact Table.put_keeps wellFormed target ((List.length_map _).trans List.length_range)

theorem filter_keeps : Keeps Table.WellFormed (filter table invocation) := by
  rw [filter.eq_def]
  simp only
  split
  · exact Table.mapInto_keeps wellFormed _ _ _
  · split
    · exact Table.mapInto_keeps wellFormed _ _ _
    · exact invocation.misused_keeps _
  · exact invocation.misused_keeps _

end Multivalue

namespace Extraction

theorem readSubstitution_keeps (text : String) :
    Keeps (fun _ => True) (readSubstitution invocation text) := by
  rw [readSubstitution]
  split
  · exact invocation.misused_keeps _
  · split
    · exact .error rfl
    · exact .ok trivial

theorem matchArguments_keeps : Keeps (fun _ => True) (matchArguments invocation) := by
  rw [matchArguments.eq_def]
  split
  · exact .ok trivial
  · split
    · exact .ok trivial
    · split
      · exact .ok trivial
      · exact invocation.misused_keeps _
  · exact invocation.misused_keeps _

theorem mapCells_keeps {α : Type} {f : Cell → Except DirectiveError α}
    (each : ∀ cell, Keeps (fun _ => True) (f cell)) (cells : List Cell) :
    Keeps (fun mapped => mapped.length = cells.length) (mapCells f cells) := by
  induction cells with
  | nil => exact .ok rfl
  | cons cell cells induction =>
      rw [mapCells]
      split
      · next failed => exact .error ((each cell).of_eq_error failed)
      · exact induction.map fun _ length => congrArg Nat.succ length

theorem decodeCell_keeps (cell : Cell) : Keeps (fun _ => True) (decodeCell invocation cell) := by
  rw [decodeCell]
  split
  · exact .ok trivial
  · split
    · exact .ok trivial
    · exact .error rfl

theorem readDocument_keeps (cell : Cell) :
    Keeps (fun _ => True) (readDocument invocation cell) := by
  rw [readDocument]
  split
  · exact .ok trivial
  · split
    · exact .ok trivial
    · exact .error rfl

include wellFormed

theorem substitute_keeps {column : Column} (suits : column.Suits table.rows)
    (field text : String) :
    Keeps Table.WellFormed (substitute table invocation field column text) :=
  (readSubstitution_keeps invocation text).bind fun _ _ =>
    Table.put_keeps wellFormed field ((List.length_map _).trans suits.size_eq)

/-- The columns of all groups have one cell for each cell of the matched column. -/
theorem extractGroups_keeps {column : Column} (suits : column.Suits table.rows) (text : String) :
    Keeps Table.WellFormed (extractGroups table invocation column text) := by
  refine (Keeps.wrapped fun _ => rfl).bind fun matcher _ => ?_
  split
  · exact invocation.misset_keeps _
  · refine (invocation.count?_keeps _).bind fun given _ => ?_
    refine (Table.putAll_keeps wellFormed ?_).mapError _ fun _ => rfl
    intro entry member
    obtain ⟨⟨name, index⟩, -, rfl⟩ := List.mem_map.mp member
    rw [List.length_map, List.length_map]
    exact suits.size_eq

theorem rex_keeps : Keeps Table.WellFormed (rex table invocation) := by
  rw [rex.eq_def]
  simp only
  split
  · exact invocation.misset_keeps _
  · next field text _ _ =>
      split
      · next failed => exact .error ((Table.need_keeps wellFormed field).of_eq_error failed)
      · next column found =>
          have suits := (Table.need_keeps wellFormed field).of_eq_ok found
          split
          · exact substitute_keeps wellFormed invocation suits field text
          · exact extractGroups_keeps wellFormed invocation suits text
  · exact invocation.misused_keeps _

theorem regex_keeps : Keeps Table.WellFormed (regex table invocation) := by
  refine (matchArguments_keeps invocation).bind fun matched _ => ?_
  refine (Keeps.wrapped fun _ => rfl).bind fun matcher _ => ?_
  refine (Table.need_keeps wellFormed _).bind fun column suits => ?_
  refine (Table.filterRows_keeps wellFormed ?_).mapError _ fun _ => rfl
  rw [List.length_map, Pattern.matchMask, List.length_map]
  exact suits.size_eq

omit wellFormed in
theorem convertAll_keeps {convert : Cell → Except DirectiveError Cell}
    (each : ∀ cell, Keeps (fun _ => True) (convert cell)) {table : Table}
    (wellFormed : table.WellFormed) (names : List String) :
    Keeps Table.WellFormed (convertAll convert table names) := by
  induction names generalizing table with
  | nil => exact .ok wellFormed
  | cons name names induction =>
      refine (Table.need_keeps wellFormed name).bind fun column suits => ?_
      refine (mapCells_keeps each column.cells).bind fun cells length => ?_
      have added := Table.put_keeps wellFormed name (length.trans suits.size_eq)
      exact added.bind fun next nextFormed => induction nextFormed

theorem base64_keeps : Keeps Table.WellFormed (base64 table invocation) := by
  rw [base64.eq_def]
  split
  · exact invocation.misused_keeps _
  · simp only
    split
    · exact invocation.misused_keeps _
    · next convert chosen =>
        split
        · exact invocation.misused_keeps _
        · refine convertAll_keeps (fun cell => ?_) wellFormed _
          split at chosen
          · cases chosen
            exact .ok trivial
          · cases chosen
            exact decodeCell_keeps invocation cell
          · cases chosen

theorem spath_keeps : Keeps Table.WellFormed (spath table invocation) := by
  refine (Table.need_keeps wellFormed _).bind fun column suits => ?_
  refine (mapCells_keeps (readDocument_keeps invocation) column.cells).bind
    fun documents length => ?_
  have sameLength : documents.length = table.rows := length.trans suits.size_eq
  split
  · exact Table.put_keeps wellFormed _ ((List.length_map _).trans sameLength)
  · refine (Table.putAll_keeps wellFormed ?_).mapError _ fun _ => rfl
    intro entry member
    obtain ⟨name, -, rfl⟩ := List.mem_map.mp member
    exact (List.length_map _).trans sameLength

end Extraction

end LogPipe
