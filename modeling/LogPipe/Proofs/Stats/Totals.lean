import LogPipe.Proofs.Stats.Integers
import LogPipe.Proofs.Stats.Reordering

/-!
# Sums of integers in any order

A sum of integers is exact as long as no sum of the first of them leaves the 64-bit range, and
goes on with floats from the first one that does.  So it is exact in every order when neither
the positive nor the negative integers alone leave the range.  Then the order of the rows is
nothing that a summary of sums can see.
-/

namespace LogPipe

open LogPipe.Decimal Integers

namespace Reducer

variable {cells others : List Cell}

/-- The sum of some integers and missing cells is an integer, and none is lost. -/
def SumsExactly (cells : List Cell) : Prop :=
  ∃ value : Int64, sum cells = .ok (.int value) ∧ value.toInt = total (integers cells)

theorem sum_of_stays (integral : Integral cells) (some : integers cells ≠ [])
    (stays : StaysInRange (integers cells)) :
    sum cells = .ok (.int (Int64.ofInt (total (integers cells)))) := by
  rw [sum_eq, integral.numbers_eq, Except.map, foldFrom_add_of_stays some stays]
  rfl

theorem sum_of_overflow (integral : Integral cells) {before after : List Int64} {next : Int64}
    (split : integers cells = before ++ next :: after) (stays : StaysInRange before)
    (leaves : ¬InRange (total (before ++ [next]))) :
    sum cells = .ok (.float (floatFrom
      (Cell.floatOfInt (Int64.ofInt (total before)) + Cell.floatOfInt next) after)) := by
  rw [sum_eq, integral.numbers_eq, Except.map, split, foldFrom_add_of_overflow stays leaves]
  rfl

theorem sumsExactly_iff (integral : Integral cells) (some : integers cells ≠ []) :
    SumsExactly cells ↔ StaysInRange (integers cells) := by
  constructor
  · rintro ⟨value, exact, -⟩
    apply Classical.byContradiction
    intro leaves
    obtain ⟨before, next, after, split, stays, tooLarge⟩ := exists_overflow leaves
    rw [sum_of_overflow integral split stays tooLarge] at exact
    cases exact
  · intro stays
    exact ⟨_, sum_of_stays integral some stays,
      toInt_ofInt_of_inRange (stays _ (List.prefix_refl _))⟩

/-- In every order the sum is exact when the gains and the losses alone are in range, and only
then. -/
theorem forall_perm_sumsExactly_iff (integral : Integral cells) (some : integers cells ≠ []) :
    (∀ others : List Cell, others.Perm cells → SumsExactly others) ↔
      SidesInRange (integers cells) := by
  have someOf : ∀ {others : List Cell}, others.Perm cells → integers others ≠ [] := by
    intro others perm none
    have reordered := integers_perm perm
    rw [none] at reordered
    exact some reordered.symm.eq_nil
  rw [← forall_perm_stays_iff]
  constructor
  · intro exact values perm
    obtain ⟨others, reordered, rfl⟩ := integral.exists_cells perm
    exact (sumsExactly_iff (integral.perm reordered.symm) (someOf reordered)).mp
      (exact others reordered)
  · intro stays others perm
    exact (sumsExactly_iff (integral.perm perm.symm) (someOf perm)).mpr
      (stays _ (integers_perm perm))

end Reducer

namespace Stats

open Grouping Reducer

section

variable {table : Table} {bound : BoundAggregate} {field : String} {column : Column}

theorem integral_fieldCells (wellFormed : table.WellFormed)
    (shown : table.column? field = some column) (ints : column.kind = .int) {rows : List Nat}
    (inside : ∀ row ∈ rows, row < table.rows) : Integral (fieldCells table field rows) := by
  rw [fieldCells_eq wellFormed shown inside, Integral, List.forall_mem_map]
  intro row member
  have fits := wellFormed.uniform_of_column? shown _
    (wellFormed.cellAt_mem shown (inside row member))
  rcases fits with isNull | same
  · left
    cases held : column.cellAt row with
    | missing marker => rfl
    | _ => rw [held] at isNull; cases isNull
  · exact Or.inr (same.trans ints)

/-- What a sum of integers makes of rows that keep it in range. -/
def sumCell (values : List Int64) : Cell :=
  if values = [] then .null else .int (Int64.ofInt (total values))

theorem sumCell_perm {values others : List Int64} (perm : values.Perm others) :
    sumCell values = sumCell others := by
  have sameEmpty : values = [] ↔ others = [] := by
    rw [← List.length_eq_zero_iff, perm.length_eq, List.length_eq_zero_iff]
  simp only [sumCell, sameEmpty, total_perm perm]

theorem sum_eq_sumCell {cells : List Cell} (integral : Integral cells)
    (sides : SidesInRange (integers cells)) :
    Reducer.sum cells = .ok (sumCell (integers cells)) := by
  rw [sumCell]
  by_cases none : integers cells = []
  · rw [if_pos none, sum_eq, integral.numbers_eq, none]
    rfl
  · rw [if_neg none]
    exact sum_of_stays integral none (forall_perm_stays_iff.mpr sides _ (List.Perm.refl _))

/-- A sum of integers that stays in range is the same in every order. -/
theorem aggregateRows_sum (wellFormed : table.WellFormed) (isSum : bound.function = .sum)
    (named : bound.field = some field) (shown : table.column? field = some column)
    (ints : column.kind = .int) {rows others : List Nat} (inside : ∀ row ∈ rows, row < table.rows)
    (sides : SidesInRange (integers (fieldCells table field rows))) (perm : others.Perm rows) :
    aggregateRows table others bound =
      .ok (sumCell (integers (fieldCells table field rows))) := by
  have insideOthers : ∀ row ∈ others, row < table.rows :=
    fun row member => inside row (perm.mem_iff.mp member)
  have integral := integral_fieldCells wellFormed shown ints insideOthers
  have reordered : (integers (fieldCells table field others)).Perm
      (integers (fieldCells table field rows)) :=
    integers_perm (perm.filterMap _)
  have reduced : Reducer.sum (fieldCells table field others) =
      .ok (sumCell (integers (fieldCells table field rows))) := by
    rw [← sumCell_perm reordered]
    exact sum_eq_sumCell integral (sides.perm reordered.symm)
  rw [aggregateRows_field wellFormed named shown insideOthers, isSum, AggregateFunction.reduce,
    reduced]
  rfl

end

/-- The integers of a field in the group of a row of a summary. -/
def groupIntegers (table summary : Table) (groupBy : List String) (field : String) (place : Nat) :
    List Int64 :=
  integers (fieldCells table field (table.rowsWith groupBy (summary.keysAt groupBy place)))

section

variable {table summary : Table} {clause : StatsClause} {bounds : List BoundAggregate}
  {grouping : Grouping} {columns : List Column} {distinct order : List (List Key)}
  {bound : BoundAggregate} {field : String} {column : Column}

/-- A group whose integers keep in range has its sum in every order. -/
theorem Summarized.aggregateRows_sum
    (parts : Summarized table summary clause bounds grouping columns distinct order)
    (wellFormed : table.WellFormed) (isSum : bound.function = .sum)
    (named : bound.field = some field) (shown : table.column? field = some column)
    (ints : column.kind = .int)
    (sides : ∀ place < summary.rows,
      SidesInRange (groupIntegers table summary clause.groupBy field place))
    {place : Nat} {key : List Key} (there : order[place]? = some key) {rows : List Nat}
    (perm : rows.Perm (keyRows table columns key)) :
    aggregateRows table rows bound =
      .ok (sumCell (groupIntegers table summary clause.groupBy field place)) := by
  have placed : place < summary.rows := by
    rw [parts.rows]
    exact (List.getElem?_eq_some_iff.mp there).1
  have inRange := sides place placed
  rw [groupIntegers, ← parts.keyRows_eq_rowsWith wellFormed there] at inRange ⊢
  exact Stats.aggregateRows_sum wellFormed isSum named shown ints
    (fun _ => lt_of_mem_keyRows) inRange perm

/-- A summary shows the exact sums of its groups. -/
theorem Summarized.value?_sum
    (parts : Summarized table summary clause bounds grouping columns distinct order)
    (wellFormed : table.WellFormed) (member : bound ∈ bounds) (isSum : bound.function = .sum)
    (named : bound.field = some field) (shown : table.column? field = some column)
    (ints : column.kind = .int)
    (sides : ∀ place < summary.rows,
      SidesInRange (groupIntegers table summary clause.groupBy field place))
    {place : Nat} (inside : place < summary.rows)
    (some : groupIntegers table summary clause.groupBy field place ≠ []) :
    ∃ value : Int64, summary.value? bound.output place = .some (.int value) ∧
      value.toInt = total (groupIntegers table summary clause.groupBy field place) := by
  obtain ⟨key, there⟩ := parts.exists_key inside
  have summed : ∀ {place : Nat} {key : List Key}, order[place]? = .some key →
      aggregateOf table bound (keyRows table columns key) =
        sumCell (groupIntegers table summary clause.groupBy field place) := by
    intro place key there
    rw [aggregateOf, parts.aggregateRows_sum wellFormed isSum named shown ints sides there
      (List.Perm.refl _)]
    rfl
  have own := summed there
  rw [sumCell, if_neg some] at own
  refine ⟨_, ?_, toInt_ofInt_of_inRange
    (forall_perm_stays_iff.mpr (sides place inside) _ (List.Perm.refl _) _ (List.prefix_refl _))⟩
  rw [parts.value?_output member there, own, Column.coerce_lossyKind]
  · rw [List.forall_mem_map]
    intro other inOrder
    obtain ⟨otherPlace, otherThere⟩ := List.getElem?_of_mem inOrder
    rw [summed otherThere, sumCell]
    split
    · exact Or.inl rfl
    · exact Or.inr rfl
  · rw [← own]
    exact List.mem_map_of_mem (List.mem_of_getElem? there)

end

/-- Sums of integers and missing cells.  The sum is an integer, and none is lost, exactly when no
sum of the first integers leaves the 64-bit range.  From the first one that does, floats are
added.  The sum is exact in every order of the cells exactly when neither the positive integers
alone nor the negative ones leave the range.  When this holds for every group of a table, rows in
another order have a summary as well, and it shows the same sum for the same keys. -/
theorem sums_of_integers :
    (∀ cells, Integral cells → integers cells ≠ [] →
      (SumsExactly cells ↔ StaysInRange (integers cells)) ∧
      (∀ before next after, integers cells = before ++ next :: after → StaysInRange before →
        ¬InRange (total (before ++ [next])) →
          Reducer.sum cells = .ok (.float (floatFrom
            (Cell.floatOfInt (Int64.ofInt (total before)) + Cell.floatOfInt next) after))) ∧
      ((∀ others, List.Perm others cells → SumsExactly others) ↔
        SidesInRange (integers cells))) ∧
    ∀ table clause summary bounds bound field column, table.WellFormed →
      summarize table clause = .ok summary → clause.bind table = .ok bounds → bound ∈ bounds →
      bound.function = .sum → bound.field = some field → table.column? field = some column →
      column.kind = .int →
      (∀ place < summary.rows,
        SidesInRange (groupIntegers table summary clause.groupBy field place)) →
      ∀ positions, List.Perm positions (List.range table.rows) →
        ∃ other, summarize (table.takeRows positions) clause = .ok other ∧
          other.rows = summary.rows ∧
          ∀ place < summary.rows,
            (∃ otherPlace < other.rows,
              other.keysAt clause.groupBy otherPlace = summary.keysAt clause.groupBy place ∧
              other.value? bound.output otherPlace = summary.value? bound.output place) ∧
            (groupIntegers table summary clause.groupBy field place ≠ [] →
              ∃ value : Int64, summary.value? bound.output place = some (.int value) ∧
                value.toInt = total (groupIntegers table summary clause.groupBy field place)) := by
  refine ⟨fun cells integral some => ⟨sumsExactly_iff integral some, ?_,
    forall_perm_sumsExactly_iff integral some⟩, ?_⟩
  · intro before next after split stays leaves
    exact sum_of_overflow integral split stays leaves
  intro table clause summary bounds bound field column wellFormed summarized bind member isSum
    named shown ints sides positions reordering
  have reorders : Table.RowOrder table positions := ⟨wellFormed, reordering⟩
  obtain ⟨other, otherSummarized⟩ := exists_summary_takeRows reorders summarized
  obtain ⟨_, grouping, columns, distinct, order, parts⟩ := exists_summarized summarized
  obtain ⟨_, otherGrouping, otherColumns, otherDistinct, otherOrder, others⟩ :=
    exists_summarized otherSummarized
  cases bind.symm.trans parts.bind
  cases (StatsClause.bind_takeRows table positions clause ▸ others.bind).symm.trans parts.bind
  have exact := fun place (inside : place < summary.rows) =>
    parts.value?_sum wellFormed member isSum named shown ints sides inside
  refine ⟨other, otherSummarized, ?_⟩
  obtain noRow | someRow := Nat.eq_zero_or_pos table.rows
  · rw [reorders.takeRows_of_no_rows noRow, summarized] at otherSummarized
    cases otherSummarized
    exact ⟨rfl, fun place inside => ⟨⟨place, inside, rfl, rfl⟩, exact place inside⟩⟩
  · have someOther : 0 < (table.takeRows positions).rows := by
      rw [reorders.rows_eq]
      exact someRow
    have perm := parts.perm_order_takeRows others.toGrouped reorders someRow
    refine ⟨?_, fun place inside => ⟨?_, exact place inside⟩⟩
    · rw [others.rows, parts.rows, perm.length_eq]
    · obtain ⟨key, there⟩ := parts.exists_key inside
      have orderless : ∀ key ∈ order, Orderless table bound (keyRows table columns key) := by
        intro key inOrder rows reordered
        obtain ⟨place, there⟩ := List.getElem?_of_mem inOrder
        rw [parts.aggregateRows_sum wellFormed isSum named shown ints sides there reordered,
          parts.aggregateRows_sum wellFormed isSum named shown ints sides there (List.Perm.refl _)]
      obtain ⟨otherPlace, otherThere, same⟩ :=
        parts.value?_takeRows others reorders someRow member orderless there
      refine ⟨otherPlace, ?_, ?_, same⟩
      · rw [others.rows]
        exact (List.getElem?_eq_some_iff.mp otherThere).1
      · rw [parts.keysAt wellFormed someRow there,
          others.keysAt (wellFormed.takeRows positions) someOther otherThere]

/-- Amounts of two accounts. -/
def transfers : Table :=
  ⟨3, [("account", ⟨.text, [.text "a", .text "b", .text "a"]⟩),
    ("amount", ⟨.int, [.int 9223372036854775807, .int 7, .int (-5)]⟩)]⟩

/-- The clause `sum(amount) as balance by account`. -/
def balances : StatsClause :=
  ⟨[⟨.sum, "sum", some "amount", some "balance"⟩], ["account"]⟩

/-- The gains of account `a` alone reach the end of the range, and its balance is exact also when
the loss comes first. -/
theorem sums_of_integers_transfers :
    SumsExactly [.int 9223372036854775807, .null, .int (-5)] ∧
      ∃ other, summarize (transfers.takeRows [2, 1, 0]) balances = .ok other ∧
        ∃ place < other.rows, other.value? "balance" place = some (.int 9223372036854775802) := by
  obtain ⟨ofCells, ofRows⟩ := sums_of_integers
  constructor
  · obtain ⟨-, -, inEveryOrder⟩ := ofCells [.int 9223372036854775807, .null, .int (-5)]
      (by decide) (by decide)
    exact inEveryOrder.mpr (by decide) _ (List.Perm.refl _)
  let grouping := Grouping.ofColumns 3 [⟨.text, [.text "a", .text "b", .text "a"]⟩]
  have sorted : grouping.sorted = [([.text "a"], [0, 2]), ([.text "b"], [1])] :=
    List.mergeSort_of_pairwise (by decide +kernel)
  have bind : balances.bind transfers = .ok [⟨.sum, some "amount", "balance"⟩] := rfl
  have summarized : summarize transfers balances =
      .ok ⟨2, [("account", ⟨.text, [.text "a", .text "b"]⟩),
        ("balance", ⟨.int, [.int 9223372036854775802, .int 7]⟩)]⟩ := by
    have grouped : Grouping.ofTable transfers balances.groupBy = .ok grouping := rfl
    rw [summarize_eq bind grouped, sorted]
    rfl
  obtain ⟨other, reordered, -, shows⟩ := ofRows transfers balances _ _ _ "amount" _ (by decide)
    summarized bind List.mem_cons_self rfl rfl rfl rfl (by decide) [2, 1, 0] (by decide)
  obtain ⟨⟨place, inside, -, same⟩, -⟩ := shows 0 (by decide)
  exact ⟨other, reordered, place, inside, same⟩

/-- The sum of these integers is the greatest one, but the sum of the first two is out of range. -/
def crossing : List Cell :=
  [.int 9223372036854775807, .int 1, .int (-1)]

/-- That a sum is in range is not enough for it to be exact, and the order matters. -/
theorem not_sumsExactly_crossing :
    Integral crossing ∧ InRange (total (integers crossing)) ∧ ¬SumsExactly crossing ∧
      SumsExactly crossing.reverse := by
  refine ⟨by decide, by decide, ?_, ?_⟩
  · rw [sumsExactly_iff (by decide) (by decide)]
    intro stays
    exact absurd (stays [9223372036854775807, 1] (by decide)) (by decide)
  · exact ⟨9223372036854775807, by decide +kernel, by decide⟩

end Stats

end LogPipe
