import LogPipe.Proofs.Column.Reordering
import LogPipe.Proofs.Formula.Agreement
import LogPipe.Proofs.Formula.Replacement
import LogPipe.Proofs.Table.Gathering

/-!
# Formulas over rows in another order

Every part of a formula is typed anew from all of its rows, so the value in one row can
depend on the other rows, but not on their order.  Over a table with its rows in another
order, a formula without `randomize` fails when it fails over the table, and otherwise gives
the same column with its rows in that order.
-/

namespace LogPipe

namespace Formula

open Table (RowOrder column?_takeRows hasColumn_takeRows)

/-- Two computations that draw nothing and have results that are alike. -/
def Drawing.Alike {α β : Type} (same : α → β → Prop) (first : Drawing α) (second : Drawing β) :
    Prop :=
  ∃ left right, first = Drawing.fixed left ∧ second = Drawing.fixed right ∧
    LogPipe.Alike same left right

namespace Drawing.Alike

variable {α β γ δ : Type} {same : α → β → Prop} {final : γ → δ → Prop}

theorem fixed {left : Except FormulaError α} {right : Except FormulaError β}
    (alike : LogPipe.Alike same left right) :
    Drawing.Alike same (Drawing.fixed left) (Drawing.fixed right) :=
  ⟨left, right, rfl, rfl, alike⟩

theorem value {left : α} {right : β} (shown : same left right) :
    Drawing.Alike same (pure left) (pure right) :=
  fixed (.ok shown)

theorem failure (error : FormulaError) : Drawing.Alike same (throw error) (throw error) :=
  fixed (.error error error)

theorem bind {first : Drawing α} {second : Drawing β} {later : α → Drawing γ}
    {other : β → Drawing δ} (alike : Drawing.Alike same first second)
    (laterAlike : ∀ left right, same left right → Drawing.Alike final (later left) (other right)) :
    Drawing.Alike final (first >>= later) (second >>= other) := by
  obtain ⟨left, right, rfl, rfl, agreed⟩ := alike
  cases agreed with
  | error left right => exact fixed (.error left right)
  | ok shown => exact laterAlike _ _ shown

end Drawing.Alike

namespace Value

/-- A value over a table beside the value over the table with its rows in another order. -/
inductive Reordered (rows : Nat) (positions : List Nat) : Value → Value → Prop
  | cell (cell : Cell) : Reordered rows positions (.cell cell) (.cell cell)
  | column {column other : Column} (reordered : Column.Reordered rows positions column other) :
      Reordered rows positions (.column column) (.column other)

variable {rows : Nat} {positions : List Nat} {value other left right otherLeft otherRight : Value}

theorem Reordered.isCell_eq (reordered : Reordered rows positions value other) :
    other.isCell = value.isCell := by
  cases reordered <;> rfl

/-- The cell in a row is the cell in the place where the row has been taken from. -/
theorem Reordered.cellAt (reordered : Reordered rows positions value other) {row position : Nat}
    (isAt : positions[row]? = some position) (inside : position < rows) :
    other.cellAt row = value.cellAt position := by
  cases reordered with
  | cell cell => rfl
  | @column column other reordered =>
      have shown : column.get? position = some (column.cellAt position) := by
        have short : position < column.cells.length := by
          rwa [← reordered.size_eq, Column.size] at inside
        rw [Column.cellAt, Column.get?, List.getElem?_eq_getElem short, Option.getD_some]
      have taken : other.get? row = some (column.cellAt position) := by
        rw [reordered.taken, Column.get?, Column.take, List.getElem?_map, isAt, Option.map_some]
      rw [Value.cellAt, Value.cellAt, taken, shown]

theorem Reordered.toColumn (reordering : positions.Perm (List.range rows))
    (reordered : Reordered rows positions value other) :
    Column.Reordered rows positions (value.toColumn rows) (other.toColumn rows) := by
  cases reordered with
  | cell cell => exact Column.reordered_replicate reordering cell
  | column reordered => exact reordered

theorem Reordered.invert (reordering : positions.Perm (List.range rows))
    (reordered : Reordered rows positions value other) :
    Reordered rows positions value.invert other.invert := by
  cases reordered with
  | cell cell => exact .cell _
  | column reordered =>
      rw [reordered.taken]
      exact .column
        (Column.reordered_not (Column.lt_of_reordering reordering) reordered.size_eq)

/-- An operation on columns of one size that works on their rows in any order. -/
def Orderless (rows : Nat) (positions : List Nat)
    (operation : Column → Column → Except ColumnError Column) : Prop :=
  ∀ {left right : Column}, left.size = rows → right.size = rows →
    Alike (Column.Reordered rows positions) (operation left right)
      (operation (left.take positions) (right.take positions))

theorem alike_column {first second : Except ColumnError Column}
    (alike : Alike (Column.Reordered rows positions) first second) :
    Alike (Reordered rows positions)
      (match first with
        | .ok result => (.ok (.column result) : Except FormulaError Value)
        | .error error => .error (.column error))
      (match second with
        | .ok result => (.ok (.column result) : Except FormulaError Value)
        | .error error => .error (.column error)) := by
  cases alike with
  | error left right => exact .error _ _
  | ok reordered => exact .ok (.column reordered)

theorem combine_alike (reordering : positions.Perm (List.range rows))
    {operation : Column → Column → Except ColumnError Column}
    (orderless : Orderless rows positions operation)
    (leftReordered : Reordered rows positions left otherLeft)
    (rightReordered : Reordered rows positions right otherRight) :
    Alike (Reordered rows positions) (combine rows operation left right)
      (combine rows operation otherLeft otherRight) := by
  by_cases single : (left.isCell && right.isCell) = true
  · rw [Bool.and_eq_true] at single
    obtain ⟨a, rfl⟩ := exists_cell single.1
    obtain ⟨b, rfl⟩ := exists_cell single.2
    cases leftReordered
    cases rightReordered
    rw [combine]
    cases operation (Column.lossy [a]) (Column.lossy [b]) with
    | error error => exact .error _ _
    | ok result => exact .ok (.cell _)
  · rw [Bool.not_eq_true] at single
    have otherSingle : (otherLeft.isCell && otherRight.isCell) = false := by
      rw [leftReordered.isCell_eq, rightReordered.isCell_eq, single]
    obtain ⟨leftSize, leftTaken⟩ := leftReordered.toColumn reordering
    obtain ⟨rightSize, rightTaken⟩ := rightReordered.toColumn reordering
    rw [combine_of_not_cells single, combine_of_not_cells otherSingle, leftTaken, rightTaken]
    exact alike_column (orderless leftSize rightSize)

section Rows

variable {values others : List Value}

theorem all_isCell_eq (reordered : List.Forall₂ (Reordered rows positions) values others) :
    others.all isCell = values.all isCell := by
  induction reordered with
  | nil => rfl
  | cons head tail induction => rw [List.all_cons, List.all_cons, head.isCell_eq, induction]

theorem map_cellAt_reordered (reordered : List.Forall₂ (Reordered rows positions) values others)
    {row position : Nat} (isAt : positions[row]? = some position) (inside : position < rows) :
    others.map (cellAt row) = values.map (cellAt position) := by
  induction reordered with
  | nil => rfl
  | cons head tail induction =>
      rw [List.map_cons, List.map_cons, head.cellAt isAt inside, induction]

theorem others_eq_of_cells (reordered : List.Forall₂ (Reordered rows positions) values others)
    (single : values.all isCell = true) : others = values := by
  induction reordered with
  | nil => rfl
  | cons head tail induction =>
      rw [List.all_cons, Bool.and_eq_true] at single
      obtain ⟨cell, rfl⟩ := exists_cell single.1
      cases head
      rw [induction single.2]

/-- What is done in the rows of a reordered table is done in the rows in that order. -/
theorem mapM_reordered (reordering : positions.Perm (List.range rows))
    {step taken : Nat → Except FormulaError Cell}
    (each : ∀ row position, positions[row]? = some position → taken row = step position) :
    (List.range rows).mapM taken = positions.mapM step := by
  have length : positions.length = rows := reordering.length_eq.trans List.length_range
  calc
    (List.range rows).mapM taken =
        (List.range rows).mapM (step ∘ fun row => positions[row]?.getD 0) := by
      apply mapM_congr
      intro row member
      have inside : row < positions.length := length.symm ▸ List.mem_range.mp member
      rw [each row _ (List.getElem?_eq_getElem inside), Function.comp_apply,
        List.getElem?_eq_getElem inside, Option.getD_some]
    _ = ((List.range rows).map fun row => positions[row]?.getD 0).mapM step :=
      List.mapM_map.symm
    _ = positions.mapM step := by rw [← length, map_range_getElem?]

theorem inRows_alike (reordering : positions.Perm (List.range rows))
    (result : List Cell → Except FormulaError Cell)
    (reordered : List.Forall₂ (Reordered rows positions) values others) :
    Alike (Reordered rows positions) (inRows rows result values) (inRows rows result others) := by
  by_cases single : values.all isCell = true
  · rw [others_eq_of_cells reordered single, inRows, if_pos single]
    cases result (values.map (cellAt 0)) with
    | error error => exact .error _ _
    | ok cell => exact .ok (.cell cell)
  · have otherSingle : ¬others.all isCell = true := by rwa [all_isCell_eq reordered]
    have taken : ((List.range rows).mapM fun row => result (others.map (cellAt row))) =
        positions.mapM fun position => result (values.map (cellAt position)) :=
      mapM_reordered reordering fun row position isAt =>
        congrArg result (map_cellAt_reordered reordered isAt
          (Column.lt_of_reordering reordering position (List.mem_of_getElem? isAt)))
    rw [inRows, inRows, if_neg single, if_neg otherSingle, taken]
    exact (Column.alike_rows reordering _).map fun _ _ reordered => .column reordered

end Rows

end Value

section Calls

variable {rows : Nat} {positions : List Nat} {function : Builtin} {arguments others : List Value}

/-- Keyword arguments under the same keywords whose values are reordered. -/
def ReorderedKeywords (rows : Nat) (positions : List Nat) (left right : List (String × Value)) :
    Prop :=
  List.Forall₂ (fun keyword other =>
    keyword.1 = other.1 ∧ Value.Reordered rows positions keyword.2 other.2) left right

namespace ReorderedKeywords

variable {keywords otherKeywords : List (String × Value)}

theorem checkKeywords (reordered : ReorderedKeywords rows positions keywords otherKeywords) :
    Formula.checkKeywords function keywords = Formula.checkKeywords function otherKeywords := by
  induction reordered with
  | nil => rfl
  | cons head tail induction => rw [Formula.checkKeywords, Formula.checkKeywords, head.1, induction]

theorem values (reordered : ReorderedKeywords rows positions keywords otherKeywords) :
    List.Forall₂ (Value.Reordered rows positions) (keywords.map Prod.snd)
      (otherKeywords.map Prod.snd) := by
  induction reordered with
  | nil => exact .nil
  | cons head tail induction => exact .cons head.2 induction

end ReorderedKeywords

theorem alike_refl {α : Type} (result : Except FormulaError α) :
    Alike Eq result result := by
  cases result with
  | error error => exact .error error error
  | ok value => exact .ok rfl

/-- A call that draws nothing works on the rows in any order. -/
theorem callResult_alike (reordering : positions.Perm (List.range rows))
    (undrawn : function ≠ .randomize) {keywords otherKeywords : List (String × Value)}
    (reordered : List.Forall₂ (Value.Reordered rows positions) arguments others)
    (reorderedKeywords : ReorderedKeywords rows positions keywords otherKeywords) :
    Drawing.Alike (Value.Reordered rows positions) (callResult rows function arguments keywords)
      (callResult rows function others otherKeywords) := by
  have together : List.Forall₂ (Value.Reordered rows positions)
      (arguments ++ keywords.map Prod.snd) (others ++ otherKeywords.map Prod.snd) :=
    List.rel_append reordered reorderedKeywords.values
  have counted := together.length_eq
  rw [callResult, callResult, reorderedKeywords.checkKeywords]
  apply (Drawing.Alike.fixed (alike_refl _)).bind
  intro _ _ _
  simp only [counted]
  split
  · rw [inEveryRow_eq_fixed undrawn, inEveryRow_eq_fixed undrawn]
    exact .fixed (Value.inRows_alike reordering _ together)
  · exact .failure _

end Calls

section Evaluation

variable {table : Table} {positions : List Nat}

/-- The check of a formula reads only which columns there are. -/
theorem permit_takeRows_alike (table : Table) (positions : List Nat) (formula : Formula) :
    Alike Eq (permit table formula) (permit (table.takeRows positions) formula) := by
  have admissible : ∀ node, Admissible (table.takeRows positions) node ↔ Admissible table node := by
    rintro ⟨role, node⟩
    cases node with
    | name id => simp only [Admissible, hasColumn_takeRows]
    | _ => exact Iff.rfl
  have passes : permit (table.takeRows positions) formula = .ok () ↔
      permit table formula = .ok () := by
    rw [permit_eq_ok_iff, permit_eq_ok_iff]
    simp only [admissible]
  cases checked : permit table formula with
  | ok passed =>
      rw [passes.mpr checked]
      exact .ok rfl
  | error error =>
      cases reordered : permit (table.takeRows positions) formula with
      | ok passed =>
          rw [passes.mp reordered] at checked
          cases checked
      | error other => exact .error error other

theorem combined_alike (order : RowOrder table positions)
    {left otherLeft right otherRight : Drawing Value}
    (leftAlike : Drawing.Alike (Value.Reordered table.rows positions) left otherLeft)
    (rightAlike : Drawing.Alike (Value.Reordered table.rows positions) right otherRight)
    {operation : Column → Column → Except ColumnError Column}
    (orderless : Value.Orderless table.rows positions operation) :
    Drawing.Alike (Value.Reordered table.rows positions)
      (do
        let left ← left
        let right ← right
        Drawing.fixed (Value.combine table.rows operation left right))
      (do
        let left ← otherLeft
        let right ← otherRight
        Drawing.fixed (Value.combine (table.takeRows positions).rows operation left right)) := by
  rw [order.rows_eq]
  exact leftAlike.bind fun _ _ leftReordered =>
    rightAlike.bind fun _ _ rightReordered =>
      .fixed (Value.combine_alike order.reordering orderless leftReordered rightReordered)

mutual

/-- A part of a formula has a value over a reordered table when it has one over the table,
with its rows in that order. -/
theorem valueOf_alike (order : RowOrder table positions) (formula : Formula)
    (undrawn : ∀ node ∈ formula.properNodes, node ≠ drawingCallee) :
    Drawing.Alike (Value.Reordered table.rows positions) (valueOf table formula)
      (valueOf (table.takeRows positions) formula) := by
  cases formula with
  | literal value => exact .value (.cell value)
  | name id =>
      rw [valueOf, valueOf, column?_takeRows]
      cases shown : table.column? id with
      | none => exact .failure _
      | some column => exact .value (.column ⟨order.wellFormed.size_eq shown, rfl⟩)
  | negate operand =>
      rw [properNodes, List.forall_mem_cons] at undrawn
      rw [valueOf, valueOf, order.rows_eq]
      exact (valueOf_alike order operand undrawn.2).bind fun _ _ reordered =>
        .fixed (Value.combine_alike order.reordering
          (Column.alike_arithmetic order.reordering .sub) (.cell _) reordered)
  | invert operand =>
      rw [properNodes, List.forall_mem_cons] at undrawn
      rw [valueOf, valueOf]
      exact (valueOf_alike order operand undrawn.2).bind fun _ _ reordered =>
        .value (reordered.invert order.reordering)
  | arithmetic operator left right | compare operator left right
  | both left right | either left right =>
      rw [properNodes, List.forall_mem_append, List.forall_mem_cons,
        List.forall_mem_cons] at undrawn
      have leftAlike := valueOf_alike order left undrawn.1.2
      have rightAlike := valueOf_alike order right undrawn.2.2
      rw [valueOf, valueOf]
      apply combined_alike order leftAlike rightAlike
      first
        | exact Column.alike_arithmetic order.reordering _
        | exact Column.alike_zipTruths order.reordering _
  | call callee arguments keywords =>
      rw [properNodes, List.forall_mem_append, List.forall_mem_cons,
        List.forall_mem_append] at undrawn
      obtain ⟨⟨calleeUndrawn, -⟩, positionalUndrawn, namedUndrawn⟩ := undrawn
      rw [valueOf, valueOf, order.rows_eq]
      cases called : calledFunction callee with
      | error error => exact .failure error
      | ok function =>
          have functionUndrawn := callee_undrawn called calleeUndrawn
          exact (valuesOf_alike order arguments positionalUndrawn).bind fun _ _ reordered =>
            (keywordValuesOf_alike order keywords namedUndrawn).bind fun _ _ reorderedKeywords =>
              callResult_alike order.reordering functionUndrawn reordered reorderedKeywords
  | member value id => exact .failure _
  | subscript value index => exact .failure _
  | list items =>
      rw [valueOf, valueOf, order.rows_eq]
      refine (valuesOf_alike order items undrawn).bind fun _ _ reordered => ?_
      have alike := Value.inRows_alike order.reordering (fun cells => .ok (.list cells)) reordered
      rw [← Value.list_eq_inRows, ← Value.list_eq_inRows] at alike
      exact .fixed alike

theorem valuesOf_alike (order : RowOrder table positions) (formulas : List Formula)
    (undrawn : ∀ node ∈ nodesOfAll formulas, node ≠ drawingCallee) :
    Drawing.Alike (List.Forall₂ (Value.Reordered table.rows positions)) (valuesOf table formulas)
      (valuesOf (table.takeRows positions) formulas) := by
  cases formulas with
  | nil => exact .value .nil
  | cons formula formulas =>
      rw [nodesOfAll, List.forall_mem_append, List.forall_mem_cons] at undrawn
      rw [valuesOf, valuesOf]
      exact (valueOf_alike order formula undrawn.1.2).bind fun _ _ head =>
        (valuesOf_alike order formulas undrawn.2).bind fun _ _ rest => .value (.cons head rest)

theorem keywordValuesOf_alike (order : RowOrder table positions)
    (keywords : List (String × Formula))
    (undrawn : ∀ node ∈ nodesOfKeywords keywords, node ≠ drawingCallee) :
    Drawing.Alike (ReorderedKeywords table.rows positions) (keywordValuesOf table keywords)
      (keywordValuesOf (table.takeRows positions) keywords) := by
  match keywords with
  | [] => exact .value .nil
  | (keyword, value) :: keywords =>
      rw [nodesOfKeywords, List.forall_mem_append, List.forall_mem_cons] at undrawn
      rw [keywordValuesOf, keywordValuesOf]
      exact (valueOf_alike order value undrawn.1.2).bind fun _ _ head =>
        (keywordValuesOf_alike order keywords undrawn.2).bind fun _ _ rest =>
          .value (.cons ⟨rfl, head⟩ rest)

end

end Evaluation

/-- The order of the rows is nothing that a formula without `randomize` can see.  Over a table
with its rows in another order it fails exactly when it fails over the table, and otherwise it
gives the same column, of the same kind and with its rows in that order. -/
theorem evaluate_takeRows (table : Table) (wellFormed : table.WellFormed) (positions : List Nat)
    (reordering : positions.Perm (List.range table.rows)) (formula : Formula)
    (undrawn : (.callee, .name Builtin.randomize.name) ∉ formula.nodes)
    (generator other : Generator) :
    ((∃ error, ((evaluate (table.takeRows positions) formula).run other).1 = .error error) ↔
        ∃ error, ((evaluate table formula).run generator).1 = .error error) ∧
      ∀ column, ((evaluate table formula).run generator).1 = .ok column →
        column.size = table.rows ∧
          ((evaluate (table.takeRows positions) formula).run other).1 =
            .ok (column.take positions) := by
  have order : RowOrder table positions := ⟨wellFormed, reordering⟩
  have alike : Drawing.Alike (Column.Reordered table.rows positions) (evaluate table formula)
      (evaluate (table.takeRows positions) formula) := by
    rw [evaluate, evaluate, order.rows_eq]
    apply (Drawing.Alike.fixed (permit_takeRows_alike table positions formula)).bind
    intro _ _ _
    exact (valueOf_alike order formula (ne_drawingCallee undrawn)).bind fun _ _ reordered =>
      .value (reordered.toColumn reordering)
  obtain ⟨left, right, isLeft, isRight, agreed⟩ := alike
  rw [isLeft, isRight, Drawing.run_fixed, Drawing.run_fixed]
  cases agreed with
  | error left right =>
      refine ⟨⟨fun _ => ⟨left, rfl⟩, fun _ => ⟨right, rfl⟩⟩, ?_⟩
      intro column isColumn
      cases isColumn
  | ok reordered =>
      refine ⟨⟨?_, ?_⟩, ?_⟩
      · rintro ⟨error, failed⟩
        cases failed
      · rintro ⟨error, failed⟩
        cases failed
      · rintro _ ⟨⟩
        exact ⟨reordered.size_eq, congrArg Except.ok reordered.taken⟩

/-- Two rows with a number. -/
def counts : Table :=
  ⟨2, [("n", ⟨.int, [.int 1, .int 3]⟩)]⟩

/-- The formula `n * 4611686018427387904`. -/
def scaledCount : Formula :=
  .arithmetic .mul (.name "n") (.literal (.int 4611686018427387904))

/-- The product of the second row is too large for an integer and makes a float of the first
one, also when the second row comes first. -/
theorem evaluate_takeRows_overflowing :
    ((evaluate (counts.takeRows [1, 0]) scaledCount).run (.ofSeed 0)).1 =
      .ok ⟨.float, [.float 13835058055282163712.0, .float 4611686018427387904.0]⟩ := by
  have inOrder : ((evaluate counts scaledCount).run (.ofSeed 0)).1 =
      .ok ⟨.float, [.float 4611686018427387904.0, .float 13835058055282163712.0]⟩ := by
    decide +kernel
  have undrawn : (.callee, .name Builtin.randomize.name) ∉ scaledCount.nodes := by
    simp [scaledCount, nodes, properNodes, Builtin.name]
  exact ((evaluate_takeRows counts (by decide) [1, 0] (by decide) scaledCount undrawn
    (.ofSeed 0) (.ofSeed 0)).2 _ inOrder).2

end Formula

end LogPipe
