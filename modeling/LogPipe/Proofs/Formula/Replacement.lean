import LogPipe.Proofs.Formula.Agreement
import LogPipe.Proofs.Formula.Permission
import LogPipe.Proofs.Table.Columns

/-!
# Constant columns and literals

A literal stays a single cell until it meets a column, and a column that repeats one cell
is computed row by row.  A formula gives the same either way: when the name of a constant
column is replaced by the literal of its cell, every part of the formula has the same
cells or fails with the same error, as long as nothing is drawn.
-/

namespace LogPipe

namespace Formula

section Replacement

variable (name : String) (cell : Cell)

mutual

/-- Replaces the references to a column by a literal.  A bare name that is called is no
reference. -/
def replaceName : Formula → Formula
  | .literal value => .literal value
  | .name id => if id = name then .literal cell else .name id
  | .negate operand => .negate (replaceName operand)
  | .invert operand => .invert (replaceName operand)
  | .arithmetic operator left right =>
      .arithmetic operator (replaceName left) (replaceName right)
  | .compare operator left right => .compare operator (replaceName left) (replaceName right)
  | .both left right => .both (replaceName left) (replaceName right)
  | .either left right => .either (replaceName left) (replaceName right)
  | .call (.name id) arguments keywords =>
      .call (.name id) (replaceNames arguments) (replaceInKeywords keywords)
  | .call callee arguments keywords =>
      .call (replaceName callee) (replaceNames arguments) (replaceInKeywords keywords)
  | .member value id => .member (replaceName value) id
  | .subscript value index => .subscript (replaceName value) (replaceName index)
  | .list items => .list (replaceNames items)

/-- Replaces the references in formulas. -/
def replaceNames : List Formula → List Formula
  | [] => []
  | formula :: formulas => replaceName formula :: replaceNames formulas

/-- Replaces the references in the values of keyword arguments. -/
def replaceInKeywords : List (String × Formula) → List (String × Formula)
  | [] => []
  | (keyword, value) :: keywords =>
      (keyword, replaceName value) :: replaceInKeywords keywords

end

variable {name cell}

theorem replaceName_call (callee : Formula) (arguments : List Formula)
    (keywords : List (String × Formula)) :
    ∃ other, replaceName name cell (.call callee arguments keywords) =
        .call other (replaceNames name cell arguments) (replaceInKeywords name cell keywords) ∧
      calledFunction other = calledFunction callee := by
  cases callee with
  | name id => exact ⟨.name id, rfl, rfl⟩
  | call callee =>
      refine ⟨replaceName name cell (.call callee _ _), rfl, ?_⟩
      cases callee <;> rfl
  | _ => exact ⟨_, rfl, rfl⟩

section

variable {table : Table}

mutual

/-- The check of a formula does not tell a column from a literal. -/
theorem permit_replaceName (has : table.hasColumn name = true) (formula : Formula) :
    permit table (replaceName name cell formula) = permit table formula := by
  cases formula with
  | literal value => rfl
  | name id =>
      rw [replaceName]
      split
      · next isName =>
          subst isName
          exact (permitName_eq_ok_iff.mpr has).symm
      · rfl
  | negate operand | invert operand =>
      rw [replaceName, permit, permit]
      exact permit_replaceName has operand
  | arithmetic operator left right | compare operator left right
  | both left right | either left right =>
      have leftSame := permit_replaceName has left
      have rightSame := permit_replaceName has right
      rw [replaceName, permit, permit, leftSame, rightSame]
  | call callee arguments keywords =>
      obtain ⟨other, replaced, called⟩ := replaceName_call callee arguments keywords
      rw [replaced, permit, permit, called, permitAll_replaceNames has arguments,
        permitKeywords_replaceInKeywords has keywords]
  | member value id => rfl
  | subscript value index => rfl
  | list items =>
      rw [replaceName, permit, permit]
      exact permitAll_replaceNames has items

theorem permitAll_replaceNames (has : table.hasColumn name = true) (formulas : List Formula) :
    permitAll table (replaceNames name cell formulas) = permitAll table formulas := by
  cases formulas with
  | nil => rfl
  | cons formula formulas =>
      rw [replaceNames, permitAll, permitAll, permit_replaceName has formula,
        permitAll_replaceNames has formulas]

theorem permitKeywords_replaceInKeywords (has : table.hasColumn name = true)
    (keywords : List (String × Formula)) :
    permitKeywords table (replaceInKeywords name cell keywords) =
      permitKeywords table keywords := by
  match keywords with
  | [] => rfl
  | (keyword, value) :: keywords =>
      rw [replaceInKeywords, permitKeywords, permitKeywords, permit_replaceName has value,
        permitKeywords_replaceInKeywords has keywords]

end

end

/-- A call of `randomize`. -/
def drawingCallee : Role × Formula :=
  (.callee, .name Builtin.randomize.name)

/-- A formula that does not call `randomize` has no part that does. -/
theorem ne_drawingCallee {formula : Formula} (undrawn : drawingCallee ∉ formula.nodes) :
    ∀ node ∈ formula.properNodes, node ≠ drawingCallee := by
  rintro node member rfl
  exact undrawn (List.mem_cons_of_mem _ member)

/-- A table with a row and a column that repeats one cell in every row. -/
structure Repeats (table : Table) (name : String) (column : Column) (cell : Cell) : Prop where
  shown : table.column? name = some column
  cells : column.cells = List.replicate table.rows cell
  someRow : 0 < table.rows

section

variable {table : Table} {column : Column}

theorem callee_undrawn {callee : Formula} {function : Builtin}
    (called : calledFunction callee = .ok function)
    (undrawn : (Role.callee, callee) ≠ drawingCallee) : function ≠ .randomize := by
  rintro rfl
  rw [calledFunction_eq_ok_iff.mp called] at undrawn
  exact undrawn rfl

theorem combined_agree {rows : Nat} (someRow : 0 < rows)
    {left otherLeft right otherRight : Drawing Value}
    (leftAgree : Drawing.Agree (Value.Same rows) left otherLeft)
    (rightAgree : Drawing.Agree (Value.Same rows) right otherRight)
    {operation : Column → Column → Except ColumnError Column}
    (rowByRow : Column.RowByRow operation) :
    Drawing.Agree (Value.Same rows)
      (do
        let left ← left
        let right ← right
        Drawing.fixed (Value.combine rows operation left right))
      (do
        let left ← otherLeft
        let right ← otherRight
        Drawing.fixed (Value.combine rows operation left right)) :=
  leftAgree.bind fun _ _ leftSame =>
    rightAgree.bind fun _ _ rightSame =>
      .fixed (Value.combine_agree rowByRow someRow leftSame rightSame)

mutual

/-- A part of a formula does not tell a constant column from a literal. -/
theorem valueOf_agree (repeats : Repeats table name column cell) (formula : Formula)
    (undrawn : ∀ node ∈ formula.properNodes, node ≠ drawingCallee) :
    Drawing.Agree (Value.Same table.rows) (valueOf table formula)
      (valueOf table (replaceName name cell formula)) := by
  cases formula with
  | literal value => exact .value (.cell value)
  | name id =>
      rw [replaceName]
      split
      · next isName =>
          subst isName
          simp only [valueOf, repeats.shown]
          exact .value (.constant repeats.cells)
      · rw [valueOf]
        split
        · exact .value (.refl _)
        · exact .fixed (.error _)
  | negate operand =>
      rw [properNodes, List.forall_mem_cons] at undrawn
      rw [replaceName, valueOf, valueOf]
      exact (valueOf_agree repeats operand undrawn.2).bind fun _ _ same =>
        .fixed (Value.combine_agree (Column.arithmetic_rowByRow .sub) repeats.someRow
          (.cell _) same)
  | invert operand =>
      rw [properNodes, List.forall_mem_cons] at undrawn
      rw [replaceName, valueOf, valueOf]
      exact (valueOf_agree repeats operand undrawn.2).bind fun _ _ same => .value same.invert
  | arithmetic operator left right | compare operator left right
  | both left right | either left right =>
      rw [properNodes, List.forall_mem_append, List.forall_mem_cons,
        List.forall_mem_cons] at undrawn
      have leftAgree := valueOf_agree repeats left undrawn.1.2
      have rightAgree := valueOf_agree repeats right undrawn.2.2
      rw [replaceName, valueOf, valueOf]
      apply combined_agree repeats.someRow leftAgree rightAgree
      first
        | exact Column.arithmetic_rowByRow _
        | exact Column.compare_rowByRow _
        | exact Column.and_rowByRow
        | exact Column.or_rowByRow
  | call callee arguments keywords =>
      rw [properNodes, List.forall_mem_append, List.forall_mem_cons,
        List.forall_mem_append] at undrawn
      obtain ⟨⟨calleeUndrawn, -⟩, positionalUndrawn, namedUndrawn⟩ := undrawn
      obtain ⟨other, replaced, called⟩ := replaceName_call callee arguments keywords
      rw [replaced, valueOf, valueOf, called]
      cases isCalled : calledFunction callee with
      | error error => exact .fixed (.error error)
      | ok function =>
          have functionUndrawn := callee_undrawn isCalled calleeUndrawn
          exact (valuesOf_agree repeats arguments positionalUndrawn).bind fun _ _ same =>
            (keywordValuesOf_agree repeats keywords namedUndrawn).bind fun _ _ sameNamed =>
              callResult_agree repeats.someRow functionUndrawn same sameNamed
  | member value id => exact .fixed (.error _)
  | subscript value index => exact .fixed (.error _)
  | list items =>
      rw [replaceName, valueOf, valueOf]
      refine (valuesOf_agree repeats items undrawn).bind fun _ _ same => ?_
      have agree := Value.inRows_agree repeats.someRow (fun cells => .ok (.list cells)) same
      rw [← Value.list_eq_inRows, ← Value.list_eq_inRows] at agree
      exact .fixed agree

theorem valuesOf_agree (repeats : Repeats table name column cell) (formulas : List Formula)
    (undrawn : ∀ node ∈ nodesOfAll formulas, node ≠ drawingCallee) :
    Drawing.Agree (List.Forall₂ (Value.Same table.rows)) (valuesOf table formulas)
      (valuesOf table (replaceNames name cell formulas)) := by
  cases formulas with
  | nil => exact .value .nil
  | cons formula formulas =>
      rw [nodesOfAll, List.forall_mem_append, List.forall_mem_cons] at undrawn
      rw [replaceNames, valuesOf, valuesOf]
      exact (valueOf_agree repeats formula undrawn.1.2).bind fun _ _ head =>
        (valuesOf_agree repeats formulas undrawn.2).bind fun _ _ rest =>
          .value (.cons head rest)

theorem keywordValuesOf_agree (repeats : Repeats table name column cell)
    (keywords : List (String × Formula))
    (undrawn : ∀ node ∈ nodesOfKeywords keywords, node ≠ drawingCallee) :
    Drawing.Agree (SameKeywords table.rows) (keywordValuesOf table keywords)
      (keywordValuesOf table (replaceInKeywords name cell keywords)) := by
  match keywords with
  | [] => exact .value .nil
  | (keyword, value) :: keywords =>
      rw [nodesOfKeywords, List.forall_mem_append, List.forall_mem_cons] at undrawn
      rw [replaceInKeywords, keywordValuesOf, keywordValuesOf]
      exact (valueOf_agree repeats value undrawn.1.2).bind fun _ _ head =>
        (keywordValuesOf_agree repeats keywords undrawn.2).bind fun _ _ rest =>
          .value (.cons ⟨rfl, head⟩ rest)

end

end

/-- What a formula without `randomize` gives, its cells or its error, does not change when
the name of a column that repeats one cell is replaced by the literal of the cell. -/
theorem evaluate_replaceName (table : Table) (name : String) (column : Column) (cell : Cell)
    (formula : Formula) (someRow : 0 < table.rows) (shown : table.column? name = some column)
    (sized : column.size = table.rows) (constant : ∀ other ∈ column.cells, other = cell)
    (undrawn : (.callee, .name Builtin.randomize.name) ∉ formula.nodes) (generator : Generator) :
    ((evaluate table formula).run generator).1.map Column.cells =
      ((evaluate table (replaceName name cell formula)).run generator).1.map Column.cells := by
  have repeats : Repeats table name column cell :=
    ⟨shown, List.eq_replicate_iff.mpr ⟨sized, constant⟩, someRow⟩
  have has : table.hasColumn name = true := by
    rw [Table.hasColumn, shown]
    rfl
  have agree : Drawing.Agree (fun left right => left.cells = right.cells)
      (evaluate table formula) (evaluate table (replaceName name cell formula)) := by
    rw [evaluate, evaluate, permit_replaceName has]
    apply (Drawing.Agree.fixed (.refl (fun _ => rfl) _)).bind
    intro _ _ _
    exact (valueOf_agree repeats formula (ne_drawingCallee undrawn)).bind fun _ _ same =>
      .value same.toColumn_cells
  obtain ⟨left, right, isLeft, isRight, agreed⟩ := agree
  rw [isLeft, isRight, Drawing.run_fixed, Drawing.run_fixed]
  cases agreed with
  | error error => rfl
  | ok same => exact congrArg Except.ok same

/-- Readings of a sensor whose offset is the same in every row. -/
def readings : Table :=
  ⟨2, [("n", ⟨.int, [.int 1, .null]⟩), ("offset", ⟨.int, [.int 10, .int 10]⟩)]⟩

/-- The formula `if_(offset > 3, [offset], n + offset)`. -/
def shifted : Formula :=
  .call (.name "if_")
    [.compare .gt (.name "offset") (.literal (.int 3)), .list [.name "offset"],
      .arithmetic .add (.name "n") (.name "offset")] []

/-- The offset may be written as the literal `10`, and each row gives the list of it. -/
theorem evaluate_replaceName_sample :
    ((evaluate readings (replaceName "offset" (.int 10) shifted)).run (.ofSeed 0)).1.map
        Column.cells = .ok [.list [.int 10], .list [.int 10]] := by
  have columns : ((evaluate readings shifted).run (.ofSeed 0)).1.map Column.cells =
      .ok [.list [.int 10], .list [.int 10]] := by
    decide +kernel
  have undrawn : (.callee, .name Builtin.randomize.name) ∉ shifted.nodes := by
    simp [shifted, nodes, properNodes, nodesOfAll, nodesOfKeywords, Builtin.name]
  rw [← columns]
  exact (evaluate_replaceName readings "offset" ⟨.int, [.int 10, .int 10]⟩ (.int 10) shifted
    (by decide) rfl rfl (by decide) undrawn (.ofSeed 0)).symm

end Replacement

end Formula

end LogPipe
