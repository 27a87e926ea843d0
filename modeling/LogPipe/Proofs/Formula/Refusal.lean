import LogPipe.Formula.Evaluate
import LogPipe.Proofs.Formula.Drawing
import LogPipe.Proofs.Formula.Permission
import LogPipe.Proofs.Table.Columns

/-!
# Refused formulas

A formula is refused for what it is: for a name that is no column, or for a construct that
is not allowed.  The check before an evaluation fails in no other way, and what passes the
check is never refused later: an evaluation then fails only over the cells, the number and
the keywords of arguments, and the operands of operators.
-/

namespace LogPipe

/-- Whether an error refuses a formula for what it is. -/
def FormulaError.isRefusal : FormulaError → Bool
  | .unknownName _ => true
  | .disallowed _ => true
  | _ => false

/-- Whether an error is over the cells that a function is given. -/
def FormulaError.isOverCells : FormulaError → Bool
  | .invalidArgument _ _ => true
  | .cell _ => true
  | _ => false

namespace Formula

/-- An error that refuses a formula. -/
abbrev Refuses (error : FormulaError) : Prop :=
  error.isRefusal = true

/-- An error that is over something else. -/
abbrev Ordinary (error : FormulaError) : Prop :=
  error.isRefusal = false

/-- An error over the cells that a function is given. -/
abbrev OverCells (error : FormulaError) : Prop :=
  error.isOverCells = true

theorem OverCells.ordinary {error : FormulaError} (overCells : OverCells error) :
    Ordinary error := by
  cases error with
  | invalidArgument | cell => rfl
  | _ => cases overCells

section Check

variable (table : Table)

theorem calledFunction_refuses (callee : Formula) :
    FailsOnly Refuses (calledFunction callee) := by
  cases callee with
  | name id =>
      rw [calledFunction]
      split
      · exact .ok _
      · exact .error rfl
  | _ => exact .error rfl

theorem permitName_refuses (id : String) : FailsOnly Refuses (permitName table id) := by
  rw [permitName]
  split
  · exact .ok _
  · split
    · exact .error rfl
    · exact .error rfl

mutual

/-- The check of a formula fails only by refusing it. -/
theorem permit_refuses (formula : Formula) : FailsOnly Refuses (permit table formula) := by
  cases formula with
  | literal value => exact .ok _
  | name id => exact permitName_refuses table id
  | negate operand | invert operand => exact permit_refuses operand
  | arithmetic operator left right | compare operator left right
  | both left right | either left right =>
      exact (permit_refuses left).bind fun _ => permit_refuses right
  | call callee arguments keywords =>
      exact (calledFunction_refuses callee).bind fun _ =>
        (permitAll_refuses arguments).bind fun _ => permitKeywords_refuses keywords
  | member value id => exact .error rfl
  | subscript value index => exact .error rfl
  | list items => exact permitAll_refuses items

theorem permitAll_refuses (formulas : List Formula) :
    FailsOnly Refuses (permitAll table formulas) := by
  cases formulas with
  | nil => exact .ok _
  | cons formula formulas =>
      exact (permit_refuses formula).bind fun _ => permitAll_refuses formulas

theorem permitKeywords_refuses (keywords : List (String × Formula)) :
    FailsOnly Refuses (permitKeywords table keywords) := by
  match keywords with
  | [] => exact .ok _
  | (keyword, value) :: keywords =>
      exact (permit_refuses value).bind fun _ => permitKeywords_refuses keywords

end

end Check

section Functions

mutual

/-- What values and steps have in a monad, mapping a cell has. -/
theorem mapPresent_induction {m : Type → Type} [Monad m] {f : Cell → m Cell}
    (holds : {α : Type} → m α → Prop) (value : ∀ {α : Type} (a : α), holds (pure a))
    (step : ∀ {α β : Type} {first : m α} {later : α → m β}, holds first →
      (∀ a, holds (later a)) → holds (first >>= later))
    (each : ∀ cell, holds (f cell)) (cell : Cell) : holds (mapPresent f cell) := by
  cases cell with
  | list items =>
      rw [mapPresent]
      exact step (mapItems_induction holds value step each items) fun _ => value _
  | _ =>
      simp only [mapPresent]
      split
      · exact value _
      · exact each _

theorem mapItems_induction {m : Type → Type} [Monad m] {f : Cell → m Cell}
    (holds : {α : Type} → m α → Prop) (value : ∀ {α : Type} (a : α), holds (pure a))
    (step : ∀ {α β : Type} {first : m α} {later : α → m β}, holds first →
      (∀ a, holds (later a)) → holds (first >>= later))
    (each : ∀ cell, holds (f cell)) (items : List Cell) : holds (mapItems f items) := by
  cases items with
  | nil => exact value _
  | cons item items =>
      exact step (mapPresent_induction holds value step each item) fun _ =>
        step (mapItems_induction holds value step each items) fun _ => value _

end

theorem mapPresent_overCells {f : Cell → Except FormulaError Cell}
    (each : ∀ cell, FailsOnly OverCells (f cell)) (cell : Cell) :
    FailsOnly OverCells (mapPresent f cell) :=
  mapPresent_induction (FailsOnly OverCells) FailsOnly.ok FailsOnly.bind each cell

theorem integerArgument_overCells (function : Builtin) (cell : Cell) :
    FailsOnly OverCells (integerArgument function cell) := by
  unfold integerArgument
  split
  · exact .ok _
  · split
    · exact .ok _
    · exact .error rfl
  · exact .error rfl

theorem numericArgument_overCells (function : Builtin) (cell : Cell) :
    FailsOnly OverCells (numericArgument function cell) := by
  unfold numericArgument
  split
  · exact .ok _
  · exact .error rfl

theorem toNumber_overCells (base : Option Int64) (cell : Cell) :
    FailsOnly OverCells (toNumber base cell) := by
  unfold toNumber
  split
  · exact .ok _
  · exact .ok _
  · split
    · exact .ok _
    · exact .error rfl
  · exact .ok _

theorem placesArgument_overCells (cell : Cell) : FailsOnly OverCells (placesArgument cell) := by
  apply (integerArgument_overCells .round cell).bind
  intro places
  split
  · exact .ok _
  · exact .error rfl

theorem roundCell_overCells (places : Int) (cell : Cell) :
    FailsOnly OverCells (roundCell places cell) := by
  unfold roundCell
  split
  · split
    · exact .ok _
    · exact .ok _
  · exact .ok _
  · exact (numericArgument_overCells .round cell).map _

theorem absolute_overCells (cell : Cell) : FailsOnly OverCells (absolute cell) := by
  unfold absolute
  split
  · split
    · exact .ok _
    · exact .ok _
  · exact (numericArgument_overCells .absolute cell).map _

theorem decodeBase64_overCells (cell : Cell) : FailsOnly OverCells (decodeBase64 cell) := by
  unfold decodeBase64
  split
  · exact .ok _
  · split
    · exact .ok _
    · exact .error rfl

theorem optional_overCells {α : Type} {read : Cell → Except FormulaError α}
    (each : ∀ cell, FailsOnly OverCells (read cell)) (cell? : Option Cell) :
    FailsOnly OverCells (cell?.mapM read) := by
  cases cell? with
  | none => exact .ok _
  | some cell => exact (each cell).map some

theorem mapError_cell_overCells {α : Type} (result : Except CellError α) :
    FailsOnly OverCells (result.mapError .cell) := by
  cases result with
  | error error => exact .error rfl
  | ok value => exact .ok value

/-- A function fails only over the cells that it is given. -/
theorem resultOf_overCells (function : Builtin) (cells : List Cell) :
    FailsOnly OverCells (resultOf function cells) := by
  cases function with
  | toNumber =>
      exact (optional_overCells (integerArgument_overCells .toNumber) _).bind fun base =>
        mapPresent_overCells (toNumber_overCells base) _
  | round =>
      exact (optional_overCells placesArgument_overCells _).bind fun places =>
        mapPresent_overCells (roundCell_overCells _) _
  | toText | lower | upper | trim | trimLeft | trimRight =>
      exact mapPresent_overCells (fun cell => .ok _) _
  | squareRoot =>
      exact mapPresent_overCells (fun cell => (numericArgument_overCells .squareRoot cell).map _) _
  | absolute => exact mapPresent_overCells absolute_overCells _
  | decodeBase64 => exact decodeBase64_overCells _
  | average | sum | median | range =>
      exact mapError_cell_overCells _
  | _ => exact .ok _

theorem drawFloat_overCells (bound : Float) (places : Nat) :
    Drawing.FailsOnly OverCells (drawFloat bound places) := by
  unfold drawFloat
  split
  · exact (Drawing.FailsOnly.draw _).bind fun _ => .value _
  · exact .failure rfl

theorem drawNumber_overCells (cell : Cell) : Drawing.FailsOnly OverCells (drawNumber cell) := by
  unfold drawNumber
  split
  · split
    · exact (Drawing.FailsOnly.draw _).bind fun _ => .value _
    · exact .failure rfl
  · exact (drawFloat_overCells _ _).bind fun _ => .value _
  · split
    · exact (drawFloat_overCells _ _).bind fun _ => .value _
    · exact (drawFloat_overCells _ _).bind fun _ => .value _
    · exact .failure rfl
  · exact .failure rfl

theorem onCells_overCells (function : Builtin) (cells : List Cell) :
    Drawing.FailsOnly OverCells (function.onCells cells) := by
  unfold Builtin.onCells
  split
  · exact mapPresent_induction (Drawing.FailsOnly OverCells) Drawing.FailsOnly.value
      Drawing.FailsOnly.bind drawNumber_overCells _
  · exact .fixed (resultOf_overCells function cells)

theorem onCells_ordinary (function : Builtin) (cells : List Cell) :
    Drawing.FailsOnly Ordinary (function.onCells cells) :=
  (onCells_overCells function cells).imp fun _ => OverCells.ordinary

end Functions

section Evaluation

theorem combine_ordinary (rows : Nat) (operation : Column → Column → Except ColumnError Column)
    (left right : Value) : FailsOnly Ordinary (Value.combine rows operation left right) := by
  unfold Value.combine
  split
  · split
    · exact .ok _
    · exact .error rfl
  · split
    · exact .ok _
    · exact .error rfl

theorem resultsInRows_ordinary (function : Builtin) (arguments : List Value) (rows : List Nat) :
    Drawing.FailsOnly Ordinary (resultsInRows function arguments rows) := by
  induction rows with
  | nil => exact .value _
  | cons row rows induction =>
      exact (onCells_ordinary function _).bind fun _ => induction.bind fun _ => .value _

theorem inEveryRow_ordinary (rows : Nat) (function : Builtin) (arguments : List Value) :
    Drawing.FailsOnly Ordinary (inEveryRow rows function arguments) := by
  unfold inEveryRow
  split
  · exact (onCells_ordinary function _).bind fun _ => .value _
  · exact (resultsInRows_ordinary function arguments _).bind fun _ => .value _

theorem checkKeywords_ordinary (function : Builtin) (keywords : List (String × Value)) :
    FailsOnly Ordinary (checkKeywords function keywords) := by
  induction keywords with
  | nil => exact .ok _
  | cons keyword keywords induction =>
      rw [checkKeywords]
      split
      · exact induction
      · exact .error rfl

theorem callResult_ordinary (rows : Nat) (function : Builtin) (positional : List Value)
    (keywords : List (String × Value)) :
    Drawing.FailsOnly Ordinary (callResult rows function positional keywords) := by
  apply (Drawing.FailsOnly.fixed (checkKeywords_ordinary function keywords)).bind
  intro _
  simp only
  split
  · exact inEveryRow_ordinary rows function _
  · exact .failure rfl

variable {table : Table}

mutual

/-- A formula that has passed the check is not refused when it is evaluated. -/
theorem valueOf_ordinary (formula : Formula) (passed : permit table formula = .ok ()) :
    Drawing.FailsOnly Ordinary (valueOf table formula) := by
  cases formula with
  | literal value => exact .value _
  | name id =>
      obtain ⟨column, shown⟩ :=
        Table.exists_column_of_hasColumn (permitName_eq_ok_iff.mp passed)
      rw [valueOf, shown]
      exact .value _
  | negate operand =>
      exact (valueOf_ordinary operand passed).bind fun _ => .fixed (combine_ordinary _ _ _ _)
  | invert operand => exact (valueOf_ordinary operand passed).bind fun _ => .value _
  | arithmetic operator left right | compare operator left right
  | both left right | either left right =>
      obtain ⟨leftPassed, rightPassed⟩ := both_ok_iff.mp passed
      exact (valueOf_ordinary left leftPassed).bind fun _ =>
        (valueOf_ordinary right rightPassed).bind fun _ => .fixed (combine_ordinary _ _ _ _)
  | call callee arguments keywords =>
      obtain ⟨function, called, restPassed⟩ := Except.bind_eq_ok_iff.mp passed
      obtain ⟨positionalPassed, namedPassed⟩ := both_ok_iff.mp restPassed
      rw [valueOf, called]
      exact (valuesOf_ordinary arguments positionalPassed).bind fun _ =>
        (keywordValuesOf_ordinary keywords namedPassed).bind fun _ =>
          callResult_ordinary _ _ _ _
  | member value id => cases passed
  | subscript value index => cases passed
  | list items => exact (valuesOf_ordinary items passed).bind fun _ => .value _

theorem valuesOf_ordinary (formulas : List Formula) (passed : permitAll table formulas = .ok ()) :
    Drawing.FailsOnly Ordinary (valuesOf table formulas) := by
  cases formulas with
  | nil => exact .value _
  | cons formula formulas =>
      obtain ⟨headPassed, restPassed⟩ := both_ok_iff.mp passed
      exact (valueOf_ordinary formula headPassed).bind fun _ =>
        (valuesOf_ordinary formulas restPassed).bind fun _ => .value _

theorem keywordValuesOf_ordinary (keywords : List (String × Formula))
    (passed : permitKeywords table keywords = .ok ()) :
    Drawing.FailsOnly Ordinary (keywordValuesOf table keywords) := by
  match keywords with
  | [] => exact .value _
  | (keyword, value) :: keywords =>
      obtain ⟨headPassed, restPassed⟩ := both_ok_iff.mp passed
      exact (valueOf_ordinary value headPassed).bind fun _ =>
        (keywordValuesOf_ordinary keywords restPassed).bind fun _ => .value _

end

end Evaluation

/-- The check before an evaluation is what keeps formulas in bounds.  It passes exactly the
formulas whose nodes are all in bounds; when it refuses one, the evaluation ends with the
same refusal and draws nothing; and what it passes is never refused afterwards. -/
theorem permit_guards_evaluate (table : Table) (formula : Formula) :
    (permit table formula = .ok () ↔ formula.Admitted table) ∧
      ∀ generator,
        match permit table formula with
        | .error error =>
            Refuses error ∧ (evaluate table formula).run generator = (.error error, generator)
        | .ok () =>
            ∀ error, ((evaluate table formula).run generator).1 = .error error →
              ¬Refuses error := by
  refine ⟨(permit_eq_ok_iff table formula).trans admitted_iff.symm, fun generator => ?_⟩
  cases checked : permit table formula with
  | error error =>
      refine ⟨permit_refuses table formula error checked, ?_⟩
      rw [evaluate, checked]
      rfl
  | ok passed =>
      intro error failed
      have fails : Drawing.FailsOnly Ordinary (evaluate table formula) := by
        rw [evaluate, checked]
        exact (valueOf_ordinary formula checked).bind fun _ => .value _
      have ordinary : error.isRefusal = false := fails generator error failed
      simp [Refuses, ordinary]

end Formula

end LogPipe
