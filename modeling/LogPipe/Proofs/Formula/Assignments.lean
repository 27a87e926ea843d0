import LogPipe.Proofs.Formula.Preservation
import LogPipe.Proofs.Formula.Replacement
import LogPipe.Proofs.Query.Pieces
import LogPipe.Proofs.Table.Writing

/-!
# Assignments one after the other

A clause is cut at its top-level commas, so two clauses that are joined by a comma are the
assignments of the first followed by those of the second.  The assignments of the second see
the table that the first ones have written, as they do when that table is handed on.  Only
`randomize` tells the two apart, because it goes on drawing from one generator.  All that a
clause does to a table is that its fields are written: in place where the table has them, and
behind the other columns where it does not.
-/

namespace LogPipe

open LogPipe.Query LogPipe.Text

namespace Formula

/-- A computation that leaves every generator as it is and gives the same for all. -/
def Drawing.Settled {α : Type} (computation : Drawing α) : Prop :=
  ∃ result, computation = Drawing.fixed result

namespace Drawing.Settled

variable {α β : Type}

theorem fixed (result : Except FormulaError α) : Settled (Drawing.fixed result) :=
  ⟨result, rfl⟩

theorem bind {first : Drawing α} {later : α → Drawing β} (settled : Settled first)
    (laterSettled : ∀ value, Settled (later value)) : Settled (first >>= later) := by
  obtain ⟨result, rfl⟩ := settled
  cases result with
  | error error => exact fixed (.error error)
  | ok value => exact laterSettled value

theorem run_eq {computation : Drawing α} (settled : Settled computation)
    (generator other : Generator) :
    (computation.run generator).1 = (computation.run other).1 := by
  obtain ⟨result, rfl⟩ := settled
  rfl

end Drawing.Settled

section Settled

open Drawing (Settled)

theorem callResult_settled {function : Builtin} (undrawn : function ≠ .randomize) (rows : Nat)
    (positional : List Value) (keywords : List (String × Value)) :
    Settled (callResult rows function positional keywords) := by
  refine (Settled.fixed (checkKeywords function keywords)).bind fun _ => ?_
  simp only
  split
  · rw [inEveryRow_eq_fixed undrawn]
    exact .fixed _
  · exact .fixed (.error _)

variable (table : Table)

mutual

/-- A part of a formula in which `randomize` is not called draws nothing. -/
theorem valueOf_settled (formula : Formula)
    (undrawn : ∀ node ∈ formula.properNodes, node ≠ drawingCallee) :
    Settled (valueOf table formula) := by
  cases formula with
  | literal value => exact .fixed (.ok _)
  | name id =>
      rw [valueOf]
      split
      · exact .fixed (.ok _)
      · exact .fixed (.error _)
  | negate operand =>
      rw [properNodes, List.forall_mem_cons] at undrawn
      exact (valueOf_settled operand undrawn.2).bind fun _ => .fixed _
  | invert operand =>
      rw [properNodes, List.forall_mem_cons] at undrawn
      exact (valueOf_settled operand undrawn.2).bind fun _ => .fixed (.ok _)
  | arithmetic operator left right | compare operator left right
  | both left right | either left right =>
      rw [properNodes, List.forall_mem_append, List.forall_mem_cons,
        List.forall_mem_cons] at undrawn
      exact (valueOf_settled left undrawn.1.2).bind fun _ =>
        (valueOf_settled right undrawn.2.2).bind fun _ => .fixed _
  | call callee arguments keywords =>
      rw [properNodes, List.forall_mem_append, List.forall_mem_cons,
        List.forall_mem_append] at undrawn
      obtain ⟨⟨calleeUndrawn, -⟩, positionalUndrawn, namedUndrawn⟩ := undrawn
      rw [valueOf]
      cases called : calledFunction callee with
      | error error => exact .fixed (.error error)
      | ok function =>
          exact (valuesOf_settled arguments positionalUndrawn).bind fun _ =>
            (keywordValuesOf_settled keywords namedUndrawn).bind fun _ =>
              callResult_settled (callee_undrawn called calleeUndrawn) _ _ _
  | member value id => exact .fixed (.error _)
  | subscript value index => exact .fixed (.error _)
  | list items =>
      exact (valuesOf_settled items undrawn).bind fun _ => .fixed (.ok _)

theorem valuesOf_settled (formulas : List Formula)
    (undrawn : ∀ node ∈ nodesOfAll formulas, node ≠ drawingCallee) :
    Settled (valuesOf table formulas) := by
  cases formulas with
  | nil => exact .fixed (.ok [])
  | cons formula formulas =>
      rw [nodesOfAll, List.forall_mem_append, List.forall_mem_cons] at undrawn
      exact (valueOf_settled formula undrawn.1.2).bind fun _ =>
        (valuesOf_settled formulas undrawn.2).bind fun _ => .fixed (.ok _)

theorem keywordValuesOf_settled (keywords : List (String × Formula))
    (undrawn : ∀ node ∈ nodesOfKeywords keywords, node ≠ drawingCallee) :
    Settled (keywordValuesOf table keywords) := by
  match keywords with
  | [] => exact .fixed (.ok [])
  | (keyword, value) :: keywords =>
      rw [nodesOfKeywords, List.forall_mem_append, List.forall_mem_cons] at undrawn
      exact (valueOf_settled value undrawn.1.2).bind fun _ =>
        (keywordValuesOf_settled keywords undrawn.2).bind fun _ => .fixed (.ok _)

end

theorem evaluate_settled (formula : Formula) (undrawn : drawingCallee ∉ formula.nodes) :
    Settled (evaluate table formula) :=
  (Settled.fixed (permit table formula)).bind fun _ =>
    (valueOf_settled table formula (ne_drawingCallee undrawn)).bind fun _ => .fixed (.ok _)

end Settled

end Formula

namespace Query

/-- The arguments of a list are its trimmed pieces that are not blank. -/
theorem toOption_splitArguments (text : String) :
    (splitArguments text).toOption = (trimmedPieces ',' text.toList).map fun found =>
      (found.filter fun piece => !piece.isEmpty).map String.ofList := by
  rw [splitArguments, splitTrimmed, trimmedPieces, ← splitTopLevel_eq_pieces]
  cases splitTopLevel text ',' with
  | error error => rfl
  | ok found =>
      simp [Except.toOption, bind, Except.bind, pure, Except.pure, Function.comp_def]

/-- Lists that are joined by a comma put their arguments one after the other. -/
theorem splitArguments_join {first second : String} {firsts seconds : List String}
    (firstSplit : splitArguments first = .ok firsts)
    (secondSplit : splitArguments second = .ok seconds) :
    splitArguments (first ++ ", " ++ second) = .ok (firsts ++ seconds) := by
  have firstCut := toOption_splitArguments first
  have secondCut := toOption_splitArguments second
  rw [firstSplit] at firstCut
  rw [secondSplit] at secondCut
  obtain ⟨before, beforeCut, rfl⟩ := Option.map_eq_some_iff.mp firstCut.symm
  obtain ⟨after, afterCut, rfl⟩ := Option.map_eq_some_iff.mp secondCut.symm
  have text : (first ++ ", " ++ second).toList =
      first.toList ++ ',' :: ([' '] ++ second.toList) := by simp
  rw [← Except.toOption_eq_some_iff, toOption_splitArguments, text,
    trimmedPieces_append_separator (by decide) beforeCut,
    trimmedPieces_blank_append (by decide) blankRun_space, afterCut, Option.map_some,
    Option.map_some, List.filter_append, List.map_append]

end Query

namespace Assignment

open LogPipe.Formula

section Reading

theorem ofTexts_append {texts others : List String} {firsts seconds : List Assignment}
    (firstRead : ofTexts texts = .ok firsts) (secondRead : ofTexts others = .ok seconds) :
    ofTexts (texts ++ others) = .ok (firsts ++ seconds) := by
  induction texts generalizing firsts with
  | nil =>
      cases firstRead
      exact secondRead
  | cons text texts induction =>
      rw [ofTexts] at firstRead
      rw [List.cons_append, ofTexts]
      cases headRead : ofText text with
      | error error =>
          rw [headRead] at firstRead
          cases firstRead
      | ok assignment =>
          rw [headRead] at firstRead
          cases restRead : ofTexts texts with
          | error error =>
              rw [restRead] at firstRead
              cases firstRead
          | ok assignments =>
              rw [restRead] at firstRead
              cases firstRead
              rw [induction restRead]
              rfl

theorem ofClause_eq_ok_iff {text : String} {assignments : List Assignment} :
    ofClause text = .ok assignments ↔
      ∃ pieces, splitArguments text = .ok pieces ∧ pieces ≠ [] ∧
        ofTexts pieces = .ok assignments := by
  rw [ofClause]
  cases splitArguments text with
  | error error =>
      constructor
      · intro read
        cases read
      · rintro ⟨pieces, split, -⟩
        cases split
  | ok pieces =>
      cases pieces with
      | nil =>
          constructor
          · intro read
            cases read
          · rintro ⟨pieces, split, some, -⟩
            cases split
            exact absurd rfl some
      | cons piece pieces =>
          constructor
          · intro read
            exact ⟨_, rfl, List.cons_ne_nil piece pieces, read⟩
          · rintro ⟨pieces, split, -, read⟩
            cases split
            exact read

/-- The assignments of two clauses that are joined by a comma. -/
theorem ofClause_join {first second : String} {firsts seconds : List Assignment}
    (firstRead : ofClause first = .ok firsts) (secondRead : ofClause second = .ok seconds) :
    ofClause (first ++ ", " ++ second) = .ok (firsts ++ seconds) := by
  obtain ⟨texts, firstSplit, some, firstTexts⟩ := ofClause_eq_ok_iff.mp firstRead
  obtain ⟨others, secondSplit, -, secondTexts⟩ := ofClause_eq_ok_iff.mp secondRead
  exact ofClause_eq_ok_iff.mpr ⟨texts ++ others, splitArguments_join firstSplit secondSplit,
    by simp [some], ofTexts_append firstTexts secondTexts⟩

/-- A clause of one assignment is read part by part. -/
theorem ofClause_single {text name field formula : String} {tokens : List Formula.Token}
    {tree : Formula} (alone : splitArguments text = .ok [text])
    (split : splitAssignment text = some (field, formula)) (named : fieldName field = name)
    (fits : (formula.isEmpty || !isSingleWord name) = false)
    (tokenized : tokenize formula = .ok tokens) (read : ofTokens tokens = .ok tree) :
    ofClause text = .ok [⟨name, tree, text⟩] := by
  have textRead : ofText text = .ok ⟨name, tree, text⟩ := by
    simp [ofText, split, named, fits, Formula.ofText, tokenized, read]
  refine ofClause_eq_ok_iff.mpr ⟨[text], alone, List.cons_ne_nil text [], ?_⟩
  rw [ofTexts, textRead]
  rfl

end Reading

section Applying

/-- The assignments that come later are applied to what the earlier ones have written. -/
theorem applyAll_append (table : Table) (firsts seconds : List Assignment) :
    applyAll table (firsts ++ seconds) =
      applyAll table firsts >>= fun middle => applyAll middle seconds := by
  induction firsts generalizing table with
  | nil => rfl
  | cons assignment firsts induction =>
      simp only [List.cons_append, applyAll, induction, bind_assoc]

theorem applyAll_settled (table : Table) {assignments : List Assignment}
    (undrawn : ∀ assignment ∈ assignments, drawingCallee ∉ assignment.formula.nodes) :
    Drawing.Settled (applyAll table assignments) := by
  induction assignments generalizing table with
  | nil => exact .fixed (.ok table)
  | cons assignment assignments induction =>
      rw [List.forall_mem_cons] at undrawn
      exact (evaluate_settled table assignment.formula undrawn.1).bind fun _ =>
        (Drawing.Settled.fixed _).bind fun next => induction next undrawn.2

theorem applyClause_eq_ok_iff {table result : Table} {text : String} {seed : Nat} :
    applyClause table text seed = .ok result ↔
      ∃ assignments, ofClause text = .ok assignments ∧
        ((applyAll table assignments).run (Generator.ofSeed seed)).1 = .ok result := by
  rw [applyClause]
  cases ofClause text with
  | error error =>
      constructor
      · intro applied
        cases applied
      · rintro ⟨assignments, read, -⟩
        cases read
  | ok assignments =>
      constructor
      · intro applied
        exact ⟨assignments, rfl, applied⟩
      · rintro ⟨_, ⟨⟩, applied⟩
        exact applied

end Applying

end Assignment

namespace Assignment

open LogPipe.Formula

section Frame

variable {table result : Table}

/-- A column that has been worked out in a table is written next to the others. -/
theorem assigned_of_evaluate {assignment : Assignment} {column : Column}
    {generator left : Generator}
    (worked : (evaluate table assignment.formula).run generator = (.ok column, left))
    (written : table.withColumn assignment.field column = .ok result) :
    Table.Assigned [assignment.field] table result := by
  have sized : column.size = table.rows := by
    by_cases sameSize : column.size = table.rows
    · exact sameSize
    · -- only the table without rows and columns takes the length of another column
      have isEmpty : table = Table.empty := by
        obtain ⟨rows, columns⟩ := table
        rw [Table.withColumn] at written
        split at written
        · cases written
        · next fits =>
            simp only [bne_iff_ne, ne_eq, Bool.and_eq_true, sameSize, not_false_eq_true, true_and,
              Bool.not_eq_true', Bool.not_eq_false, List.isEmpty_iff, beq_iff_eq] at fits
            rw [fits.1, fits.2]
            rfl
      subst isEmpty
      have emptyFormed : Table.empty.WellFormed := by decide
      have kept := evaluate_keeps emptyFormed assignment.formula generator
      rw [worked] at kept
      cases kept with
      | ok suits => exact suits.size_eq
  rw [Table.withColumn_of_size sized] at written
  cases written
  exact .insert table assignment.field column

theorem applyAll_assigned {assignments : List Assignment} {generator : Generator}
    (applied : ((applyAll table assignments).run generator).1 = .ok result) :
    Table.Assigned (assignments.map field) table result := by
  induction assignments generalizing table generator with
  | nil =>
      cases applied
      exact .refl _
  | cons assignment assignments induction =>
      obtain ⟨column, left, worked, continued⟩ := Drawing.run_bind_eq_ok_iff.mp applied
      obtain ⟨next, later, fitted, finished⟩ := Drawing.run_bind_eq_ok_iff.mp continued
      rw [Drawing.run_fixed, Prod.mk.injEq, Except.mapError_eq_ok_iff] at fitted
      exact (assigned_of_evaluate worked fitted.1).trans (induction finished)

end Frame

/-- Clauses that are joined by a comma do what they do one after the other. -/
theorem applyClause_join_iff {first second : String} {firsts seconds : List Assignment}
    (firstRead : ofClause first = .ok firsts) (secondRead : ofClause second = .ok seconds)
    (undrawn : ∀ assignment ∈ firsts ++ seconds, drawingCallee ∉ assignment.formula.nodes)
    (table result : Table) (seed firstSeed secondSeed : Nat) :
    applyClause table (first ++ ", " ++ second) seed = .ok result ↔
      ∃ middle, applyClause table first firstSeed = .ok middle ∧
        applyClause middle second secondSeed = .ok result := by
  rw [List.forall_mem_append] at undrawn
  have firstSettled := applyAll_settled table undrawn.1
  have applied : applyClause table (first ++ ", " ++ second) seed = .ok result ↔
      ∃ middle left, (applyAll table firsts).run (.ofSeed seed) = (.ok middle, left) ∧
        ((applyAll middle seconds).run left).1 = .ok result := by
    rw [applyClause, ofClause_join firstRead secondRead]
    simp only
    rw [applyAll_append, Drawing.run_bind_eq_ok_iff]
  rw [applied]
  simp only [applyClause, firstRead, secondRead]
  constructor
  · rintro ⟨middle, left, reached, finished⟩
    refine ⟨middle, ?_, ?_⟩
    · rw [firstSettled.run_eq _ (.ofSeed seed), reached]
    · rw [(applyAll_settled middle undrawn.2).run_eq _ left, finished]
  · rintro ⟨middle, reached, finished⟩
    rw [firstSettled.run_eq _ (.ofSeed seed)] at reached
    refine ⟨middle, ((applyAll table firsts).run (.ofSeed seed)).2, Prod.ext reached rfl, ?_⟩
    rw [(applyAll_settled middle undrawn.2).run_eq _ (.ofSeed secondSeed), finished]

/-- Clauses without `randomize` that are joined by a comma have a result exactly if the second
has that result on what the first one makes of the table.  Whatever a clause is applied to, its
fields are written and nothing else is changed. -/
theorem applyClause_join (table result : Table) :
    (∀ (first second : String) (firsts seconds : List Assignment)
        (seed firstSeed secondSeed : Nat),
      ofClause first = .ok firsts → ofClause second = .ok seconds →
      (∀ assignment ∈ firsts ++ seconds,
        (.callee, .name Builtin.randomize.name) ∉ assignment.formula.nodes) →
      (applyClause table (first ++ ", " ++ second) seed = .ok result ↔
        ∃ middle, applyClause table first firstSeed = .ok middle ∧
          applyClause middle second secondSeed = .ok result)) ∧
    ∀ (text : String) (seed : Nat), applyClause table text seed = .ok result →
      ∃ assignments, ofClause text = .ok assignments ∧
        Table.Assigned (assignments.map field) table result := by
  constructor
  · intro first second firsts seconds seed firstSeed secondSeed firstRead secondRead undrawn
    exact applyClause_join_iff firstRead secondRead undrawn table result _ _ _
  · intro text seed applied
    obtain ⟨assignments, read, finished⟩ := applyClause_eq_ok_iff.mp applied
    exact ⟨assignments, read, applyAll_assigned finished⟩

/-- Two rows with an odd number. -/
def odds : Table :=
  ⟨2, [("n", ⟨.int, [.int 1, .int 3]⟩)]⟩

/-- The odd numbers with one added, in a column of their own, and doubled then in place. -/
def doubled : Table :=
  ⟨2, [("n", ⟨.int, [.int 4, .int 8]⟩), ("m", ⟨.int, [.int 2, .int 4]⟩)]⟩

/-- The second assignment sees the column of the first one, and replaces the one it came from. -/
theorem applyClause_join_odds :
    (∃ middle, applyClause odds "m = n + 1" 0 = .ok middle ∧
        applyClause middle "n = m * 2" 0 = .ok doubled) ∧
      Table.Assigned ["m", "n"] odds doubled := by
  have firstSplit : splitAssignment "m = n + 1" = some ("m", "n + 1") := by decide +kernel
  have secondSplit : splitAssignment "n = m * 2" = some ("n", "m * 2") := by decide +kernel
  have firstTokens : tokenize "n + 1" = .ok [.name "n", .plus, .int 1] := by decide +kernel
  have secondTokens : tokenize "m * 2" = .ok [.name "m", .star, .int 2] := by decide +kernel
  have firstRead : ofClause "m = n + 1" =
      .ok [⟨"m", .arithmetic .add (.name "n") (.literal (.int 1)), "m = n + 1"⟩] :=
    ofClause_single (by decide +kernel) firstSplit (by decide) (by decide +kernel) firstTokens rfl
  have secondRead : ofClause "n = m * 2" =
      .ok [⟨"n", .arithmetic .mul (.name "m") (.literal (.int 2)), "n = m * 2"⟩] :=
    ofClause_single (by decide +kernel) secondSplit (by decide) (by decide +kernel) secondTokens
      rfl
  have joined : applyClause odds ("m = n + 1" ++ ", " ++ "n = m * 2") 0 = .ok doubled :=
    Except.toOption_eq_some_iff.mp (by decide +kernel)
  obtain ⟨inTurn, frame⟩ := applyClause_join odds doubled
  constructor
  · refine (inTurn _ _ _ _ 0 0 0 firstRead secondRead ?_).mp joined
    simp [nodes, properNodes]
  · obtain ⟨assignments, read, assigned⟩ := frame _ _ joined
    rw [ofClause_join firstRead secondRead] at read
    cases read
    exact assigned

end Assignment

end LogPipe
