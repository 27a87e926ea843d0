import LogPipe.Filter.Mask
import LogPipe.Proofs.Filter.Recognition
import LogPipe.Proofs.Query.Reading
import LogPipe.Proofs.Table.Gathering

/-!
# Rows selected by tokens

Which rows some tokens select depends on what the tokens look like.  Where they stand in a
text, and the text that errors quote, do not matter.
-/

namespace LogPipe

open LogPipe.Query

namespace Filter

/-- Tokens that look the same are thinned to each other. -/
theorem Thinned.of_looks {tokens others : List Token}
    (same : tokens.map Token.look = others.map Token.look) : Thinned tokens others := by
  induction tokens generalizing others with
  | nil =>
      obtain rfl := List.map_eq_nil_iff.mp same.symm
      exact .nil
  | cons token tokens induction =>
      obtain ⟨other, later, rfl, look, laterSame⟩ := List.map_eq_cons_iff.mp same.symm
      obtain ⟨kind, value⟩ := Prod.ext_iff.mp look
      exact .keep ⟨kind, value⟩ (induction laterSame.symm)

theorem toOption_ofTokens {tokens others : List Token}
    (same : tokens.map Token.look = others.map Token.look) :
    (ofTokens tokens).toOption = (ofTokens others).toOption := by
  have there {filter : Filter} : ofTokens tokens = .ok filter → ofTokens others = .ok filter :=
    ofTokens_of_thinned (.of_looks same)
  have back {filter : Filter} : ofTokens others = .ok filter → ofTokens tokens = .ok filter :=
    ofTokens_of_thinned (.of_looks same.symm)
  cases read : ofTokens tokens with
  | ok filter => rw [there read]
  | error fault =>
      cases otherRead : ofTokens others with
      | ok filter =>
          rw [back otherRead] at read
          cases read
      | error other => rfl

section Clauses

variable (clause other : String)

theorem toOption_predicate (rows : Nat) (operand : Operand) :
    (operand.predicate clause rows).toOption = (operand.predicate other rows).toOption := by
  cases operand with
  | column truths => rfl
  | cell value => cases value <;> rfl

theorem toOption_evaluate (table : Table) (filter : Filter) :
    (evaluate clause table filter).toOption = (evaluate other table filter).toOption := by
  induction filter with
  | column | literal | member => rfl
  | both left right leftSame rightSame | either left right leftSame rightSame =>
      simp only [evaluate, Except.toOption_bind, leftSame, rightSame,
        toOption_predicate clause other]
  | compare operator left right leftSame rightSame =>
      simp only [evaluate, Except.toOption_bind, leftSame, rightSame]

theorem toOption_truths (table : Table) (filter : Filter) :
    (filter.truths clause table).toOption = (filter.truths other table).toOption := by
  simp only [truths, Except.toOption_bind, toOption_evaluate clause other,
    toOption_predicate clause other]

end Clauses

end Filter

namespace FilterClause

/-- The rows of a table that tokens select, if they can be read and applied. -/
def select? (tokens : List Token) (text : String) (table : Table) : Option Table :=
  (ofTokens tokens text >>= fun clause => clause.apply table).toOption

theorem toOption_mask (text other : String) (filter : Option Filter) (table : Table) :
    (mask ⟨text, filter⟩ table).toOption = (mask ⟨other, filter⟩ table).toOption := by
  cases filter with
  | none => rfl
  | some filter =>
      have viewed (text : String) : (mask ⟨text, some filter⟩ table).toOption =
          (filter.truths text table).toOption.map Column.mask := by
        simp only [mask]
        cases filter.truths text table <;> rfl
      rw [viewed, viewed, filter.toOption_truths text other]

theorem toOption_apply (text other : String) (filter : Option Filter) (table : Table) :
    (apply ⟨text, filter⟩ table).toOption = (apply ⟨other, filter⟩ table).toOption := by
  have viewed (clause : FilterClause) : (clause.apply table).toOption =
      (clause.mask table).toOption.bind fun mask => (table.filterRows mask).toOption := by
    rw [apply]
    cases clause.mask table with
    | error error => rfl
    | ok mask =>
        simp only [Except.toOption, Option.bind_some]
        cases table.filterRows mask <;> rfl
  rw [viewed, viewed, toOption_mask text other]

/-- The text and the places of the tokens do not show in what they select. -/
theorem select?_congr {tokens others : List Token}
    (same : tokens.map Token.look = others.map Token.look) (text other : String) (table : Table) :
    select? tokens text table = select? others other table := by
  cases tokens with
  | nil =>
      obtain rfl := List.map_eq_nil_iff.mp same.symm
      exact toOption_apply text other none table
  | cons token tokens =>
      obtain ⟨first, later, rfl, -, -⟩ := List.map_eq_cons_iff.mp same.symm
      have viewed (token : Token) (tokens : List Token) (text : String) :
          select? (token :: tokens) text table =
            (Filter.ofTokens (token :: tokens)).toOption.bind fun filter =>
              (apply ⟨text, some filter⟩ table).toOption := by
        simp only [select?, ofTokens]
        cases Filter.ofTokens (token :: tokens) <;> rfl
      rw [viewed, viewed, Filter.toOption_ofTokens same]
      simp only [toOption_apply text other]

/-- The kept positions of a mask that is worked out row by row. -/
theorem keptPositions_map_range (keeps : Nat → Bool) (count : Nat) :
    Column.keptPositions ((List.range count).map keeps) = (List.range count).filter keeps := by
  induction count with
  | zero => rfl
  | succ count induction =>
      rw [Column.keptPositions] at induction ⊢
      rw [List.range_succ, List.map_append, List.zipIdx_append, List.filterMap_append, induction,
        List.filter_append, List.length_map, List.length_range, Nat.zero_add]
      cases kept : keeps count <;> simp [kept]

theorem keptPositions_replicate (count : Nat) :
    Column.keptPositions (List.replicate count true) = List.range count := by
  have masked := keptPositions_map_range (fun _ => true) count
  rwa [List.map_const', List.length_range, List.filter_eq_self.mpr fun _ _ => rfl] at masked

/-- Without tokens every row of a table is selected. -/
theorem select?_nil {table : Table} (wellFormed : table.WellFormed) (text : String) :
    select? [] text table = some table := by
  have kept : table.filterRows (List.replicate table.rows true) = .ok table := by
    rw [Table.filterRows, if_neg (by simp), keptPositions_replicate,
      Table.takeRows_range wellFormed.sizes]
  change ((table.filterRows (List.replicate table.rows true)).mapError
    FilterError.table).toOption = _
  rw [kept]
  rfl

end FilterClause

end LogPipe
