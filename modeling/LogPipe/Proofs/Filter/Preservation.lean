import LogPipe.Filter.Mask
import LogPipe.Proofs.Filter.Meaning
import LogPipe.Proofs.Table.Preservation

/-!
# Filters over well-formed tables

The truth column of a filter has one cell for each row of a well-formed table, so its mask
can be applied to the table.  A filter that cannot be applied is refused for what it is.
-/

namespace LogPipe

instance : MayMismatch FilterError where
  isMismatch
    | .column error => isMismatch error
    | .table error => isMismatch error
    | _ => false

namespace Filter

variable {clause : String} {names : List String}

/-- A fault that, if there is one, is no length mismatch. -/
def FineFault (fault : Option FilterError) : Prop :=
  ∀ error, fault = some error → isMismatch error = false

theorem FineFault.or {first second : Option FilterError} (firstFine : FineFault first)
    (secondFine : FineFault second) : FineFault (first.or second) := by
  cases first with
  | none => exact secondFine
  | some error => exact firstFine

theorem columnFault_fine (name : String) : FineFault (columnFault names name) := by
  intro error found
  rw [columnFault] at found
  split at found
  · cases found
  · cases found
    rfl

theorem literalFault_fine (filter : Filter) : FineFault (filter.literalFault clause) := by
  intro error found
  rw [literalFault.eq_def] at found
  split at found
  · cases found
  · cases found
    rfl
  · cases found

theorem operandFault_fine (filter : Filter) : FineFault (filter.operandFault clause names) := by
  induction filter with
  | column name => exact columnFault_fine name
  | literal value => rintro error ⟨⟩
  | member field values => exact columnFault_fine field
  | both left right leftFine rightFine | either left right leftFine rightFine =>
      exact (leftFine.or (literalFault_fine left)).or (rightFine.or (literalFault_fine right))
  | compare operator left right leftFine rightFine => exact leftFine.or rightFine

theorem Answers.keeps {α : Type} {fault : Option FilterError} {wanted : α → Prop}
    {result : Except FilterError α} (answers : Answers fault wanted result)
    (fine : FineFault fault) : Keeps wanted result := by
  cases fault with
  | some error =>
      have failed : result = .error error := answers
      subst failed
      exact .error (fine error rfl)
  | none =>
      obtain ⟨value, succeeded, holds⟩ := answers
      subst succeeded
      exact .ok holds

end Filter

theorem FilterClause.ofTokens_keeps (tokens : List Query.Token) (text : String) :
    Keeps (fun _ => True) (FilterClause.ofTokens tokens text) := by
  rw [FilterClause.ofTokens.eq_def]
  split
  · exact .ok trivial
  · split
    · exact .ok trivial
    · exact .error rfl

section Applying

variable {table : Table} (wellFormed : table.WellFormed)

include wellFormed

theorem FilterClause.mask_keeps (clause : FilterClause) :
    Keeps (fun mask => mask.length = table.rows) (clause.mask table) := by
  rw [mask]
  split
  · exact .ok List.length_replicate
  · next filter _ =>
      have truths := (Filter.truths_answers clause.text wellFormed filter).keeps
        ((Filter.operandFault_fine filter).or (Filter.literalFault_fine filter))
      split
      · next column done =>
          have shows := truths.of_eq_ok done
          exact .ok ((List.length_map _).trans shows.size_eq)
      · next failed => exact .error (truths.of_eq_error failed)

theorem FilterClause.apply_keeps (clause : FilterClause) :
    Keeps Table.WellFormed (clause.apply table) := by
  rw [apply]
  have masked := FilterClause.mask_keeps wellFormed clause
  split
  · next mask done =>
      exact (Table.filterRows_keeps wellFormed (masked.of_eq_ok done)).mapError _ fun _ => rfl
  · next failed => exact .error (masked.of_eq_error failed)

end Applying

instance : MayMismatch IndexError where
  isMismatch
    | .filter error => isMismatch error
    | _ => false

/-- The rows that an index clause selects form a well-formed table, if all indexes do. -/
theorem Indexes.select_keeps {indexes : Indexes}
    (wellFormed : ∀ entry ∈ indexes, entry.2.WellFormed) (tokens : List Query.Token) :
    Keeps Table.WellFormed (indexes.select tokens) := by
  rw [select]
  split
  · exact .error rfl
  · next name rest _ =>
      split
      · exact .error rfl
      · next table found =>
          have member : (name, table) ∈ indexes := Table.mem_of_lookup found
          split
          · next failed => exact .error ((FilterClause.ofTokens_keeps _ _).of_eq_error failed)
          · next filter _ =>
              exact (FilterClause.apply_keeps (wellFormed _ member) filter).mapError _ fun _ => rfl

end LogPipe
