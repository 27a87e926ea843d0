import LogPipe.Formula.Apply

/-!
# Runs of drawing computations

A computation that may fail and may draw is run from a generator.  These are the results
of its steps, and what can be said of all of its errors.
-/

namespace LogPipe.Formula

/-- A result that, if it is an error, is one of a kind. -/
def FailsOnly {α : Type} (kind : FormulaError → Prop) (result : Except FormulaError α) : Prop :=
  ∀ error, result = .error error → kind error

namespace FailsOnly

variable {α β : Type} {kind : FormulaError → Prop}

theorem ok (value : α) : FailsOnly kind (.ok value) :=
  nofun

theorem error {failure : FormulaError} (isKind : kind failure) :
    FailsOnly (α := α) kind (.error failure) := by
  rintro _ ⟨⟩
  exact isKind

theorem bind {result : Except FormulaError α} {next : α → Except FormulaError β}
    (first : FailsOnly kind result) (later : ∀ value, FailsOnly kind (next value)) :
    FailsOnly kind (result >>= next) := by
  cases result with
  | error failure => exact error (first failure rfl)
  | ok value => exact later value

theorem map {result : Except FormulaError α} (change : α → β)
    (first : FailsOnly kind result) : FailsOnly kind (result.map change) := by
  cases result with
  | error failure => exact error (first failure rfl)
  | ok value => exact ok (change value)

theorem imp {wider : FormulaError → Prop} {result : Except FormulaError α}
    (fails : FailsOnly kind result) (implies : ∀ failure, kind failure → wider failure) :
    FailsOnly wider result :=
  fun failure failed => implies failure (fails failure failed)

end FailsOnly

namespace Drawing

variable {α β : Type}

@[simp] theorem run_fixed (result : Except FormulaError α) (generator : Generator) :
    (fixed result).run generator = (result, generator) := rfl

/-- What comes later is run from the generator that the first part leaves behind, and is
not run after an error. -/
theorem run_bind (first : Drawing α) (later : α → Drawing β) (generator : Generator) :
    (first >>= later).run generator =
      match first.run generator with
      | (.ok value, left) => (later value).run left
      | (.error error, left) => (.error error, left) := by
  simp only [bind, ExceptT.bind, ExceptT.run, ExceptT.mk, StateT.bind, ExceptT.bindCont]
  cases first generator with
  | mk result left => cases result <;> rfl

theorem run_bind_eq_ok_iff {first : Drawing α} {later : α → Drawing β} {generator : Generator}
    {value : β} :
    ((first >>= later).run generator).1 = .ok value ↔
      ∃ middle left, first.run generator = (.ok middle, left) ∧
        ((later middle).run left).1 = .ok value := by
  rw [run_bind]
  rcases ran : first.run generator with ⟨result, left⟩
  cases result with
  | error error =>
      constructor
      · intro finished
        cases finished
      · rintro ⟨middle, other, found, -⟩
        cases found
  | ok middle =>
      constructor
      · intro finished
        exact ⟨middle, left, rfl, finished⟩
      · rintro ⟨other, rest, found, finished⟩
        cases found
        exact finished

/-- A computation that, whatever it draws, fails only with errors of a kind. -/
def FailsOnly (kind : FormulaError → Prop) (computation : Drawing α) : Prop :=
  ∀ generator, Formula.FailsOnly kind (computation.run generator).1

namespace FailsOnly

variable {kind : FormulaError → Prop}

theorem fixed {result : Except FormulaError α} (fails : Formula.FailsOnly kind result) :
    FailsOnly kind (Drawing.fixed result) :=
  fun _ => fails

theorem value (value : α) : FailsOnly kind (pure value) :=
  fun _ => Formula.FailsOnly.ok value

theorem failure {error : FormulaError} (isKind : kind error) :
    FailsOnly (α := α) kind (throw error) :=
  fun _ => Formula.FailsOnly.error isKind

theorem draw (next : Generator → α × Generator) : FailsOnly kind (Drawing.draw next) :=
  fun _ => Formula.FailsOnly.ok _

theorem bind {first : Drawing α} {later : α → Drawing β} (firstFails : FailsOnly kind first)
    (laterFails : ∀ value, FailsOnly kind (later value)) :
    FailsOnly kind (first >>= later) := by
  intro generator
  have here := firstFails generator
  rw [run_bind]
  rcases ran : first.run generator with ⟨result, left⟩
  rw [ran] at here
  cases result with
  | error error => exact Formula.FailsOnly.error (here error rfl)
  | ok value => exact laterFails value left

theorem imp {wider : FormulaError → Prop} {computation : Drawing α}
    (fails : FailsOnly kind computation) (implies : ∀ failure, kind failure → wider failure) :
    FailsOnly wider computation :=
  fun generator => (fails generator).imp implies

end FailsOnly

end Drawing

end LogPipe.Formula
