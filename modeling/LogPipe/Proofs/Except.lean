/-!
# Results that may be errors

Inversion of the steps that a computation with errors is made of.
-/

namespace Except

variable {ε δ α β : Type}

theorem bind_eq_ok_iff {result : Except ε α} {next : α → Except ε β} {value : β} :
    (result >>= next) = .ok value ↔ ∃ middle, result = .ok middle ∧ next middle = .ok value := by
  cases result with
  | error error =>
      constructor
      · intro finished
        cases finished
      · rintro ⟨middle, found, -⟩
        cases found
  | ok middle =>
      constructor
      · intro finished
        exact ⟨middle, rfl, finished⟩
      · rintro ⟨other, found, finished⟩
        cases found
        exact finished

theorem map_eq_ok_iff {result : Except ε α} {view : α → β} {value : β} :
    result.map view = .ok value ↔ ∃ middle, result = .ok middle ∧ view middle = value := by
  cases result with
  | error error =>
      constructor
      · intro finished
        cases finished
      · rintro ⟨middle, found, -⟩
        cases found
  | ok middle =>
      constructor
      · intro finished
        cases finished
        exact ⟨middle, rfl, rfl⟩
      · rintro ⟨other, found, rfl⟩
        cases found
        rfl

theorem map_eq_error_iff {result : Except ε α} {view : α → β} {error : ε} :
    result.map view = .error error ↔ result = .error error := by
  cases result with
  | error other =>
      constructor
      · intro failed
        cases failed
        rfl
      · intro failed
        cases failed
        rfl
  | ok value =>
      constructor
      · intro failed
        cases failed
      · intro failed
        cases failed

theorem mapError_eq_ok_iff {result : Except ε α} {view : ε → δ} {value : α} :
    result.mapError view = .ok value ↔ result = .ok value := by
  cases result with
  | error error =>
      constructor
      · intro finished
        cases finished
      · intro finished
        cases finished
  | ok other =>
      constructor
      · intro finished
        cases finished
        rfl
      · intro finished
        cases finished
        rfl

theorem mapError_eq_error_iff {result : Except ε α} {view : ε → δ} {seen : δ} :
    result.mapError view = .error seen ↔ ∃ error, result = .error error ∧ view error = seen := by
  cases result with
  | error error =>
      constructor
      · intro failed
        cases failed
        exact ⟨error, rfl, rfl⟩
      · rintro ⟨other, found, rfl⟩
        cases found
        rfl
  | ok value =>
      constructor
      · intro failed
        cases failed
      · rintro ⟨error, found, -⟩
        cases found

theorem toOption_eq_some_iff {result : Except ε α} {value : α} :
    result.toOption = some value ↔ result = .ok value := by
  cases result with
  | error error =>
      constructor
      · intro found
        cases found
      · intro finished
        cases finished
  | ok other =>
      constructor
      · intro found
        cases found
        rfl
      · intro finished
        cases finished
        rfl

theorem toOption_bind (result : Except ε α) (next : α → Except ε β) :
    (result >>= next).toOption = result.toOption.bind fun value => (next value).toOption := by
  cases result <;> rfl

theorem toOption_mapError (result : Except ε α) (view : ε → δ) :
    (result.mapError view).toOption = result.toOption := by
  cases result <;> rfl

theorem exists_map_error_iff {result : Except ε α} {view : α → β} :
    (∃ error, result.map view = .error error) ↔ ∃ error, result = .error error := by
  cases result with
  | error error => exact ⟨fun _ => ⟨error, rfl⟩, fun _ => ⟨error, rfl⟩⟩
  | ok value =>
      constructor
      · rintro ⟨error, failed⟩
        cases failed
      · rintro ⟨error, failed⟩
        cases failed

theorem exists_mapError_error_iff {result : Except ε α} {view : ε → δ} :
    (∃ error, result.mapError view = .error error) ↔ ∃ error, result = .error error := by
  cases result with
  | error error => exact ⟨fun _ => ⟨error, rfl⟩, fun _ => ⟨view error, rfl⟩⟩
  | ok value =>
      constructor
      · rintro ⟨error, failed⟩
        cases failed
      · rintro ⟨error, failed⟩
        cases failed

theorem exists_ok_of_not_error {result : Except ε α}
    (never : ¬∃ error, result = .error error) : ∃ value, result = .ok value := by
  cases result with
  | error error => exact absurd ⟨error, rfl⟩ never
  | ok value => exact ⟨value, rfl⟩

theorem exists_ok_of_toOption {result : Except ε α} {view : α → β} {seen : β}
    (found : result.toOption.map view = some seen) :
    ∃ value, result = .ok value ∧ view value = seen := by
  cases result with
  | error error => cases found
  | ok value => exact ⟨value, rfl, Option.some.inj found⟩

theorem exists_error_of_toOption {result : Except ε α} (found : result.toOption = none) :
    ∃ error, result = .error error := by
  cases result with
  | error error => exact ⟨error, rfl⟩
  | ok value => cases found

end Except
