import LogPipe.Proofs.Engine.Alongside

/-!
# What changes the store

A session changes the store in the ways that its parts do, one after the other, whether it
fails or not.  Of all directives only `outputlookup` saves anything itself.  The others change
the store through the runs inside them at most, also where they drop the tables of these.
-/

namespace LogPipe

open LogPipe.Query

/-- Ways of changing a store: none is a way, and one way after another is. -/
structure Change (σ : Type) where
  leads : σ → σ → Prop
  refl : ∀ store, leads store store
  trans : ∀ {first second third}, leads first second → leads second third → leads first third

namespace Session

variable {σ α β : Type}

/-- A session that changes every store in one of the given ways. -/
def Moves (change : Change σ) (session : Session σ α) : Prop :=
  ∀ store, change.leads store (session store).2

namespace Moves

variable {change : Change σ}

theorem ofExcept (result : Except DirectiveError α) : Moves change (Session.ofExcept result) :=
  fun store => change.refl store

theorem value (value : α) : Moves change (pure value) :=
  fun store => change.refl store

theorem load [LookupStore σ] (name : String) : Moves change (Session.load name) :=
  fun store => change.refl store

theorem bind {first : Session σ α} {later : α → Session σ β} (moves : Moves change first)
    (laterMoves : ∀ value, Moves change (later value)) : Moves change (first >>= later) := by
  intro store
  have here := moves store
  rw [bind_apply]
  generalize first store = ran at here ⊢
  obtain ⟨result, left⟩ := ran
  cases result with
  | error error => exact here
  | ok value => exact change.trans here (laterMoves value left)

end Moves

end Session

variable {σ : Type}

/-- Runs inside a directive that change every store in one of the given ways. -/
structure NestedRun.Moves (change : Change σ) (nested : NestedRun σ) : Prop where
  query : ∀ text, Session.Moves change (nested.query text)
  pipeline : ∀ table text, Session.Moves change (nested.pipeline table text)

variable {change : Change σ} {nested : NestedRun σ} (table : Table) (invocation : Invocation)

namespace Lookups

variable [LookupStore σ]

theorem lookup_moves : Session.Moves change (lookup table invocation) := by
  rw [lookup.eq_def]
  simp only
  split
  · exact .ofExcept _
  · exact .ofExcept _
  · exact (Session.Moves.load _).bind fun _ => (Session.Moves.ofExcept _).bind fun _ =>
      .ofExcept _

theorem input_moves : Session.Moves change (input invocation) :=
  (Session.Moves.ofExcept _).bind fun name => .load name

/-- An `outputlookup` saves once, or it is rejected and saves nothing. -/
theorem output_apply (store : σ) :
    (∃ error, (saveMode invocation = .error error ∨ lookupName invocation = .error error) ∧
      output table invocation store = (.error error, store)) ∨
    ∃ mode name, saveMode invocation = .ok mode ∧ lookupName invocation = .ok name ∧
      output table invocation store =
        (((LookupStore.save store name table mode).1.mapError .lookup).map fun _ => table,
          (LookupStore.save store name table mode).2) := by
  rw [output, Session.bind_apply]
  cases saveMode invocation with
  | error error => exact .inl ⟨error, .inl rfl, rfl⟩
  | ok mode =>
      rw [Session.ofExcept]
      simp only
      rw [Session.bind_apply]
      cases lookupName invocation with
      | error error => exact .inl ⟨error, .inr rfl, rfl⟩
      | ok name =>
          refine .inr ⟨mode, name, rfl, rfl, ?_⟩
          rw [Session.ofExcept]
          simp only
          rw [Session.bind_apply, Session.save]
          cases LookupStore.save store name table mode with
          | mk result left => cases result <;> rfl

end Lookups

namespace Subsearch

variable (moves : nested.Moves change)

include moves

theorem join_moves : Session.Moves change (join nested table invocation) :=
  (Session.Moves.ofExcept _).bind fun query => (Session.Moves.ofExcept _).bind fun _ =>
    (moves.query query).bind fun _ => .ofExcept _

theorem append_moves : Session.Moves change (append nested table invocation) :=
  (Session.Moves.ofExcept _).bind fun query => (moves.query query).bind fun _ => .value _

theorem appendPipe_moves : Session.Moves change (appendPipe nested table invocation) :=
  (Session.Moves.ofExcept _).bind fun text =>
    (moves.pipeline table text).bind fun _ => .value _

theorem runAll_moves (queries : List String) : Session.Moves change (runAll nested queries) := by
  induction queries with
  | nil => exact .value []
  | cons query queries induction =>
      exact (moves.query query).bind fun _ => induction.bind fun _ => .value _

theorem multiSearch_moves : Session.Moves change (multiSearch nested invocation) := by
  rw [multiSearch]
  split
  · exact .ofExcept _
  · split
    · exact .ofExcept _
    · exact (runAll_moves moves _).bind fun _ => .value _

theorem macroCall_moves (macros : Macros) :
    Session.Moves change (macroCall nested macros table invocation) :=
  (Session.Moves.ofExcept _).bind fun text => moves.pipeline table text

end Subsearch

namespace Engine

/-- What a directive other than `outputlookup` does to the store, the runs inside it do. -/
theorem apply_moves [LookupStore σ] (engine : Engine) (moves : nested.Moves change)
    (savesNothing : invocation.directive ≠ .outputLookup) :
    Session.Moves change (engine.apply nested table invocation) := by
  rw [apply]
  cases directive : invocation.directive with
  | outputLookup => exact absurd directive savesNothing
  | lookup => exact Lookups.lookup_moves table invocation
  | inputLookup => exact Lookups.input_moves invocation
  | join => exact Subsearch.join_moves table invocation moves
  | append => exact Subsearch.append_moves table invocation moves
  | appendPipe => exact Subsearch.appendPipe_moves table invocation moves
  | multiSearch => exact Subsearch.multiSearch_moves invocation moves
  | macroCall => exact Subsearch.macroCall_moves table invocation moves engine.macros
  | _ => exact .ofExcept _

theorem asSession_moves {run : σ → Outcome σ}
    (leads : ∀ store, change.leads store (run store).store) :
    Session.Moves change (asSession run) :=
  fun store => leads store

end Engine

end LogPipe
