import LogPipe.Proofs.Engine.Alongside

/-!
# Traced runs

A traced run does what a run does, and besides notes every table that stands between two
segments: in the query itself, and in the queries that its directives run.  The tables are
kept beside the store, which is all that the runs inside a directive can reach.  Without
its notes a traced run is the run.
-/

namespace LogPipe

open LogPipe.Query

/-- A store with the tables that have been noted, the last one first. -/
structure Traced (σ : Type) where
  store : σ
  tables : List Table := []

/-- Notes a table. -/
def Traced.note {σ : Type} (traced : Traced σ) (table : Table) : Traced σ :=
  { traced with tables := table :: traced.tables }

instance {σ : Type} [LookupStore σ] : LookupStore (Traced σ) where
  load := fun traced name => LookupStore.load traced.store name
  save := fun traced name table mode =>
    let (result, store) := LookupStore.save traced.store name table mode
    (result, { traced with store := store })

/-- The outcome without the notes. -/
def Outcome.untraced {σ : Type} (outcome : Outcome (Traced σ)) : Outcome σ :=
  ⟨outcome.result, outcome.entries, outcome.store.store⟩

namespace Engine

variable {σ : Type} [LookupStore σ]

/-- Carries out segments like `runSegments`, and notes the table before each segment and the
one after the last. -/
def traceSegments (engine : Engine) (nested : NestedRun (Traced σ)) (table : Table)
    (traced : Traced σ) : List Segment → Outcome (Traced σ)
  | [] => ⟨.ok table, [], traced.note table⟩
  | segment :: segments =>
      match engine.runSegment nested segment table (traced.note table) with
      | (.error error, traced) =>
          ⟨.error (.directive segment.index segment.keywordText error), [], traced⟩
      | (.ok (name, next), traced) =>
          let outcome := engine.traceSegments nested next traced segments
          { outcome with
            entries := ⟨segment.index, name, table.rows, next.rows⟩ :: outcome.entries }

/-- Runs a query like `runQuery`, with notes. -/
def traceQuery (engine : Engine) (nested : NestedRun (Traced σ)) (query : String)
    (traced : Traced σ) : Outcome (Traced σ) :=
  match splitQuery query with
  | .error error => ⟨.error (.lex error), [], traced⟩
  | .ok split =>
      match engine.startTable split with
      | .error error => ⟨.error error, [], traced⟩
      | .ok table => engine.traceSegments nested table traced split.segments

/-- Runs what is inside directives like `nestedRun`, with notes. -/
def traceNested (engine : Engine) (depth : Nat) : Nat → NestedRun (Traced σ)
  | 0 =>
      ⟨fun _ => .ofExcept (.error (.policy (.tooDeep (depth + 1) engine.policy.nesting))),
        fun _ _ => .ofExcept (.error (.policy (.tooDeep (depth + 1) engine.policy.nesting)))⟩
  | fuel + 1 =>
      { query := fun query => do
          .ofExcept ((engine.policy.admitDepth (depth + 1)).mapError .policy)
          asSession fun traced =>
            engine.traceQuery (traceNested engine (depth + 1) fuel) query traced
        pipeline := fun table text => do
          .ofExcept ((engine.policy.admitDepth (depth + 1)).mapError .policy)
          let segments ← .ofExcept ((splitPipeline text).mapError .lex)
          asSession fun traced =>
            engine.traceSegments (traceNested engine (depth + 1) fuel) table traced segments }

/-- Runs a query against a store like `execute`, with notes. -/
def traceExecute (engine : Engine) (query : String) (store : σ) : Outcome (Traced σ) :=
  engine.traceQuery (engine.traceNested 0 (engine.policy.nesting + 1)) query ⟨store, []⟩

end Engine

section Erasure

variable {σ : Type} [LookupStore σ]

/-- A store with notes is alike to the one without them, and nothing is excused. -/
def Traced.erasure (σ : Type) [LookupStore σ] : Likeness (Traced σ) σ where
  alike := fun traced store => traced.store = store
  excuses := fun _ => False
  starts := fun _ => True
  load_eq := by
    rintro _ _ rfl name
    rfl
  save_alike := by
    rintro _ _ rfl name table mode
    exact ⟨rfl, rfl⟩

namespace Engine

variable {traced : NestedRun (Traced σ)} {plain : NestedRun σ}

theorem untraced_traceSegments (follows : traced.Follows (Traced.erasure σ) plain)
    (engine : Engine) (table : Table) (state : Traced σ) (segments : List Segment) :
    (engine.traceSegments traced table state segments).untraced =
      engine.runSegments plain table state.store segments := by
  induction segments generalizing table state with
  | nil => rfl
  | cons segment segments induction =>
      have starts : (Traced.erasure σ).starts table := trivial
      have here := runSegment_follows follows (.refl engine) starts (fun _ _ => .ofExcept _)
        segment (state.note table) state.store rfl
      rw [traceSegments, runSegments]
      generalize engine.runSegment traced segment table (state.note table) = ran at here ⊢
      generalize engine.runSegment plain segment table state.store = plainRan at here ⊢
      obtain ⟨result, next⟩ := ran
      obtain ⟨plainResult, plainNext⟩ := plainRan
      obtain ⟨_, _, absurd⟩ | ⟨same, alike⟩ := here
      · exact absurd.elim
      · cases same
        cases alike
        cases result with
        | error error => rfl
        | ok made =>
            have later := induction made.2 next
            simp only [← later, Outcome.untraced]

theorem untraced_traceQuery (follows : traced.Follows (Traced.erasure σ) plain)
    (engine : Engine) (query : String) (state : Traced σ) :
    (engine.traceQuery traced query state).untraced =
      engine.runQuery plain query state.store := by
  rw [traceQuery, runQuery]
  cases splitQuery query with
  | error error => rfl
  | ok split =>
      simp only
      cases engine.startTable split with
      | error error => rfl
      | ok table => exact untraced_traceSegments follows engine table state split.segments

theorem asSession_untraced {tracedRun : Traced σ → Outcome (Traced σ)} {plainRun : σ → Outcome σ}
    (same : ∀ state, (tracedRun state).untraced = plainRun state.store) :
    Session.Follows (Traced.erasure σ) (asSession tracedRun) (asSession plainRun) := by
  rintro state _ rfl
  rw [asSession, asSession, ← same state]
  exact .inr ⟨rfl, rfl⟩

/-- At every depth the traced runs do what the runs do. -/
theorem traceNested_follows (engine : Engine) (depth fuel : Nat) :
    (engine.traceNested depth fuel : NestedRun (Traced σ)).Follows (Traced.erasure σ)
      (engine.nestedRun depth fuel) := by
  induction fuel generalizing depth with
  | zero => exact ⟨fun _ => .ofExcept _, fun _ _ => .ofExcept _⟩
  | succ fuel induction =>
      have inside := induction (depth + 1)
      constructor
      · intro text
        exact (Session.Follows.ofExcept _).bind fun _ =>
          asSession_untraced fun state => untraced_traceQuery inside engine text state
      · intro table _ text
        exact (Session.Follows.ofExcept _).bind fun _ => (Session.Follows.ofExcept _).bind fun _ =>
          asSession_untraced fun state => untraced_traceSegments inside engine table state _

theorem untraced_traceExecute (engine : Engine) (query : String) (store : σ) :
    (engine.traceExecute query store).untraced = engine.execute query store :=
  untraced_traceQuery (engine.traceNested_follows 0 _) engine query _

end Engine

end Erasure

end LogPipe
