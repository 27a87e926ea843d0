import LogPipe.Proofs.Engine.Invariant

/-!
# Limits

The limits of a policy only refuse.  An engine with wider limits does what one with tighter
limits does, at every depth of the queries inside directives, unless the tighter one fails
over a limit; and under a row cap no table of a run is larger than the cap.
-/

namespace LogPipe

open LogPipe.Query

/-- Whether a policy refuses over one of its limits. -/
def PolicyError.isLimit : PolicyError → Bool
  | .tooManyRows .. | .tooDeep .. => true
  | .invalid _ | .malformed => false

mutual

/-- Whether the root of the error is a limit, however deep it lies. -/
def DirectiveError.isLimit : DirectiveError → Bool
  | .policy error => error.isLimit
  | .subsearch error => error.isLimit
  | _ => false

/-- Whether the root of the error is a limit, however deep it lies. -/
def QueryError.isLimit : QueryError → Bool
  | .policy error => error.isLimit
  | .directive _ _ error => error.isLimit
  | _ => false

end

/-- The limits of the first policy are at least as wide as those of the second. -/
structure Policy.Loosens (loose strict : Policy) : Prop where
  nesting : strict.nesting ≤ loose.nesting
  rowCap : ∀ cap, loose.rowCap = some cap → ∃ tighter ≤ cap, strict.rowCap = some tighter

theorem Policy.Loosens.refl (policy : Policy) : policy.Loosens policy :=
  ⟨Nat.le_refl _, fun cap given => ⟨cap, Nat.le_refl _, given⟩⟩

namespace Policy

variable {policy loose strict : Policy} {subject : String} {rows cap depth : Nat}

theorem admitRows_eq_ok_iff :
    policy.admitRows subject rows = .ok () ↔ ∀ cap, policy.rowCap = some cap → rows ≤ cap := by
  rw [admitRows]
  cases policy.rowCap with
  | none => simp
  | some cap =>
      simp only [Option.some.injEq, forall_eq']
      split
      · next above => simp [Nat.not_le_of_lt above]
      · next within => simp [Nat.le_of_not_lt within]

theorem isLimit_of_admitRows {error : PolicyError}
    (refused : policy.admitRows subject rows = .error error) : error.isLimit := by
  rw [admitRows] at refused
  split at refused
  · cases refused
  · split at refused
    · cases refused
      rfl
    · cases refused

theorem admitDepth_eq_ok_iff :
    policy.admitDepth depth = .ok () ↔ depth ≤ policy.nesting := by
  rw [admitDepth]
  split
  · next above => simp [Nat.not_le_of_lt above]
  · next within => simp [Nat.le_of_not_lt within]

theorem isLimit_of_admitDepth {error : PolicyError}
    (refused : policy.admitDepth depth = .error error) : error.isLimit := by
  rw [admitDepth] at refused
  split at refused
  · cases refused
    rfl
  · cases refused

theorem Loosens.admitRows (loosens : loose.Loosens strict)
    (admitted : strict.admitRows subject rows = .ok ()) :
    loose.admitRows subject rows = .ok () := by
  refine admitRows_eq_ok_iff.mpr fun cap given => ?_
  obtain ⟨tighter, below, tight⟩ := loosens.rowCap cap given
  exact Nat.le_trans (admitRows_eq_ok_iff.mp admitted tighter tight) below

theorem Loosens.admitDepth (loosens : loose.Loosens strict) {shallower : Nat}
    (below : shallower ≤ depth) (admitted : strict.admitDepth depth = .ok ()) :
    loose.admitDepth shallower = .ok () :=
  admitDepth_eq_ok_iff.mpr
    (Nat.le_trans (Nat.le_trans below (admitDepth_eq_ok_iff.mp admitted)) loosens.nesting)

end Policy

section Looser

variable {σ : Type} [LookupStore σ]

/-- Runs from one store, which agree unless the first fails over a limit. -/
def Likeness.upToLimits (σ : Type) [LookupStore σ] : Likeness σ σ where
  alike := Eq
  excuses := fun error => error.isLimit
  starts := fun _ => True
  load_eq := by
    rintro _ _ rfl name
    rfl
  save_alike := by
    rintro _ _ rfl name table mode
    exact ⟨rfl, rfl⟩

/-- A check that is only passed more often follows, when it refuses over limits. -/
theorem Session.Follows.check {strict loose : Except PolicyError Unit}
    (limit : ∀ error, strict = .error error → error.isLimit)
    (looser : strict = .ok () → loose = .ok ()) :
    Session.Follows (Likeness.upToLimits σ) (.ofExcept (strict.mapError .policy))
      (.ofExcept (loose.mapError .policy)) := by
  cases strict with
  | error error => exact .excused (limit error rfl) _
  | ok done =>
      rw [looser rfl]
      exact .ofExcept _

/-- An outcome that is the first one again, unless that one fails over a limit. -/
def Outcome.Follows (first second : Outcome σ) : Prop :=
  (∃ error, first.result = .error error ∧ error.isLimit) ∨ first = second

namespace Engine

variable {engine other : Engine} (agree : engine.AgreeButLimits other)
  (loosens : other.policy.Loosens engine.policy)

theorem asSession_follows {run otherRun : σ → Outcome σ}
    (follows : ∀ store, (run store).Follows (otherRun store)) :
    Session.Follows (Likeness.upToLimits σ) (asSession run) (asSession otherRun) := by
  rintro store _ rfl
  obtain ⟨error, failed, limit⟩ | same := follows store
  · exact .inl ⟨.subsearch error, by rw [asSession, failed]; rfl, limit⟩
  · rw [asSession, asSession, same]
    exact .inr ⟨rfl, rfl⟩

include agree loosens

theorem startTable_follows (split : SplitQuery) :
    (∃ error, engine.startTable split = .error error ∧ error.isLimit) ∨
      engine.startTable split = other.startTable split := by
  rw [startTable, startTable, agree.indexes]
  cases (if split.indexTokens.isEmpty then Except.ok Table.empty
    else (other.indexes.select split.indexTokens).mapError QueryError.index) with
  | error error => exact .inr rfl
  | ok table =>
      simp only
      cases admits : engine.policy.admitRows "accelerator" table.rows with
      | error error => exact .inl ⟨.policy error, rfl, Policy.isLimit_of_admitRows admits⟩
      | ok done =>
          rw [loosens.admitRows admits]
          exact .inr rfl

section Inside

variable {first second : NestedRun σ}
  (follows : first.Follows (Likeness.upToLimits σ) second)

include follows

theorem runSegments_follows (table : Table) (store : σ) (segments : List Segment) :
    (engine.runSegments first table store segments).Follows
      (other.runSegments second table store segments) := by
  induction segments generalizing table store with
  | nil => exact .inr rfl
  | cons segment segments induction =>
      have starts : (Likeness.upToLimits σ).starts table := trivial
      have here := runSegment_follows follows agree starts
        (fun _ _ => .check (fun _ => Policy.isLimit_of_admitRows) loosens.admitRows)
        segment store store rfl
      rw [runSegments, runSegments]
      generalize engine.runSegment first segment table store = ran at here ⊢
      generalize other.runSegment second segment table store = otherRan at here ⊢
      obtain ⟨result, left⟩ := ran
      obtain ⟨otherResult, otherLeft⟩ := otherRan
      obtain ⟨error, failed, limit⟩ | ⟨same, alike⟩ := here
      · cases failed
        exact .inl ⟨_, rfl, limit⟩
      · cases same
        cases alike
        cases result with
        | error error => exact .inr rfl
        | ok made =>
            obtain ⟨error, failed, limit⟩ | same := induction made.2 left
            · exact .inl ⟨error, failed, limit⟩
            · simp only [same]
              exact .inr rfl

theorem runQuery_follows (query : String) (store : σ) :
    (engine.runQuery first query store).Follows (other.runQuery second query store) := by
  rw [runQuery, runQuery]
  cases splitQuery query with
  | error error => exact .inr rfl
  | ok split =>
      simp only
      obtain ⟨error, failed, limit⟩ | same := startTable_follows agree loosens split
      · rw [failed]
        exact .inl ⟨error, rfl, limit⟩
      · rw [same]
        cases other.startTable split with
        | error error => exact .inr rfl
        | ok table => exact runSegments_follows agree loosens follows table store _

end Inside

/-- Wider limits and less depth follow, as the runs inside them do one level deeper. -/
theorem nestedRun_follows {depth shallower fuel more : Nat} (below : shallower ≤ depth)
    (enough : fuel ≤ more) :
    (engine.nestedRun depth fuel : NestedRun σ).Follows (Likeness.upToLimits σ)
      (other.nestedRun shallower more) := by
  induction fuel generalizing depth shallower more with
  | zero => exact ⟨fun _ => .excused rfl _, fun _ _ => .excused rfl _⟩
  | succ fuel induction =>
      obtain ⟨more, rfl⟩ := Nat.exists_eq_add_one_of_ne_zero (Nat.ne_zero_of_lt enough)
      have inside := induction (Nat.succ_le_succ below) (Nat.le_of_succ_le_succ enough)
      have admits : Session.Follows (Likeness.upToLimits σ)
          (.ofExcept ((engine.policy.admitDepth (depth + 1)).mapError .policy))
          (.ofExcept ((other.policy.admitDepth (shallower + 1)).mapError .policy)) :=
        .check (fun _ => Policy.isLimit_of_admitDepth)
          (loosens.admitDepth (Nat.succ_le_succ below))
      constructor
      · intro text
        exact admits.bind fun _ =>
          asSession_follows fun store => runQuery_follows agree loosens inside text store
      · intro table _ text
        exact admits.bind fun _ => (Session.Follows.ofExcept _).bind fun segments =>
          asSession_follows fun store =>
            runSegments_follows agree loosens inside table store segments

theorem execute_follows (query : String) (store : σ) :
    (engine.execute query store).Follows (other.execute query store) :=
  runQuery_follows agree loosens
    (nestedRun_follows agree loosens (Nat.le_refl 0) (Nat.succ_le_succ loosens.nesting))
    query store

end Engine

end Looser

section Capped

variable {σ : Type} {cap : Nat}

/-- No noted table has more rows than the cap. -/
def Traced.Within (cap : Nat) (traced : Traced σ) : Prop :=
  ∀ table ∈ traced.tables, table.rows ≤ cap

theorem Traced.Within.note {traced : Traced σ} (within : traced.Within cap) {table : Table}
    (fits : table.rows ≤ cap) : (traced.note table).Within cap :=
  List.forall_mem_cons.mpr ⟨fits, within⟩

variable [LookupStore σ]

/-- A run beside itself, whose notes stay within a cap. -/
def Likeness.within (σ : Type) [LookupStore σ] (cap : Nat) : Likeness (Traced σ) (Traced σ) where
  alike := fun traced other => traced = other ∧ traced.Within cap
  excuses := fun _ => False
  starts := fun table => table.rows ≤ cap
  load_eq := by
    rintro _ _ ⟨rfl, -⟩ name
    rfl
  save_alike := by
    rintro _ _ ⟨rfl, within⟩ name table mode
    exact ⟨rfl, rfl, within⟩

namespace Engine

variable {engine : Engine} (limited : engine.policy.rowCap = some cap)

include limited

theorem rows_le_of_runSegment {nested : NestedRun σ} {segment : Segment} {table next : Table}
    {name : String} {store left : σ}
    (ran : engine.runSegment nested segment table store = (.ok (name, next), left)) :
    next.rows ≤ cap := by
  obtain ⟨_, -, -, -, passed⟩ := runSegment_eq_ok_iff.mp ran
  exact Policy.admitRows_eq_ok_iff.mp passed cap limited

theorem rows_le_of_startTable {split : SplitQuery} {table : Table}
    (started : engine.startTable split = .ok table) : table.rows ≤ cap := by
  rw [startTable] at started
  split at started
  · cases started
  · split at started
    · cases started
    · next passed =>
        cases started
        exact Policy.admitRows_eq_ok_iff.mp passed cap limited

section Inside

variable {traced : NestedRun (Traced σ)} (runs : traced.Follows (Likeness.within σ cap) traced)
  {state : Traced σ} (within : state.Within cap)

include runs within

theorem within_traceSegments {table : Table} (fits : table.rows ≤ cap)
    (segments : List Segment) :
    (engine.traceSegments traced table state segments).store.Within cap := by
  induction segments generalizing table state with
  | nil => exact within.note fits
  | cons segment segments induction =>
      have here := runSegment_follows runs (.refl engine) fits (fun _ _ => .ofExcept _) segment
        (state.note table) (state.note table) ⟨rfl, within.note fits⟩
      rw [traceSegments]
      cases ran : engine.runSegment traced segment table (state.note table) with
      | mk result left =>
          rw [ran] at here
          obtain ⟨_, _, absurd⟩ | ⟨-, -, kept⟩ := here
          · exact absurd.elim
          · cases result with
            | error error => exact kept
            | ok made => exact induction kept (rows_le_of_runSegment limited ran)

theorem within_traceQuery (query : String) :
    (engine.traceQuery traced query state).store.Within cap := by
  rw [traceQuery]
  split
  · exact within
  · split
    · exact within
    · next started =>
        exact within_traceSegments limited runs within (rows_le_of_startTable limited started) _

end Inside

omit limited in
theorem asSession_within {run : Traced σ → Outcome (Traced σ)}
    (within : ∀ state, state.Within cap → (run state).store.Within cap) :
    Session.Follows (Likeness.within σ cap) (asSession run) (asSession run) := by
  rintro state _ ⟨rfl, kept⟩
  exact .inr ⟨rfl, rfl, within state kept⟩

/-- The notes stay within the cap at every depth. -/
theorem traceNested_within (depth fuel : Nat) :
    (engine.traceNested depth fuel : NestedRun (Traced σ)).Follows (Likeness.within σ cap)
      (engine.traceNested depth fuel) := by
  induction fuel generalizing depth with
  | zero => exact ⟨fun _ => .ofExcept _, fun _ _ => .ofExcept _⟩
  | succ fuel induction =>
      have inside := induction (depth + 1)
      constructor
      · intro text
        exact (Session.Follows.ofExcept _).bind fun _ =>
          asSession_within fun state within => within_traceQuery limited inside within text
      · intro table fits text
        exact (Session.Follows.ofExcept _).bind fun _ => (Session.Follows.ofExcept _).bind fun _ =>
          asSession_within fun state within => within_traceSegments limited inside within fits _

theorem within_traceExecute (query : String) (store : σ) :
    (engine.traceExecute query store).store.Within cap := by
  have start : (⟨store, []⟩ : Traced σ).Within cap := List.forall_mem_nil _
  exact within_traceQuery limited (traceNested_within limited 0 _) start query

end Engine

end Capped

namespace Engine

/-- Limits only refuse.  Under wider limits a query has the same outcome, with its table or
error and the lookups that it leaves, unless under the tighter ones it fails over a limit.
Under a row cap no table that the query comes by, at any depth of the queries inside it, has
more rows than the cap. -/
theorem limits_only_refuse {σ : Type} [LookupStore σ] (engine other : Engine)
    (agree : engine.AgreeButLimits other) (loosens : other.policy.Loosens engine.policy)
    (query : String) (store : σ) :
    (∀ table, (engine.execute query store).result = .ok table →
      other.execute query store = engine.execute query store) ∧
    (∀ error, (engine.execute query store).result = .error error → error.isLimit = false →
      other.execute query store = engine.execute query store) ∧
    (engine.traceExecute query store).untraced = engine.execute query store ∧
    (∀ table, (engine.execute query store).result = .ok table →
      (engine.traceExecute query store).store.tables.head? = some table) ∧
    ∀ cap, engine.policy.rowCap = some cap →
      ∀ table ∈ (engine.traceExecute query store).store.tables, table.rows ≤ cap := by
  have erased := engine.untraced_traceExecute query store
  have follows := execute_follows agree loosens query store
  refine ⟨?_, ?_, erased, ?_, fun cap limited => within_traceExecute limited query store⟩
  · intro table done
    obtain ⟨error, failed, -⟩ | same := follows
    · rw [done] at failed
      cases failed
    · exact same.symm
  · intro error failed root
    obtain ⟨error', failed', limit⟩ | same := follows
    · rw [failed] at failed'
      cases failed'
      rw [root] at limit
      cases limit
    · exact same.symm
  · intro table done
    rw [← erased] at done
    exact head?_traceQuery done

/-- The engine of web requests under the tightest limits that its nesting query keeps. -/
def tightEngine : Engine :=
  { webEngine with policy := { nesting := 1, rowCap := some 3 } }

/-- A query that fails inside a query, and not over a limit. -/
def brokenQuery : String :=
  "index=web | append [index=web | fields absent]"

/-- The nesting query keeps to the tighter limits, and the broken query fails for another
reason, two levels down, so neither outcome depends on the limits. -/
theorem limits_only_refuse_nested :
    (∃ table, (tightEngine.execute nestingQuery hostOwners).result = .ok table ∧
      webEngine.execute nestingQuery hostOwners = tightEngine.execute nestingQuery hostOwners) ∧
    (∃ error, (tightEngine.execute brokenQuery hostOwners).result = .error error ∧
      (webEngine.execute brokenQuery hostOwners).result = .error error) ∧
    (∀ table ∈ (tightEngine.traceExecute nestingQuery hostOwners).store.tables,
      table.rows ≤ 3) := by
  have loosens : webEngine.policy.Loosens tightEngine.policy :=
    ⟨by decide, fun _ given => nomatch given⟩
  obtain ⟨table, done, -⟩ := Except.exists_ok_of_toOption
    (show (tightEngine.execute nestingQuery hostOwners).result.toOption.map Table.rows = some 3 by
      decide +kernel)
  obtain ⟨same, -, -, -, within⟩ := limits_only_refuse tightEngine webEngine
    ⟨rfl, rfl, rfl, rfl, rfl⟩ loosens nestingQuery hostOwners
  obtain ⟨error, failed, root⟩ := Except.mapError_eq_error_iff.mp <| Except.map_eq_error_iff.mp
    (show ((tightEngine.execute brokenQuery hostOwners).result.mapError QueryError.isLimit).map
        Table.rows = .error false by decide +kernel)
  obtain ⟨-, fails, -⟩ := limits_only_refuse tightEngine webEngine
    ⟨rfl, rfl, rfl, rfl, rfl⟩ loosens brokenQuery hostOwners
  refine ⟨⟨table, done, same table done⟩, ⟨error, failed, ?_⟩, within 3 rfl⟩
  rw [fails error failed root, failed]

end Engine

end LogPipe
