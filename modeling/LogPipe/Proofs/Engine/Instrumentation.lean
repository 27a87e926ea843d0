import LogPipe.Proofs.Engine.Effects

/-!
# Runs whose segments are watched

What a run does besides its segments is the same however these are carried out.  So it is
written once more with the way of carrying out a segment left open: one that keeps notes in its
store makes a run that keeps notes at every depth.  Where every segment follows the one of the
plain run, so does the whole run, and where every segment changes the store in some ways, so
does the whole run.
-/

namespace LogPipe

open LogPipe.Query

/-- A way of carrying out a segment, for the runs that may stand inside it. -/
abbrev SegmentRun (τ : Type) := NestedRun τ → Segment → Table → Session τ (String × Table)

namespace Engine

section Runs

variable {τ : Type}

/-- Carries out segments like `runSegments`, each in the given way. -/
def segmentsBy (run : Segment → Table → Session τ (String × Table)) (table : Table) (store : τ) :
    List Segment → Outcome τ
  | [] => ⟨.ok table, [], store⟩
  | segment :: segments =>
      match run segment table store with
      | (.error error, store) =>
          ⟨.error (.directive segment.index segment.keywordText error), [], store⟩
      | (.ok (name, next), store) =>
          let outcome := segmentsBy run next store segments
          { outcome with
            entries := ⟨segment.index, name, table.rows, next.rows⟩ :: outcome.entries }

/-- Runs a query like `runQuery`, each segment in the given way. -/
def queryBy (engine : Engine) (run : Segment → Table → Session τ (String × Table))
    (query : String) (store : τ) : Outcome τ :=
  match splitQuery query with
  | .error error => ⟨.error (.lex error), [], store⟩
  | .ok split =>
      match engine.startTable split with
      | .error error => ⟨.error error, [], store⟩
      | .ok table => segmentsBy run table store split.segments

/-- Runs what is inside directives like `nestedRun`, each segment in the given way. -/
def nestedBy (engine : Engine) (run : SegmentRun τ) (depth : Nat) : Nat → NestedRun τ
  | 0 =>
      ⟨fun _ => .ofExcept (.error (.policy (.tooDeep (depth + 1) engine.policy.nesting))),
        fun _ _ => .ofExcept (.error (.policy (.tooDeep (depth + 1) engine.policy.nesting)))⟩
  | fuel + 1 =>
      { query := fun query => do
          .ofExcept ((engine.policy.admitDepth (depth + 1)).mapError .policy)
          asSession fun store =>
            engine.queryBy (run (nestedBy engine run (depth + 1) fuel)) query store
        pipeline := fun table text => do
          .ofExcept ((engine.policy.admitDepth (depth + 1)).mapError .policy)
          let segments ← .ofExcept ((splitPipeline text).mapError .lex)
          asSession fun store =>
            segmentsBy (run (nestedBy engine run (depth + 1) fuel)) table store segments }

/-- Runs a query like `execute`, each segment in the given way. -/
def executeBy (engine : Engine) (run : SegmentRun τ) (query : String) (store : τ) : Outcome τ :=
  engine.queryBy (run (engine.nestedBy run 0 (engine.policy.nesting + 1))) query store

/-- Runs a pipeline like `runPipeline`, each segment in the given way. -/
def pipelineBy (engine : Engine) (run : SegmentRun τ) (table : Table) (text : String)
    (store : τ) : Outcome τ :=
  match splitPipeline text with
  | .error error => ⟨.error (.lex error), [], store⟩
  | .ok segments =>
      segmentsBy (run (engine.nestedBy run 0 (engine.policy.nesting + 1))) table store segments

end Runs

end Engine

section Mirrors

variable {τ σ : Type} [LookupStore τ] [LookupStore σ] {likeness : Likeness τ σ}

/-- Outcomes that differ in nothing but stores that are alike. -/
structure Outcome.Mirrors (likeness : Likeness τ σ) (outcome : Outcome τ) (plain : Outcome σ) :
    Prop where
  result : outcome.result = plain.result
  entries : outcome.entries = plain.entries
  store : likeness.alike outcome.store plain.store

/-- A way of carrying out segments that cannot be told from the one of an engine. -/
structure SegmentRun.Mirrors (likeness : Likeness τ σ) (run : SegmentRun τ) (engine : Engine) :
    Prop where
  unexcused : ∀ error, ¬likeness.excuses error
  follows : ∀ {nested plain}, nested.Follows likeness plain → ∀ segment table,
    Session.Follows likeness (run nested segment table) (engine.runSegment plain segment table)

namespace Engine

variable {engine : Engine} {run : Segment → Table → Session τ (String × Table)}
  {plain : NestedRun σ} {store : τ} {other : σ}

theorem segmentsBy_mirrors (unexcused : ∀ error, ¬likeness.excuses error)
    (follows : ∀ segment table,
      Session.Follows likeness (run segment table) (engine.runSegment plain segment table))
    (table : Table) (alike : likeness.alike store other) (segments : List Segment) :
    (segmentsBy run table store segments).Mirrors likeness
      (engine.runSegments plain table other segments) := by
  induction segments generalizing table store other with
  | nil => exact ⟨rfl, rfl, alike⟩
  | cons segment segments induction =>
      have here := follows segment table store other alike
      rw [segmentsBy, runSegments]
      generalize run segment table store = ran at here ⊢
      generalize engine.runSegment plain segment table other = plainRan at here ⊢
      obtain ⟨result, left⟩ := ran
      obtain ⟨plainResult, plainLeft⟩ := plainRan
      obtain ⟨error, -, excuses⟩ | ⟨same, leftAlike⟩ := here
      · exact absurd excuses (unexcused error)
      · -- both segments end in the same way, on stores that are still alike
        cases same
        cases result with
        | error error => exact ⟨rfl, rfl, leftAlike⟩
        | ok made =>
            have later := induction made.2 leftAlike
            exact ⟨later.result, congrArg (List.cons _) later.entries, later.store⟩

theorem queryBy_mirrors (unexcused : ∀ error, ¬likeness.excuses error)
    (follows : ∀ segment table,
      Session.Follows likeness (run segment table) (engine.runSegment plain segment table))
    (query : String) (alike : likeness.alike store other) :
    (engine.queryBy run query store).Mirrors likeness (engine.runQuery plain query other) := by
  rw [queryBy, runQuery]
  cases splitQuery query with
  | error error => exact ⟨rfl, rfl, alike⟩
  | ok split =>
      simp only
      cases engine.startTable split with
      | error error => exact ⟨rfl, rfl, alike⟩
      | ok table => exact segmentsBy_mirrors unexcused follows table alike split.segments

theorem asSession_mirrors {inner : τ → Outcome τ} {plainRun : σ → Outcome σ}
    (mirrors : ∀ {store other}, likeness.alike store other →
      (inner store).Mirrors likeness (plainRun other)) :
    Session.Follows likeness (asSession inner) (asSession plainRun) := by
  intro store other alike
  have made := mirrors alike
  exact .inr ⟨congrArg (Except.mapError DirectiveError.subsearch) made.result, made.store⟩

variable {watched : SegmentRun τ} (mirrors : watched.Mirrors likeness engine)

include mirrors

/-- At every depth the runs cannot be told from the plain ones. -/
theorem nestedBy_follows (depth fuel : Nat) :
    (engine.nestedBy watched depth fuel).Follows likeness (engine.nestedRun depth fuel) := by
  induction fuel generalizing depth with
  | zero => exact ⟨fun _ => .ofExcept _, fun _ _ => .ofExcept _⟩
  | succ fuel induction =>
      have inside := mirrors.follows (induction (depth + 1))
      constructor
      · intro text
        exact (Session.Follows.ofExcept _).bind fun _ =>
          asSession_mirrors fun alike => queryBy_mirrors mirrors.unexcused inside text alike
      · intro table _ text
        refine (Session.Follows.ofExcept _).bind fun _ => ?_
        refine (Session.Follows.ofExcept _).bind fun segments => ?_
        exact asSession_mirrors fun alike =>
          segmentsBy_mirrors mirrors.unexcused inside table alike segments

theorem executeBy_mirrors (query : String) (alike : likeness.alike store other) :
    (engine.executeBy watched query store).Mirrors likeness (engine.execute query other) :=
  queryBy_mirrors mirrors.unexcused (mirrors.follows (nestedBy_follows mirrors 0 _)) query alike

theorem pipelineBy_mirrors (table : Table) (text : String) (alike : likeness.alike store other) :
    (engine.pipelineBy watched table text store).Mirrors likeness
      (engine.runPipeline table text other) := by
  rw [pipelineBy, runPipeline]
  cases splitPipeline text with
  | error error => exact ⟨rfl, rfl, alike⟩
  | ok segments =>
      exact segmentsBy_mirrors mirrors.unexcused
        (mirrors.follows (nestedBy_follows mirrors 0 _)) table alike segments

end Engine

end Mirrors

section Moves

variable {τ : Type} {change : Change τ}

namespace Engine

variable {run : Segment → Table → Session τ (String × Table)}

theorem segmentsBy_moves (moves : ∀ segment table, Session.Moves change (run segment table))
    (table : Table) (store : τ) (segments : List Segment) :
    change.leads store (segmentsBy run table store segments).store := by
  induction segments generalizing table store with
  | nil => exact change.refl store
  | cons segment segments induction =>
      have here := moves segment table store
      rw [segmentsBy]
      generalize run segment table store = ran at here ⊢
      obtain ⟨result, left⟩ := ran
      cases result with
      | error error => exact here
      | ok made => exact change.trans here (induction made.2 left)

theorem queryBy_moves (moves : ∀ segment table, Session.Moves change (run segment table))
    (engine : Engine) (query : String) (store : τ) :
    change.leads store (engine.queryBy run query store).store := by
  rw [queryBy]
  split
  · exact change.refl store
  · split
    · exact change.refl store
    · exact segmentsBy_moves moves _ store _

variable {watched : SegmentRun τ} (engine : Engine)
  (moves : ∀ {nested : NestedRun τ}, nested.Moves change → ∀ segment table,
    Session.Moves change (watched nested segment table))

include moves

theorem nestedBy_moves (depth fuel : Nat) : (engine.nestedBy watched depth fuel).Moves change := by
  induction fuel generalizing depth with
  | zero => exact ⟨fun _ => .ofExcept _, fun _ _ => .ofExcept _⟩
  | succ fuel induction =>
      have inside := moves (induction (depth + 1))
      constructor
      · intro text
        exact (Session.Moves.ofExcept _).bind fun _ =>
          asSession_moves fun store => queryBy_moves inside engine text store
      · intro table text
        refine (Session.Moves.ofExcept _).bind fun _ => ?_
        refine (Session.Moves.ofExcept _).bind fun segments => ?_
        exact asSession_moves fun store => segmentsBy_moves inside table store segments

theorem executeBy_moves (query : String) (store : τ) :
    change.leads store (engine.executeBy watched query store).store :=
  queryBy_moves (moves (nestedBy_moves engine moves 0 _)) engine query store

theorem pipelineBy_moves (table : Table) (text : String) (store : τ) :
    change.leads store (engine.pipelineBy watched table text store).store := by
  rw [pipelineBy]
  split
  · exact change.refl store
  · exact segmentsBy_moves (moves (nestedBy_moves engine moves 0 _)) table store _

end Engine

end Moves

end LogPipe
