import LogPipe.Proofs.Engine.Inlining

/-!
# Nesting ends

Queries, pipelines and macros inside directives run one level deeper, and nothing runs below
the nesting limit.  So how they run is defined by recursion on what is left to the limit: the
fuel of `nestedRun` is only how that recursion is written, and more of it changes nothing.
Macros that call each other without end fail over the limit.
-/

namespace LogPipe

open LogPipe.Query LogPipe.Text

section Unfolding

variable {σ : Type} [LookupStore σ]

/-- Runs inside directives that are all refused, as too deep. -/
def Policy.refusedRun (policy : Policy) (depth : Nat) : NestedRun σ :=
  ⟨fun _ => .ofExcept (.error (.policy (.tooDeep depth policy.nesting))),
    fun _ _ => .ofExcept (.error (.policy (.tooDeep depth policy.nesting)))⟩

namespace Engine

/-- Runs inside directives, when `deeper` is how the runs inside these go. -/
def admittedRun (engine : Engine) (deeper : NestedRun σ) : NestedRun σ where
  query := fun query => asSession fun store => engine.runQuery deeper query store
  pipeline := fun table text => do
    let segments ← .ofExcept ((splitPipeline text).mapError .lex)
    asSession fun store => engine.runSegments deeper table store segments

/-- How queries inside directives are run at a depth, with enough fuel to come to the limit. -/
def inside (engine : Engine) (depth : Nat) : NestedRun σ :=
  engine.nestedRun depth (engine.policy.nesting - depth + 1)

variable {engine : Engine} {depth fuel : Nat}

theorem admittedRun_pipeline {deeper : NestedRun σ} {text : String} {segments : List Segment}
    (split : splitPipeline text = .ok segments) (table : Table) :
    (engine.admittedRun deeper).pipeline table text =
      asSession fun store => engine.runSegments deeper table store segments := by
  simp only [admittedRun, split]
  rfl

theorem nestedRun_succ_of_lt (left : depth < engine.policy.nesting) :
    (engine.nestedRun depth (fuel + 1) : NestedRun σ) =
      engine.admittedRun (engine.nestedRun (depth + 1) fuel) := by
  have admitted : engine.policy.admitDepth (depth + 1) = .ok () :=
    Policy.admitDepth_eq_ok_iff.mpr left
  rw [nestedRun, admitted]
  rfl

/-- At the limit the runs are refused, whether or not there is fuel left. -/
theorem nestedRun_of_le (reached : engine.policy.nesting ≤ depth) :
    (engine.nestedRun depth fuel : NestedRun σ) = engine.policy.refusedRun (depth + 1) := by
  cases fuel with
  | zero => rfl
  | succ fuel =>
      have refused : engine.policy.admitDepth (depth + 1) =
          .error (.tooDeep (depth + 1) engine.policy.nesting) :=
        if_pos (Nat.lt_succ_of_le reached)
      rw [nestedRun, refused]
      rfl

/-- More fuel than there are levels left to the limit changes nothing. -/
theorem nestedRun_eq_inside (enough : engine.policy.nesting - depth < fuel) :
    (engine.nestedRun depth fuel : NestedRun σ) = engine.inside depth := by
  induction fuel generalizing depth with
  | zero => exact absurd enough (Nat.not_lt_zero _)
  | succ fuel induction =>
      by_cases left : depth < engine.policy.nesting
      · have less : engine.policy.nesting - (depth + 1) < fuel := by omega
        have levels : engine.policy.nesting - depth = engine.policy.nesting - (depth + 1) + 1 := by
          omega
        rw [inside, nestedRun_succ_of_lt left, nestedRun_succ_of_lt left, induction less, levels,
          ← inside]
      · rw [inside, nestedRun_of_le (Nat.le_of_not_lt left),
          nestedRun_of_le (Nat.le_of_not_lt left)]

/-- The recursion on what is left to the limit. -/
theorem inside_eq (engine : Engine) (depth : Nat) :
    (engine.inside depth : NestedRun σ) =
      if depth < engine.policy.nesting then engine.admittedRun (engine.inside (depth + 1))
      else engine.policy.refusedRun (depth + 1) := by
  split
  · next left =>
      rw [inside, nestedRun_succ_of_lt left, nestedRun_eq_inside (by omega)]
  · next reached => exact nestedRun_of_le (Nat.le_of_not_lt reached)

theorem inside_zero (engine : Engine) : (engine.inside 0 : NestedRun σ) = engine.nested :=
  rfl

end Engine

end Unfolding

section Levels

/-- A store with the depths at which something has been run, the last one first. -/
structure Levelled (σ : Type) where
  store : σ
  depths : List Nat := []

variable {σ : Type}

/-- Notes a depth. -/
def Levelled.enter (levelled : Levelled σ) (depth : Nat) : Levelled σ :=
  { levelled with depths := depth :: levelled.depths }

/-- No noted depth is above the limit. -/
def Levelled.Within (limit : Nat) (levelled : Levelled σ) : Prop :=
  ∀ depth ∈ levelled.depths, depth ≤ limit

theorem Levelled.Within.enter {limit depth : Nat} {levelled : Levelled σ}
    (within : levelled.Within limit) (below : depth ≤ limit) :
    (levelled.enter depth).Within limit :=
  List.forall_mem_cons.mpr ⟨below, within⟩

variable [LookupStore σ]

instance : LookupStore (Levelled σ) where
  load := fun levelled name => LookupStore.load levelled.store name
  save := fun levelled name table mode =>
    let (result, store) := LookupStore.save levelled.store name table mode
    (result, { levelled with store := store })

/-- A store with depths up to a limit is alike to the one without them, and nothing is
excused. -/
def Levelled.upTo (σ : Type) [LookupStore σ] (limit : Nat) : Likeness (Levelled σ) σ where
  alike := fun levelled store => levelled.store = store ∧ levelled.Within limit
  excuses := fun _ => False
  starts := fun _ => True
  load_eq := by
    rintro _ _ ⟨rfl, -⟩ name
    rfl
  save_alike := by
    rintro _ _ ⟨rfl, within⟩ name table mode
    exact ⟨rfl, rfl, within⟩

/-- The outcome without the depths is the other one, and the depths are at most a limit. -/
structure Outcome.Levels (limit : Nat) (outcome : Outcome (Levelled σ)) (plain : Outcome σ) :
    Prop where
  result : outcome.result = plain.result
  entries : outcome.entries = plain.entries
  store : outcome.store.store = plain.store
  depths : outcome.store.Within limit

namespace Engine

/-- Runs what is inside directives like `nestedRun`, and notes the depth of every query and
of every pipeline when it starts. -/
def levelNested (engine : Engine) (depth : Nat) : Nat → NestedRun (Levelled σ)
  | 0 => engine.policy.refusedRun (depth + 1)
  | fuel + 1 =>
      { query := fun query => do
          .ofExcept ((engine.policy.admitDepth (depth + 1)).mapError .policy)
          asSession fun levelled =>
            engine.runQuery (levelNested engine (depth + 1) fuel) query
              (levelled.enter (depth + 1))
        pipeline := fun table text => do
          .ofExcept ((engine.policy.admitDepth (depth + 1)).mapError .policy)
          let segments ← .ofExcept ((splitPipeline text).mapError .lex)
          asSession fun levelled =>
            engine.runSegments (levelNested engine (depth + 1) fuel) table
              (levelled.enter (depth + 1)) segments }

/-- Runs a query like `execute`, and notes the depths of what runs inside it. -/
def levelExecute (engine : Engine) (query : String) (store : σ) : Outcome (Levelled σ) :=
  engine.runQuery (engine.levelNested 0 (engine.policy.nesting + 1)) query ⟨store, [0]⟩

/-- Runs a pipeline like `runPipeline`, and notes the depths of what runs inside it. -/
def levelPipeline (engine : Engine) (table : Table) (text : String) (store : σ) :
    Outcome (Levelled σ) :=
  match splitPipeline text with
  | .error error => ⟨.error (.lex error), [], ⟨store, [0]⟩⟩
  | .ok segments =>
      engine.runSegments (engine.levelNested 0 (engine.policy.nesting + 1)) table ⟨store, [0]⟩
        segments

variable {engine : Engine} {limit : Nat} {levelled : NestedRun (Levelled σ)}
  {plain : NestedRun σ}

section Inside

variable (follows : levelled.Follows (Levelled.upTo σ limit) plain) {state : Levelled σ}
  (within : state.Within limit)

include follows within

theorem levels_runSegments (table : Table) (segments : List Segment) :
    (engine.runSegments levelled table state segments).Levels limit
      (engine.runSegments plain table state.store segments) := by
  induction segments generalizing table state with
  | nil => exact ⟨rfl, rfl, rfl, within⟩
  | cons segment segments induction =>
      have starts : (Levelled.upTo σ limit).starts table := trivial
      have here := runSegment_follows follows (.refl engine) starts (fun _ _ => .ofExcept _)
        segment state state.store ⟨rfl, within⟩
      rw [runSegments, runSegments]
      generalize engine.runSegment levelled segment table state = ran at here ⊢
      generalize engine.runSegment plain segment table state.store = plainRan at here ⊢
      obtain ⟨result, next⟩ := ran
      obtain ⟨plainResult, plainNext⟩ := plainRan
      obtain ⟨_, _, absurd⟩ | ⟨same, alike, kept⟩ := here
      · exact absurd.elim
      · cases same
        cases alike
        cases result with
        | error error => exact ⟨rfl, rfl, rfl, kept⟩
        | ok made =>
            have later := induction kept made.2
            exact ⟨later.result, congrArg (List.cons _) later.entries, later.store, later.depths⟩

theorem levels_runQuery (query : String) :
    (engine.runQuery levelled query state).Levels limit
      (engine.runQuery plain query state.store) := by
  rw [runQuery, runQuery]
  cases splitQuery query with
  | error error => exact ⟨rfl, rfl, rfl, within⟩
  | ok split =>
      simp only
      cases engine.startTable split with
      | error error => exact ⟨rfl, rfl, rfl, within⟩
      | ok table => exact levels_runSegments follows within table split.segments

end Inside

theorem asSession_levels {run : Levelled σ → Outcome (Levelled σ)} {plainRun : σ → Outcome σ}
    (levels : ∀ state, state.Within limit → (run state).Levels limit (plainRun state.store)) :
    Session.Follows (Levelled.upTo σ limit) (asSession run) (asSession plainRun) := by
  rintro state _ ⟨rfl, within⟩
  have done := levels state within
  rw [asSession, asSession, ← done.result, ← done.store]
  exact .inr ⟨rfl, rfl, done.depths⟩

/-- What passes the check of its depth starts within the limit. -/
theorem levelNested_follows (engine : Engine) (depth fuel : Nat) :
    (engine.levelNested depth fuel).Follows (Levelled.upTo σ engine.policy.nesting)
      (engine.nestedRun depth fuel) := by
  induction fuel generalizing depth with
  | zero => exact ⟨fun _ => .ofExcept _, fun _ _ => .ofExcept _⟩
  | succ fuel induction =>
      have inside := induction (depth + 1)
      rw [levelNested, nestedRun]
      cases admitted : engine.policy.admitDepth (depth + 1) with
      | error error => exact ⟨fun _ => .ofExcept (.error _), fun _ _ => .ofExcept (.error _)⟩
      | ok done =>
          have below := Policy.admitDepth_eq_ok_iff.mp admitted
          constructor
          · intro text
            exact (Session.Follows.ofExcept _).bind fun _ =>
              asSession_levels fun state within => levels_runQuery inside (within.enter below) text
          · intro table _ text
            exact (Session.Follows.ofExcept _).bind fun _ =>
              (Session.Follows.ofExcept _).bind fun segments =>
                asSession_levels fun state within =>
                  levels_runSegments inside (within.enter below) table segments

omit [LookupStore σ] in
theorem within_start (limit : Nat) (store : σ) : (⟨store, [0]⟩ : Levelled σ).Within limit :=
  List.forall_mem_singleton.mpr (Nat.zero_le _)

theorem levels_levelExecute (engine : Engine) (query : String) (store : σ) :
    (engine.levelExecute query store).Levels engine.policy.nesting (engine.execute query store) :=
  levels_runQuery (engine.levelNested_follows 0 _) (within_start _ store) query

theorem levels_levelPipeline (engine : Engine) (table : Table) (text : String) (store : σ) :
    (engine.levelPipeline table text store).Levels engine.policy.nesting
      (engine.runPipeline table text store) := by
  rw [levelPipeline, runPipeline]
  cases splitPipeline text with
  | error error => exact ⟨rfl, rfl, rfl, within_start _ store⟩
  | ok segments =>
      exact levels_runSegments (engine.levelNested_follows 0 _) (within_start _ store) table
        segments

end Engine

end Levels

mutual

/-- What a policy refuses at the root of the error, however deep it lies. -/
def DirectiveError.refusal? : DirectiveError → Option PolicyError
  | .policy error => some error
  | .subsearch error => error.refusal?
  | _ => none

/-- What a policy refuses at the root of the error, however deep it lies. -/
def QueryError.refusal? : QueryError → Option PolicyError
  | .policy error => some error
  | .directive _ _ error => error.refusal?
  | _ => none

end

section Cycles

/-- The segment calls the macro of a name. -/
def Query.Segment.Calls (segment : Segment) (name : String) : Prop :=
  ∃ invocation call, Invocation.ofSegment? segment = some invocation ∧
    invocation.directive = .macroCall ∧ invocation.arguments = [] ∧
    MacroCall.ofText? invocation.keyword.unquoted = some call ∧ call.name = name

theorem Text.replaceFrom_eq_self {c : Char} {text : List Char} (absent : c ∉ text)
    (pattern replacement : List Char) : replaceFrom (c :: pattern) replacement 0 text = text := by
  induction text with
  | nil => rfl
  | cons d rest induction =>
      simp only [List.mem_cons, not_or] at absent
      simp [replaceFrom, absent.1, induction absent.2]

namespace Macros

variable {macros : Macros}

/-- Arguments replace nothing in a template without placeholders. -/
theorem substitute_eq_self {template : String} (plain : '$' ∉ template.toList)
    (arguments : List (String × String)) : substitute template arguments = template := by
  induction arguments with
  | nil => rfl
  | cons argument arguments induction =>
      have kept : replaceAll template ("$" ++ argument.1 ++ "$") argument.2 = template := by
        simp [replaceAll, replaceFrom_eq_self plain]
      rw [substitute, List.foldl_cons, kept]
      exact induction

/-- The segment is a macro call that stands for one of some texts. -/
def StandsFor (macros : Macros) (segment : Segment) (texts : String → Prop) : Prop :=
  ∃ invocation text, Invocation.ofSegment? segment = some invocation ∧
    invocation.directive = .macroCall ∧ Subsearch.expansion macros invocation = .ok text ∧
    texts text

/-- Each of the texts starts with a macro call that stands for one of them again. -/
def Endless (macros : Macros) (texts : String → Prop) : Prop :=
  ∀ text, texts text → ∃ segment segments,
    Engine.splitPipeline text = .ok (segment :: segments) ∧ macros.StandsFor segment texts

/-- The template starts with a call of its own macro, whatever the arguments are. -/
def CallsItself (macros : Macros) (name : String) : Prop :=
  ∃ template, macros.lookup name = some template ∧ ∀ arguments, ∃ segment segments,
    Engine.splitPipeline (substitute template arguments) = .ok (segment :: segments) ∧
      segment.Calls name

theorem CallsItself.of_plain {name template : String}
    (known : macros.lookup name = some template) (plain : '$' ∉ template.toList)
    {segment : Segment} {segments : List Segment}
    (split : Engine.splitPipeline template = .ok (segment :: segments))
    (calls : segment.Calls name) : macros.CallsItself name :=
  ⟨template, known, fun arguments =>
    ⟨segment, segments, by rwa [substitute_eq_self plain arguments], calls⟩⟩

theorem standsFor_of_calls {name template : String} (known : macros.lookup name = some template)
    {segment : Segment} (calls : segment.Calls name) :
    macros.StandsFor segment fun text => ∃ arguments, text = substitute template arguments := by
  obtain ⟨invocation, call, resolved, called, noArguments, read, rfl⟩ := calls
  refine ⟨invocation, substitute template call.arguments, resolved, called, ?_, _, rfl⟩
  simp [Subsearch.expansion, noArguments, read, expand?, known]

/-- The instances of a template that calls itself are endless. -/
theorem CallsItself.exists_endless {name : String} (cyclic : macros.CallsItself name) :
    ∃ texts, macros.Endless texts ∧
      ∀ segment, segment.Calls name → macros.StandsFor segment texts := by
  obtain ⟨template, known, calls⟩ := cyclic
  refine ⟨fun text => ∃ arguments, text = substitute template arguments, ?_,
    fun _ => standsFor_of_calls known⟩
  rintro _ ⟨arguments, rfl⟩
  obtain ⟨segment, segments, split, again⟩ := calls arguments
  exact ⟨segment, segments, split, standsFor_of_calls known again⟩

end Macros

variable {σ : Type} [LookupStore σ] {engine : Engine} {texts : String → Prop}

/-- A session that leaves the store as it is and fails, because something would be one level
below the limit. -/
def Session.FailsTooDeep {α : Type} (session : Session σ α) (limit : Nat) : Prop :=
  ∀ store, ∃ error, session store = (.error error, store) ∧
    error.refusal? = some (.tooDeep (limit + 1) limit)

namespace Engine

/-- A segment that stands for texts whose pipelines fail this way fails this way itself. -/
theorem runSegment_failsTooDeep {nested : NestedRun σ} {segment : Segment}
    (stands : engine.macros.StandsFor segment texts) {limit : Nat} {table : Table}
    (fails : ∀ text, texts text → (nested.pipeline table text).FailsTooDeep limit) :
    (engine.runSegment nested segment table).FailsTooDeep limit := by
  obtain ⟨invocation, text, resolved, called, expanded, member⟩ := stands
  intro store
  obtain ⟨error, failed, refused⟩ := fails text member store
  refine ⟨error, ?_, refused⟩
  have applied : engine.apply nested table invocation store = (.error error, store) := by
    rw [apply, called, Subsearch.macroCall, expanded]
    exact failed
  rw [runSegment, resolved]
  simp only [Session.bind_apply, applied]

/-- Endless macros run down to the limit, from every level above it.  The induction is on the
levels that are left. -/
theorem pipeline_failsTooDeep (endless : engine.macros.Endless texts) {depth : Nat}
    (above : depth ≤ engine.policy.nesting) (table : Table) {text : String} (member : texts text) :
    ((engine.inside depth : NestedRun σ).pipeline table text).FailsTooDeep
      engine.policy.nesting := by
  induction left : engine.policy.nesting - depth generalizing depth text with
  | zero =>
      obtain rfl : depth = engine.policy.nesting := by omega
      intro store
      rw [inside_eq, if_neg (Nat.lt_irrefl _)]
      exact ⟨_, rfl, rfl⟩
  | succ left induction =>
      have deeper : depth < engine.policy.nesting := by omega
      obtain ⟨segment, segments, split, stands⟩ := endless text member
      have first : (engine.runSegment (engine.inside (depth + 1) : NestedRun σ) segment
          table).FailsTooDeep engine.policy.nesting :=
        runSegment_failsTooDeep stands fun _ again => induction deeper again (by omega)
      intro store
      obtain ⟨error, failed, refused⟩ := first store
      refine ⟨.subsearch (.directive segment.index segment.keywordText error), ?_, refused⟩
      rw [inside_eq, if_pos deeper, admittedRun_pipeline split]
      simp only [asSession, runSegments, failed]
      rfl

theorem segment_failsTooDeep (endless : engine.macros.Endless texts) {depth : Nat}
    (above : depth ≤ engine.policy.nesting) {segment : Segment}
    (stands : engine.macros.StandsFor segment texts) (table : Table) :
    (engine.runSegment (engine.inside depth : NestedRun σ) segment table).FailsTooDeep
      engine.policy.nesting :=
  runSegment_failsTooDeep stands fun _ member => pipeline_failsTooDeep endless above table member

/-- Runs end, and the nesting limit bounds them.  How queries inside directives are run is
defined by recursion on what is left to the limit, and fuel beyond it changes nothing.  With
the depths noted that queries and pipelines start at, a run is the same run, and no depth is
above the limit.  Macros that start with calls of each other without end fail one level below
the limit, wherever they are called, and so does a macro that calls itself. -/
theorem nesting_ends {σ : Type} [LookupStore σ] (engine : Engine) (store : σ) :
    (∀ depth, (engine.inside depth : NestedRun σ) =
      if depth < engine.policy.nesting then engine.admittedRun (engine.inside (depth + 1))
      else engine.policy.refusedRun (depth + 1)) ∧
    (∀ depth fuel, engine.policy.nesting - depth < fuel →
      (engine.nestedRun depth fuel : NestedRun σ) = engine.inside depth) ∧
    (∀ query, engine.execute query store = engine.runQuery (engine.inside 0) query store ∧
      (∀ fuel, engine.policy.nesting + 1 ≤ fuel →
        engine.runQuery (engine.nestedRun 0 fuel) query store = engine.execute query store) ∧
      (engine.levelExecute query store).Levels engine.policy.nesting
        (engine.execute query store)) ∧
    (∀ table text, (engine.levelPipeline table text store).Levels engine.policy.nesting
      (engine.runPipeline table text store)) ∧
    (∀ texts, engine.macros.Endless texts → ∀ depth ≤ engine.policy.nesting, ∀ segment,
      engine.macros.StandsFor segment texts → ∀ table,
        (engine.runSegment (engine.inside depth : NestedRun σ) segment table).FailsTooDeep
          engine.policy.nesting) ∧
    ∀ name, engine.macros.CallsItself name → ∀ depth ≤ engine.policy.nesting, ∀ segment,
      segment.Calls name → ∀ table,
        (engine.runSegment (engine.inside depth : NestedRun σ) segment table).FailsTooDeep
          engine.policy.nesting := by
  refine ⟨engine.inside_eq, fun _ _ => nestedRun_eq_inside, fun query => ⟨rfl, ?_, ?_⟩, ?_, ?_, ?_⟩
  · intro fuel enough
    rw [nestedRun_eq_inside enough, inside_zero, execute]
  · exact engine.levels_levelExecute query store
  · exact fun table text => engine.levels_levelPipeline table text store
  · exact fun _ endless _ above _ stands => segment_failsTooDeep endless above stands
  · intro name cyclic depth above segment calls
    obtain ⟨texts, endless, stands⟩ := cyclic.exists_endless
    exact segment_failsTooDeep endless above (stands segment calls)

/-- The segment that calls a macro with an argument. -/
def loopCall : Segment :=
  ⟨0, "\x60loop(host=a)\x60", [⟨.quotedLiteral, "\x60loop(host=a)\x60", 0⟩]⟩

/-- An engine with two levels and a macro that calls itself. -/
def loopEngine : Engine :=
  { webEngine with
    policy := { nesting := 2 }
    macros := [("loop", "\x60loop(host=a)\x60 | head 1")] }

/-- The macro fails wherever it is called.  In a query inside a query it starts at the limit,
but no deeper. -/
theorem nesting_ends_loop :
    loopEngine.macros.CallsItself "loop" ∧
    (∀ depth ≤ 2, (loopEngine.runSegment (loopEngine.inside depth : NestedRun LookupMemory) loopCall
      webRequests).FailsTooDeep 2) ∧
    (∃ error, (loopEngine.execute "index=web | append [index=web | \x60loop\x60]"
      hostOwners).result = .error error ∧ error.refusal? = some (.tooDeep 3 2)) ∧
    (loopEngine.levelExecute "index=web | append [index=web | \x60loop\x60]"
      hostOwners).store.depths = [2, 1, 0] := by
  have calls : loopCall.Calls "loop" :=
    ⟨_, ⟨"loop", [("host", "a")]⟩, rfl, by decide +kernel, by decide +kernel, by decide +kernel,
      rfl⟩
  have cyclic : loopEngine.macros.CallsItself "loop" := by
    have split : splitPipeline "\x60loop(host=a)\x60 | head 1" = .ok [loopCall,
        ⟨1, "head 1", [⟨.identifier, "head", 0⟩, ⟨.number, "1", 5⟩]⟩] :=
      Except.toOption_eq_some_iff.mp (by decide +kernel)
    exact .of_plain rfl (by decide) split calls
  obtain ⟨-, -, -, -, -, loops⟩ := nesting_ends loopEngine hostOwners
  obtain ⟨error, failed, refused⟩ := Except.mapError_eq_error_iff.mp <|
    Except.map_eq_error_iff.mp
      (show ((loopEngine.execute "index=web | append [index=web | \x60loop\x60]"
        hostOwners).result.mapError QueryError.refusal?).map Table.rows =
          .error (some (.tooDeep 3 2)) by decide +kernel)
  exact ⟨cyclic, fun depth above => loops "loop" cyclic depth above loopCall calls webRequests,
    ⟨error, failed, refused⟩, by decide +kernel⟩

end Engine

end Cycles

end LogPipe
