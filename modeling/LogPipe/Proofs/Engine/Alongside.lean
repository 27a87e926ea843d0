import LogPipe.Engine.Run

/-!
# Runs side by side

Two sessions are run on two stores that are alike.  The second follows the first when it
ends with the same result and leaves stores that are still alike, unless the first fails
with an error that excuses the second.  What is alike, and which errors excuse, is left
open: the runs may be of two engines, or one may keep notes.  Directives reach the engine
only through its defaults, the store and the runs inside them, so a segment follows as soon
as the runs inside it do.
-/

namespace LogPipe

open LogPipe.Query

/-- What runs side by side have in common.  Loading sees no difference between stores that
are alike, and saving keeps them alike. -/
structure Likeness (σ τ : Type) [LookupStore σ] [LookupStore τ] where
  alike : σ → τ → Prop
  /-- The errors of the first run after which nothing is said of the second. -/
  excuses : DirectiveError → Prop
  /-- The tables that the pipelines inside directives may start from. -/
  starts : Table → Prop
  load_eq : ∀ {store other}, alike store other → ∀ name,
    LookupStore.load store name = LookupStore.load other name
  save_alike : ∀ {store other}, alike store other → ∀ name table mode,
    (LookupStore.save store name table mode).1 = (LookupStore.save other name table mode).1 ∧
      alike (LookupStore.save store name table mode).2 (LookupStore.save other name table mode).2

namespace Session

variable {σ τ α β : Type}

/-- What comes later runs on the store that the first part leaves behind, unless that
failed. -/
theorem bind_apply (first : Session σ α) (later : α → Session σ β) (store : σ) :
    (first >>= later) store =
      match first store with
      | (.ok value, store) => later value store
      | (.error error, store) => (.error error, store) := by
  simp only [bind, ExceptT.bind, ExceptT.mk, StateT.bind, ExceptT.bindCont]
  cases first store with
  | mk result left => cases result <;> rfl

/-- A session that ends well has parts that do. -/
theorem exists_of_bind_eq_ok {first : Session σ α} {later : α → Session σ β} {store left : σ}
    {result : β} (done : (first >>= later) store = (.ok result, left)) :
    ∃ value middle, first store = (.ok value, middle) ∧
      later value middle = (.ok result, left) := by
  rw [bind_apply] at done
  generalize first store = ran at done ⊢
  obtain ⟨value, middle⟩ := ran
  cases value with
  | error error => cases done
  | ok value => exact ⟨value, middle, rfl, done⟩

variable [LookupStore σ] [LookupStore τ]

/-- The second session follows the first on stores that are alike. -/
def Follows (likeness : Likeness σ τ) (first : Session σ α) (second : Session τ α) : Prop :=
  ∀ store other, likeness.alike store other →
    (∃ error, (first store).1 = .error error ∧ likeness.excuses error) ∨
      (first store).1 = (second other).1 ∧ likeness.alike (first store).2 (second other).2

namespace Follows

variable {likeness : Likeness σ τ}

theorem ofExcept (result : Except DirectiveError α) :
    Follows likeness (Session.ofExcept result) (Session.ofExcept result) :=
  fun _ _ alike => .inr ⟨rfl, alike⟩

theorem value (value : α) : Follows likeness (pure value) (pure value) :=
  fun _ _ alike => .inr ⟨rfl, alike⟩

theorem excused {error : DirectiveError} (excuses : likeness.excuses error)
    (second : Session τ α) : Follows likeness (Session.ofExcept (.error error)) second :=
  fun _ _ _ => .inl ⟨error, rfl, excuses⟩

theorem bind {first : Session σ α} {second : Session τ α} {later : α → Session σ β}
    {laterSecond : α → Session τ β} (follows : Follows likeness first second)
    (laterFollows : ∀ value, Follows likeness (later value) (laterSecond value)) :
    Follows likeness (first >>= later) (second >>= laterSecond) := by
  intro store other alike
  have here := follows store other alike
  rw [bind_apply, bind_apply]
  generalize first store = ran at here ⊢
  generalize second other = otherRan at here ⊢
  obtain ⟨result, left⟩ := ran
  obtain ⟨otherResult, otherLeft⟩ := otherRan
  obtain ⟨error, failed, excuses⟩ | ⟨same, leftAlike⟩ := here
  · cases failed
    exact .inl ⟨error, rfl, excuses⟩
  · cases same
    cases result with
    | error error => exact .inr ⟨rfl, leftAlike⟩
    | ok value => exact laterFollows value left otherLeft leftAlike

theorem load (name : String) : Follows likeness (Session.load name) (Session.load name) :=
  fun _ _ alike => .inr ⟨congrArg (Except.mapError _) (likeness.load_eq alike name), alike⟩

theorem save (name : String) (table : Table) (mode : SaveMode) :
    Follows likeness (Session.save name table mode) (Session.save name table mode) := by
  intro store other alike
  obtain ⟨same, leftAlike⟩ := likeness.save_alike alike name table mode
  exact .inr ⟨congrArg (Except.mapError DirectiveError.lookup) same, leftAlike⟩

end Follows

end Session

variable {σ τ : Type} [LookupStore σ] [LookupStore τ]

/-- Runs inside a directive that follow other ones. -/
structure NestedRun.Follows (likeness : Likeness σ τ) (first : NestedRun σ)
    (second : NestedRun τ) : Prop where
  query : ∀ text, Session.Follows likeness (first.query text) (second.query text)
  pipeline : ∀ {table}, likeness.starts table → ∀ text,
    Session.Follows likeness (first.pipeline table text) (second.pipeline table text)

variable {likeness : Likeness σ τ}

namespace Lookups

variable (table : Table) (invocation : Invocation)

theorem lookup_follows :
    Session.Follows likeness (lookup table invocation) (lookup table invocation) := by
  rw [lookup.eq_def, lookup.eq_def]
  simp only
  split
  · exact .ofExcept _
  · exact .ofExcept _
  · exact (Session.Follows.load _).bind fun _ => (Session.Follows.ofExcept _).bind fun _ =>
      .ofExcept _

theorem input_follows : Session.Follows likeness (input invocation) (input invocation) :=
  (Session.Follows.ofExcept _).bind fun name => .load name

theorem output_follows :
    Session.Follows likeness (output table invocation) (output table invocation) :=
  (Session.Follows.ofExcept _).bind fun mode => (Session.Follows.ofExcept _).bind fun name =>
    (Session.Follows.save name table mode).bind fun _ => .value table

end Lookups

variable {first : NestedRun σ} {second : NestedRun τ} (follows : first.Follows likeness second)
  {table : Table} (invocation : Invocation)

namespace Subsearch

include follows

theorem runAll_follows (queries : List String) :
    Session.Follows likeness (runAll first queries) (runAll second queries) := by
  induction queries with
  | nil => exact .value []
  | cons query queries induction =>
      exact (follows.query query).bind fun _ => induction.bind fun _ => .value _

theorem join_follows :
    Session.Follows likeness (join first table invocation) (join second table invocation) :=
  (Session.Follows.ofExcept _).bind fun query => (Session.Follows.ofExcept _).bind fun _ =>
    (follows.query query).bind fun _ => .ofExcept _

theorem append_follows :
    Session.Follows likeness (append first table invocation) (append second table invocation) :=
  (Session.Follows.ofExcept _).bind fun query => (follows.query query).bind fun _ => .value _

theorem multiSearch_follows :
    Session.Follows likeness (multiSearch first invocation) (multiSearch second invocation) := by
  rw [multiSearch, multiSearch]
  split
  · exact .ofExcept _
  · split
    · exact .ofExcept _
    · exact (runAll_follows follows _).bind fun _ => .value _

variable (starts : likeness.starts table)

include starts

theorem appendPipe_follows :
    Session.Follows likeness (appendPipe first table invocation)
      (appendPipe second table invocation) :=
  (Session.Follows.ofExcept _).bind fun text =>
    (follows.pipeline starts text).bind fun _ => .value _

theorem macroCall_follows (macros : Macros) :
    Session.Follows likeness (macroCall first macros table invocation)
      (macroCall second macros table invocation) :=
  (Session.Follows.ofExcept _).bind fun text => follows.pipeline starts text

end Subsearch

theorem Aggregation.timechart_congr {policy other : Policy} (span : policy.span = other.span) :
    timechart policy table invocation = timechart other table invocation := by
  rw [timechart, timechart, span]

theorem Aggregation.bin_congr {policy other : Policy} (span : policy.span = other.span) :
    bin policy table invocation = bin other table invocation := by
  simp only [bin, span]

theorem Shape.head_congr {policy other : Policy} (count : policy.headCount = other.headCount) :
    head policy table invocation = head other table invocation := by
  simp only [head, headCount, count]

namespace Engine

/-- A segment ends well when its directive does and the size of the table is admitted. -/
theorem runSegment_eq_ok_iff {engine : Engine} {nested : NestedRun σ} {segment : Segment}
    {table next : Table} {name : String} {store left : σ} :
    engine.runSegment nested segment table store = (.ok (name, next), left) ↔
      ∃ invocation, Invocation.ofSegment? segment = some invocation ∧
        invocation.directive.name = name ∧
        engine.apply nested table invocation store = (.ok next, left) ∧
        engine.policy.admitRows name next.rows = .ok () := by
  rw [runSegment]
  cases Invocation.ofSegment? segment with
  | none =>
      constructor
      · rintro ⟨⟩
      · rintro ⟨_, ⟨⟩, -⟩
  | some invocation =>
      simp only [Session.bind_apply, Option.some.injEq, exists_eq_left']
      constructor
      · intro ran
        cases applied : engine.apply nested table invocation store with
        | mk result middle =>
            rw [applied] at ran
            cases result with
            | error error => cases ran
            | ok made =>
                cases passed : engine.policy.admitRows invocation.directive.name made.rows with
                | error error =>
                    simp only [passed] at ran
                    cases ran
                | ok done =>
                    simp only [passed] at ran
                    cases ran
                    exact ⟨rfl, rfl, passed⟩
      · rintro ⟨rfl, applied, passed⟩
        rw [applied]
        simp only [passed]
        rfl

/-- Engines that differ in nothing but the limits of their policies. -/
structure AgreeButLimits (engine other : Engine) : Prop where
  seed : engine.seed = other.seed
  indexes : engine.indexes = other.indexes
  macros : engine.macros = other.macros
  headCount : engine.policy.headCount = other.policy.headCount
  span : engine.policy.span = other.policy.span

theorem AgreeButLimits.refl (engine : Engine) : engine.AgreeButLimits engine :=
  ⟨rfl, rfl, rfl, rfl, rfl⟩

variable {engine other : Engine} (agree : engine.AgreeButLimits other)

include follows agree

theorem apply_follows (starts : likeness.starts table) :
    Session.Follows likeness (engine.apply first table invocation)
      (other.apply second table invocation) := by
  rw [apply, apply]
  cases invocation.directive with
  | lookup => exact Lookups.lookup_follows table invocation
  | inputLookup => exact Lookups.input_follows invocation
  | outputLookup => exact Lookups.output_follows table invocation
  | join => exact Subsearch.join_follows follows invocation
  | append => exact Subsearch.append_follows follows invocation
  | multiSearch => exact Subsearch.multiSearch_follows follows invocation
  | appendPipe => exact Subsearch.appendPipe_follows follows invocation starts
  | macroCall =>
      rw [agree.macros]
      exact Subsearch.macroCall_follows follows invocation starts other.macros
  | eval =>
      rw [agree.seed]
      exact .ofExcept _
  | timechart =>
      rw [Aggregation.timechart_congr invocation agree.span]
      exact .ofExcept _
  | bin =>
      rw [Aggregation.bin_congr invocation agree.span]
      exact .ofExcept _
  | head =>
      rw [Shape.head_congr invocation agree.headCount]
      exact .ofExcept _
  | _ => exact .ofExcept _

/-- A segment follows when the check of its size does. -/
theorem runSegment_follows (starts : likeness.starts table)
    (admits : ∀ subject rows, Session.Follows likeness
      (.ofExcept ((engine.policy.admitRows subject rows).mapError .policy))
      (.ofExcept ((other.policy.admitRows subject rows).mapError .policy)))
    (segment : Segment) :
    Session.Follows likeness (engine.runSegment first segment table)
      (other.runSegment second segment table) := by
  rw [runSegment, runSegment]
  split
  · exact .ofExcept _
  · exact (apply_follows follows _ agree starts).bind fun _ =>
      (admits _ _).bind fun _ => .value _

end Engine

end LogPipe
