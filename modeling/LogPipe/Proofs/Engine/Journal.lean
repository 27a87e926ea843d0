import LogPipe.Proofs.Engine.Instrumentation
import LogPipe.Proofs.Engine.Invariant
import LogPipe.Proofs.Lookup.Memory

/-!
# Journals

A journalled run does what a run does, and besides notes every directive that has been carried
out, in the order in which they end: those of the query itself and those of the queries that
its directives run, also when a later one fails or the size of a table is not admitted.
Without its journal a journalled run is the run.

The store that a run leaves behind can be worked out from its journal alone: the directives
that save are those called `outputlookup`, and what they save is the table that enters them
and leaves them.
-/

namespace LogPipe

open LogPipe.Query

/-- A directive that has been carried out, with the tables that entered and left it. -/
structure Completion where
  invocation : Invocation
  before : Table
  after : Table
deriving DecidableEq, Repr

structure Journalled (σ : Type) where
  store : σ
  completions : List Completion := []

namespace Journalled

variable {σ : Type}

def note (journalled : Journalled σ) (completion : Completion) : Journalled σ :=
  { journalled with completions := journalled.completions ++ [completion] }

def noting (completion : Completion) : Session (Journalled σ) Unit :=
  fun journalled => (.ok (), journalled.note completion)

instance [LookupStore σ] : LookupStore (Journalled σ) where
  load := fun journalled name => LookupStore.load journalled.store name
  save := fun journalled name table mode =>
    let (result, store) := LookupStore.save journalled.store name table mode
    (result, { journalled with store := store })

end Journalled

/-- The outcome without the journal. -/
def Outcome.unjournalled {σ : Type} (outcome : Outcome (Journalled σ)) : Outcome σ :=
  ⟨outcome.result, outcome.entries, outcome.store.store⟩

namespace Engine

variable {σ : Type} [LookupStore σ]

/-- Carries out a segment like `runSegment`.  The directive is noted as soon as it has been
carried out. -/
def journalSegment (engine : Engine) : SegmentRun (Journalled σ) := fun nested segment table =>
  match Invocation.ofSegment? segment with
  | none => .ofExcept (.error (.unknownDirective segment.keywordText))
  | some invocation => do
      let name := invocation.directive.name
      let next ← engine.apply nested table invocation
      Journalled.noting ⟨invocation, table, next⟩
      .ofExcept ((engine.policy.admitRows name next.rows).mapError .policy)
      pure (name, next)

/-- Runs a query against a store like `execute`, with a journal. -/
def journalExecute (engine : Engine) (query : String) (store : σ) : Outcome (Journalled σ) :=
  engine.executeBy engine.journalSegment query ⟨store, []⟩

/-- Runs a pipeline over a table like `runPipeline`, with a journal. -/
def journalPipeline (engine : Engine) (table : Table) (text : String) (store : σ) :
    Outcome (Journalled σ) :=
  engine.pipelineBy engine.journalSegment table text ⟨store, []⟩

end Engine

section Erasure

variable {σ : Type} [LookupStore σ]

/-- A store with a journal is alike to the one without it, and nothing is excused. -/
def Journalled.erasure (σ : Type) [LookupStore σ] : Likeness (Journalled σ) σ where
  alike := fun journalled store => journalled.store = store
  excuses := fun _ => False
  starts := fun _ => True
  load_eq := by
    rintro _ _ rfl name
    rfl
  save_alike := by
    rintro _ _ rfl name table mode
    exact ⟨rfl, rfl⟩

/-- Noting a directive cannot be seen in what follows. -/
theorem Journalled.noting_follows {α : Type} {later : Session (Journalled σ) α}
    {plain : Session σ α} (follows : Session.Follows (erasure σ) later plain)
    (completion : Completion) :
    Session.Follows (erasure σ) (noting completion >>= fun _ => later) plain := by
  intro journalled store alike
  rw [Session.bind_apply]
  exact follows (journalled.note completion) store alike

theorem Outcome.Mirrors.unjournalled_eq {outcome : Outcome (Journalled σ)} {plain : Outcome σ}
    (mirrors : outcome.Mirrors (Journalled.erasure σ) plain) : outcome.unjournalled = plain := by
  obtain ⟨result, entries, store⟩ := mirrors
  cases plain
  cases result
  cases entries
  cases store
  rfl

namespace Engine

theorem journalSegment_mirrors (engine : Engine) :
    (engine.journalSegment : SegmentRun (Journalled σ)).Mirrors (Journalled.erasure σ) engine where
  unexcused := fun _ => id
  follows := by
    intro nested plain follows segment table
    rw [journalSegment, runSegment]
    cases Invocation.ofSegment? segment with
    | none => exact .ofExcept _
    | some invocation =>
        have starts : (Journalled.erasure σ).starts table := trivial
        refine (apply_follows follows invocation (.refl engine) starts).bind fun next => ?_
        apply Journalled.noting_follows
        exact (Session.Follows.ofExcept _).bind fun _ => .value _

theorem unjournalled_journalExecute (engine : Engine) (query : String) (store : σ) :
    (engine.journalExecute query store).unjournalled = engine.execute query store :=
  (executeBy_mirrors engine.journalSegment_mirrors query rfl).unjournalled_eq

theorem unjournalled_journalPipeline (engine : Engine) (table : Table) (text : String)
    (store : σ) :
    (engine.journalPipeline table text store).unjournalled =
      engine.runPipeline table text store :=
  (pipelineBy_mirrors engine.journalSegment_mirrors table text rfl).unjournalled_eq

end Engine

end Erasure

/-- What is saved in a lookup. -/
structure LookupSave where
  name : String
  table : Table
  mode : SaveMode
deriving DecidableEq, Repr

namespace LookupMemory

/-- A memory after some saves, the first one first. -/
def saveAll (memory : LookupMemory) : List LookupSave → LookupMemory
  | [] => memory
  | entry :: entries => (memory.save entry.name entry.table entry.mode).saveAll entries

theorem saveAll_append (memory : LookupMemory) (first later : List LookupSave) :
    memory.saveAll (first ++ later) = (memory.saveAll first).saveAll later := by
  induction first generalizing memory with
  | nil => rfl
  | cons entry entries induction => exact induction _

theorem load_saveAll {entries : List LookupSave} {name : String}
    (others : ∀ entry ∈ entries, entry.name ≠ name) (memory : LookupMemory) :
    (memory.saveAll entries).load name = memory.load name := by
  induction entries generalizing memory with
  | nil => rfl
  | cons entry entries induction =>
      obtain ⟨other, rest⟩ := List.forall_mem_cons.mp others
      rw [saveAll, induction rest, load_save_of_ne other.symm]

end LookupMemory

namespace Completion

/-- What a directive that has been carried out has saved itself. -/
def saved? (completion : Completion) : Option LookupSave :=
  match completion.invocation.directive with
  | .outputLookup =>
      match Lookups.lookupName completion.invocation, Lookups.saveMode completion.invocation with
      | .ok name, .ok mode => some ⟨name, completion.before, mode⟩
      | _, _ => none
  | _ => none

/-- If the directive saves, it has saved the table that entered it, and let it pass. -/
def Passes (completion : Completion) : Prop :=
  completion.invocation.directive = .outputLookup →
    completion.after = completion.before ∧
      ∃ name mode, completion.saved? = some ⟨name, completion.before, mode⟩

variable {completion : Completion}

theorem saved?_of_outputLookup {name : String} {mode : SaveMode}
    (saves : completion.invocation.directive = .outputLookup)
    (hasName : Lookups.lookupName completion.invocation = .ok name)
    (hasMode : Lookups.saveMode completion.invocation = .ok mode) :
    completion.saved? = some ⟨name, completion.before, mode⟩ := by
  rw [saved?, saves]
  simp only [hasName, hasMode]

theorem saved?_of_ne (savesNothing : completion.invocation.directive ≠ .outputLookup) :
    completion.saved? = none := by
  rw [saved?.eq_def]
  split
  · next saves => exact absurd saves savesNothing
  · rfl

end Completion

/-- The ways in which a memory with a journal changes: directives are noted that saved what
the memory has more. -/
def Journalled.accounted : Change (Journalled LookupMemory) where
  leads := fun earlier later =>
    ∃ more, later.completions = earlier.completions ++ more ∧
      later.store = earlier.store.saveAll (more.filterMap Completion.saved?) ∧
        ∀ completion ∈ more, completion.Passes
  refl := fun _ => ⟨[], (List.append_nil _).symm, rfl, List.forall_mem_nil _⟩
  trans := by
    rintro first second third ⟨more, noted, stored, passes⟩
      ⟨rest, restNoted, restStored, restPasses⟩
    refine ⟨more ++ rest, ?_, ?_, ?_⟩
    · rw [restNoted, noted, List.append_assoc]
    · rw [restStored, stored, List.filterMap_append, LookupMemory.saveAll_append]
    · exact List.forall_mem_append.mpr ⟨passes, restPasses⟩

/-- What is known of an outcome whose run has carried out some directives. -/
structure Outcome.Accounted (outcome : Outcome LookupMemory) (before : LookupMemory)
    (completions : List Completion) : Prop where
  /-- The saves of the directives in their order are all that the run does to the memory. -/
  store : outcome.store = before.saveAll (completions.filterMap Completion.saved?)
  others : ∀ name, (∀ entry ∈ completions.filterMap Completion.saved?, entry.name ≠ name) →
    outcome.store.load name = before.load name
  passes : ∀ completion ∈ completions, completion.Passes

namespace Engine

variable {nested : NestedRun (Journalled LookupMemory)} (engine : Engine)

open Journalled (accounted)

theorem apply_outputLookup {σ : Type} [LookupStore σ] (nested : NestedRun σ) (table : Table)
    {invocation : Invocation} (saves : invocation.directive = .outputLookup) :
    engine.apply nested table invocation = Lookups.output table invocation := by
  rw [apply, saves]

/-- A directive that has been carried out is noted with what it has saved. -/
theorem journalSegment_moves (moves : nested.Moves accounted) (segment : Segment) (table : Table) :
    Session.Moves accounted (engine.journalSegment nested segment table) := by
  rw [journalSegment]
  cases Invocation.ofSegment? segment with
  | none => exact .ofExcept _
  | some invocation =>
      by_cases saves : invocation.directive = .outputLookup
      · -- what is saved is not accounted for before the directive is noted
        intro journalled
        simp only
        rw [Session.bind_apply, apply_outputLookup engine nested table saves]
        obtain ⟨error, -, rejected⟩ | ⟨mode, name, hasMode, hasName, saved⟩ :=
          Lookups.output_apply table invocation journalled
        · rw [rejected]
          exact accounted.refl journalled
        · rw [saved]
          have noted : Completion.saved? ⟨invocation, table, table⟩ = some ⟨name, table, mode⟩ :=
            Completion.saved?_of_outputLookup saves hasName hasMode
          refine accounted.trans ?_ (((Session.Moves.ofExcept _).bind fun _ => .value _) _)
          refine ⟨[⟨invocation, table, table⟩], rfl, ?_, ?_⟩
          · rw [List.filterMap_cons_some noted, List.filterMap_nil]
            rfl
          · exact List.forall_mem_singleton.mpr fun _ => ⟨rfl, name, mode, noted⟩
      · refine (apply_moves table invocation engine moves saves).bind fun next => ?_
        refine Session.Moves.bind ?_ fun _ => (Session.Moves.ofExcept _).bind fun _ => .value _
        intro journalled
        have noted : Completion.saved? ⟨invocation, table, next⟩ = none :=
          Completion.saved?_of_ne saves
        refine ⟨[⟨invocation, table, next⟩], rfl, ?_, ?_⟩
        · rw [List.filterMap_cons_none noted]
          rfl
        · exact List.forall_mem_singleton.mpr fun isOutput => absurd isOutput saves

theorem accounted_of_leads {memory : LookupMemory} {outcome : Outcome (Journalled LookupMemory)}
    (leads : accounted.leads ⟨memory, []⟩ outcome.store) :
    outcome.unjournalled.Accounted memory outcome.store.completions := by
  obtain ⟨more, noted, stored, passes⟩ := leads
  rw [List.nil_append] at noted
  rw [noted]
  refine ⟨stored, fun name others => ?_, passes⟩
  have left : outcome.unjournalled.store =
      memory.saveAll (more.filterMap Completion.saved?) := stored
  rw [left, LookupMemory.load_saveAll others]

/-- Only `outputlookup` writes lookups.  A query or a pipeline leaves the memory as the saves of
the `outputlookup` directives make it that have been carried out, at any depth and in their
order, whether it ends well or not.  So lookups of other names stay as they are, and such a
directive lets its table pass.  One that is rejected for its options or its name saves
nothing. -/
theorem only_outputLookup_writes (memory : LookupMemory) :
    (∀ query,
      (engine.journalExecute query memory).unjournalled = engine.execute query memory ∧
        (engine.execute query memory).Accounted memory
          (engine.journalExecute query memory).store.completions) ∧
    (∀ table text,
      (engine.journalPipeline table text memory).unjournalled =
          engine.runPipeline table text memory ∧
        (engine.runPipeline table text memory).Accounted memory
          (engine.journalPipeline table text memory).store.completions) ∧
    ∀ (nested : NestedRun LookupMemory) table invocation error,
      invocation.directive = .outputLookup →
      Lookups.saveMode invocation = .error error ∨ Lookups.lookupName invocation = .error error →
      ∃ reported, engine.apply nested table invocation memory = (.error reported, memory) := by
  refine ⟨fun query => ?_, fun table text => ?_, ?_⟩
  · have erased := engine.unjournalled_journalExecute query memory
    refine ⟨erased, erased ▸ accounted_of_leads ?_⟩
    exact executeBy_moves engine (journalSegment_moves engine) query _
  · have erased := engine.unjournalled_journalPipeline table text memory
    refine ⟨erased, erased ▸ accounted_of_leads ?_⟩
    exact pipelineBy_moves engine (journalSegment_moves engine) table text _
  · intro nested table invocation error saves rejected
    rw [apply_outputLookup engine nested table saves]
    obtain ⟨reported, -, fails⟩ | ⟨mode, name, hasMode, hasName, -⟩ :=
      Lookups.output_apply table invocation memory
    · exact ⟨reported, fails⟩
    · rw [hasMode, hasName] at rejected
      obtain ⟨⟨⟩⟩ | ⟨⟨⟩⟩ := rejected

/-- A query that saves in a query inside it, and fails at a save without a name. -/
def halfwayQuery : String :=
  "index=web | append [index=web | outputlookup kept] | outputlookup"

/-- What was saved on the way stays. -/
theorem only_outputLookup_writes_halfway :
    let outcome := webEngine.execute halfwayQuery hostOwners
    let journal := (webEngine.journalExecute halfwayQuery hostOwners).store.completions
    outcome.result.toOption = none ∧
      journal.map Completion.saved? = [some ⟨"kept", webRequests, {}⟩, none] ∧
      outcome.store = hostOwners.save "kept" webRequests {} ∧
      outcome.store.load "owners" = hostOwners.load "owners" ∧
      ∃ reported, webEngine.apply webEngine.nested webRequests
        ⟨.outputLookup, ⟨.identifier, "outputlookup", 0⟩, [], ""⟩ hostOwners =
          (.error reported, hostOwners) := by
  obtain ⟨queries, -, rejects⟩ := only_outputLookup_writes webEngine hostOwners
  obtain ⟨-, accounted⟩ := queries halfwayQuery
  have saved : (webEngine.journalExecute halfwayQuery hostOwners).store.completions.filterMap
      Completion.saved? = [⟨"kept", webRequests, {}⟩] := by decide +kernel
  refine ⟨by decide +kernel, by decide +kernel, ?_, accounted.others "owners" ?_, ?_⟩
  · exact accounted.store.trans (congrArg hostOwners.saveAll saved)
  · rw [saved]
    decide
  · exact rejects webEngine.nested webRequests _ _ rfl (.inr rfl)

end Engine

end LogPipe
