import LogPipe.Lookup.Memory
import LogPipe.Proofs.Engine.Preservation

/-!
# Tables over whole runs

A segment keeps a table well formed and the store sound, so a run does, by induction on its
segments, and so do the runs inside directives, by induction on how deep they are.  What a
run comes by is read off its notes.
-/

namespace LogPipe

open LogPipe.Query

variable {σ : Type} [LookupStore σ] [SoundStore σ] {table : Table}

/-- Notes are sound when all of them are well formed. -/
instance : SoundStore (Traced σ) where
  Sound := fun traced =>
    SoundStore.Sound traced.store ∧ ∀ table ∈ traced.tables, table.WellFormed
  load_keeps := fun sound name => SoundStore.load_keeps sound.1 name
  save_keeps := fun sound wellFormed name mode =>
    have saves := SoundStore.save_keeps sound.1 wellFormed name mode
    ⟨saves.1, saves.2, sound.2⟩

/-- A run that leaves a sound store, and a well-formed table or an error that is no length
mismatch. -/
structure Outcome.Keeps (outcome : Outcome σ) : Prop where
  result : LogPipe.Keeps Table.WellFormed outcome.result
  store : SoundStore.Sound outcome.store

namespace Engine

variable {engine : Engine} {traced : NestedRun (Traced σ)} {state : Traced σ}

section Notes

omit [SoundStore σ]

/-- A run that ends with a table has noted it last. -/
theorem head?_traceSegments {next : Table} {segments : List Segment}
    (done : (engine.traceSegments traced table state segments).result = .ok next) :
    (engine.traceSegments traced table state segments).store.tables.head? = some next := by
  induction segments generalizing table state with
  | nil =>
      cases done
      rfl
  | cons segment segments induction =>
      rcases ran : engine.runSegment traced segment table (state.note table) with ⟨result, left⟩
      rw [traceSegments, ran] at done ⊢
      cases result with
      | error error => cases done
      | ok made => exact induction done

theorem head?_traceQuery {next : Table} {query : String}
    (done : (engine.traceQuery traced query state).result = .ok next) :
    (engine.traceQuery traced query state).store.tables.head? = some next := by
  rw [traceQuery] at done ⊢
  cases split : splitQuery query with
  | error error =>
      rw [split] at done
      cases done
  | ok parts =>
      rw [split] at done
      simp only at done ⊢
      cases started : engine.startTable parts with
      | error error =>
          rw [started] at done
          cases done
      | ok table =>
          rw [started] at done
          exact head?_traceSegments done

end Notes

/-- Two requests, one without a status. -/
def webRequests : Table :=
  ⟨2, [("host", ⟨.text, [.text "b", .text "a"]⟩), ("status", ⟨.int, [.int 200, .null]⟩)]⟩

/-- A lookup of the owners of hosts. -/
def hostOwners : LookupMemory :=
  ⟨[("owners", ⟨1, [("host", ⟨.text, [.text "a"]⟩), ("owner", ⟨.text, [.text "ann"]⟩)]⟩)]⟩

/-- An engine with an index of requests and a macro that names their owners. -/
def webEngine : Engine :=
  { indexes := [("web", webRequests)], macros := [("named", "lookup owners host")] }

/-- A query that runs a query and a macro inside it, and saves what comes of them. -/
def nestingQuery : String :=
  "index=web | append [index=web | head 1] | \x60named\x60 | outputlookup kept"

end Engine

end LogPipe
