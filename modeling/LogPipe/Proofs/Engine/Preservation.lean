import LogPipe.Proofs.Directive.Preservation
import LogPipe.Proofs.Engine.Tracing

/-!
# Segments over well-formed tables

A directive may load and save lookups and may run queries inside it.  As long as the store
is sound, and the runs inside make well-formed tables and keep it sound, a segment makes a
well-formed table of a well-formed one and keeps the store sound as well.
-/

namespace LogPipe

open LogPipe.Query

namespace Session

variable {σ α β : Type} [LookupStore σ] [SoundStore σ]

/-- A session that leaves every sound store sound, and whose result then has a property or
is an error that is no length mismatch. -/
def Keeps (property : α → Prop) (session : Session σ α) : Prop :=
  ∀ store, SoundStore.Sound store →
    LogPipe.Keeps property (session store).1 ∧ SoundStore.Sound (session store).2

namespace Keeps

variable {property : α → Prop} {final : β → Prop}

theorem ofExcept {result : Except DirectiveError α} (keeps : LogPipe.Keeps property result) :
    Keeps property (Session.ofExcept result : Session σ α) :=
  fun _ sound => ⟨keeps, sound⟩

theorem value {value : α} (holds : property value) :
    Keeps property (pure value : Session σ α) :=
  fun _ sound => ⟨.ok holds, sound⟩

theorem bind {first : Session σ α} {later : α → Session σ β} (firstKeeps : Keeps property first)
    (laterKeeps : ∀ value, property value → Keeps final (later value)) :
    Keeps final (first >>= later) := by
  intro store sound
  obtain ⟨here, left⟩ := firstKeeps store sound
  rw [bind_apply]
  rcases ran : first store with ⟨result, next⟩
  rw [ran] at here left
  cases here with
  | error fine => exact ⟨.error fine, left⟩
  | ok holds => exact laterKeeps _ holds next left

theorem load (name : String) : Keeps Table.WellFormed (Session.load name : Session σ Table) :=
  fun _ sound => ⟨(SoundStore.load_keeps sound name).mapError _ fun _ => rfl, sound⟩

theorem save (name : String) {table : Table} (wellFormed : table.WellFormed) (mode : SaveMode) :
    Keeps (fun _ => True) (Session.save name table mode : Session σ Unit) := by
  intro store sound
  have saves := SoundStore.save_keeps sound wellFormed name mode
  exact saves.mapError DirectiveError.lookup fun _ => rfl

end Keeps

end Session

/-- Runs inside a directive that make well-formed tables, of well-formed ones. -/
structure NestedRun.Keeps {σ : Type} [LookupStore σ] [SoundStore σ] (nested : NestedRun σ) :
    Prop where
  query : ∀ text, Session.Keeps Table.WellFormed (nested.query text)
  pipeline : ∀ {table : Table}, table.WellFormed → ∀ text,
    Session.Keeps Table.WellFormed (nested.pipeline table text)

variable {σ : Type} [LookupStore σ] [SoundStore σ] {nested : NestedRun σ}
  {table : Table}

namespace Lookups

theorem chosenPart_keeps (invocation : Invocation) (keys : List String)
    (outputs : Option (List String)) {stored : Table} (wellFormed : stored.WellFormed) :
    Keeps Table.WellFormed (chosenPart invocation keys outputs stored) := by
  rw [chosenPart.eq_def]
  split
  · exact .ok wellFormed
  · exact invocation.misused_keeps _
  · exact (Table.select_keeps wellFormed _).mapError _ fun _ => rfl

theorem lookupName_keeps (invocation : Invocation) :
    Keeps (fun _ => True) (lookupName invocation) := by
  rw [lookupName.eq_def]
  simp only
  split
  · exact .ok trivial
  · exact .ok trivial
  · exact invocation.misused_keeps _

theorem saveMode_keeps (invocation : Invocation) :
    Keeps (fun _ => True) (saveMode invocation) := by
  refine (invocation.flag_keeps _ _).bind fun append _ => ?_
  refine (invocation.flag_keeps _ _).bind fun overwrite _ => ?_
  split
  · exact invocation.misset_keeps _
  · exact (invocation.flag_keeps _ _).bind fun _ _ => .ok trivial

theorem lookup_keeps (table : Table) (invocation : Invocation) :
    Session.Keeps Table.WellFormed (lookup table invocation : Session σ Table) := by
  rw [lookup.eq_def]
  simp only
  split
  · exact .ofExcept (invocation.misused_keeps _)
  · exact .ofExcept (invocation.misused_keeps _)
  · next name keys _ _ =>
      refine (Session.Keeps.load name).bind fun stored storedFormed => ?_
      refine (Session.Keeps.ofExcept (chosenPart_keeps invocation keys _ storedFormed)).bind
        fun part _ => ?_
      exact .ofExcept ((Join.tables_keeps table part keys .left).mapError _ fun _ => rfl)

theorem input_keeps (invocation : Invocation) :
    Session.Keeps Table.WellFormed (input invocation : Session σ Table) :=
  (Session.Keeps.ofExcept (lookupName_keeps invocation)).bind fun name _ => .load name

theorem output_keeps (wellFormed : table.WellFormed) (invocation : Invocation) :
    Session.Keeps Table.WellFormed (output table invocation : Session σ Table) :=
  (Session.Keeps.ofExcept (saveMode_keeps invocation)).bind fun mode _ =>
    (Session.Keeps.ofExcept (lookupName_keeps invocation)).bind fun name _ =>
      (Session.Keeps.save name wellFormed mode).bind fun _ _ => .value wellFormed

end Lookups

namespace Subsearch

theorem onlyBlock_keeps (invocation : Invocation) :
    Keeps (fun _ => True) (onlyBlock invocation) := by
  rw [onlyBlock]
  split
  · exact .error rfl
  · exact .ok trivial
  · exact invocation.misused_keeps _

theorem joinArguments_keeps (invocation : Invocation) :
    Keeps (fun _ => True) (joinArguments invocation) := by
  rw [joinArguments]
  split
  · exact .error rfl
  · next tokens _ =>
      have chosen (kind : JoinKind) (names : List String) :
          Keeps (fun _ => True)
            (if names.isEmpty then invocation.misused .joinFieldExpected
            else pure (kind, names)) := by
        split
        · exact invocation.misused_keeps _
        · exact .ok trivial
      simp only
      split
      · exact chosen _ _
      · split
        · exact chosen _ _
        · exact invocation.misset_keeps _

theorem join_keeps (runs : nested.Keeps) (table : Table) (invocation : Invocation) :
    Session.Keeps Table.WellFormed (join nested table invocation) :=
  (Session.Keeps.ofExcept (onlyBlock_keeps invocation)).bind fun query _ =>
    (Session.Keeps.ofExcept (joinArguments_keeps invocation)).bind fun chosen _ =>
      (runs.query query).bind fun right _ =>
        .ofExcept ((Join.tables_keeps table right chosen.2 chosen.1).mapError _ fun _ => rfl)

theorem append_keeps (runs : nested.Keeps) (wellFormed : table.WellFormed)
    (invocation : Invocation) :
    Session.Keeps Table.WellFormed (append nested table invocation) :=
  (Session.Keeps.ofExcept (onlyBlock_keeps invocation)).bind fun query _ =>
    (runs.query query).bind fun _ extraFormed =>
      .value (Table.wellFormed_concat_pair wellFormed extraFormed)

theorem appendPipe_keeps (runs : nested.Keeps) (wellFormed : table.WellFormed)
    (invocation : Invocation) :
    Session.Keeps Table.WellFormed (appendPipe nested table invocation) :=
  (Session.Keeps.ofExcept (onlyBlock_keeps invocation)).bind fun pipeline _ =>
    (runs.pipeline wellFormed pipeline).bind fun _ extraFormed =>
      .value (Table.wellFormed_concat_pair wellFormed extraFormed)

theorem runAll_keeps (runs : nested.Keeps) (queries : List String) :
    Session.Keeps (fun tables => ∀ table ∈ tables, table.WellFormed) (runAll nested queries) := by
  induction queries with
  | nil => exact .value (List.forall_mem_nil _)
  | cons query queries induction =>
      exact (runs.query query).bind fun _ wellFormed =>
        induction.bind fun _ each => .value (List.forall_mem_cons.mpr ⟨wellFormed, each⟩)

theorem multiSearch_keeps (runs : nested.Keeps) (invocation : Invocation) :
    Session.Keeps Table.WellFormed (multiSearch nested invocation) := by
  rw [multiSearch]
  split
  · exact .ofExcept (.error rfl)
  · split
    · exact .ofExcept (invocation.misused_keeps _)
    · exact (runAll_keeps runs _).bind fun _ each => .value (Table.wellFormed_concat each)

theorem expansion_keeps (macros : Macros) (invocation : Invocation) :
    Keeps (fun _ => True) (expansion macros invocation) := by
  rw [expansion]
  split
  · exact invocation.misused_keeps _
  · split
    · exact invocation.misused_keeps _
    · split
      · exact .ok trivial
      · exact .error rfl

theorem macroCall_keeps (runs : nested.Keeps) (macros : Macros) (wellFormed : table.WellFormed)
    (invocation : Invocation) :
    Session.Keeps Table.WellFormed (macroCall nested macros table invocation) :=
  (Session.Keeps.ofExcept (expansion_keeps macros invocation)).bind fun pipeline _ =>
    runs.pipeline wellFormed pipeline

end Subsearch

namespace Engine

variable {engine : Engine}

/-- Every directive makes a well-formed table of a well-formed one. -/
theorem apply_keeps (runs : nested.Keeps) (wellFormed : table.WellFormed)
    (invocation : Invocation) :
    Session.Keeps Table.WellFormed (engine.apply nested table invocation) := by
  rw [apply]
  cases invocation.directive with
  | search | whereRows => exact .ofExcept (Aggregation.search_keeps wellFormed invocation)
  | eval => exact .ofExcept (Aggregation.eval_keeps wellFormed invocation engine.seed)
  | stats =>
      exact .ofExcept (Aggregation.aggregate_keeps invocation (Stats.summarize_keeps wellFormed))
  | eventStats =>
      exact .ofExcept (Aggregation.aggregate_keeps invocation (Stats.broadcast_keeps wellFormed))
  | streamStats =>
      exact .ofExcept (Aggregation.aggregate_keeps invocation (Stats.running_keeps wellFormed))
  | timechart => exact .ofExcept (Aggregation.timechart_keeps wellFormed invocation engine.policy)
  | bin => exact .ofExcept (Aggregation.bin_keeps wellFormed invocation engine.policy)
  | fieldSummary => exact .ofExcept (Aggregation.fieldSummary_keeps invocation table)
  | rename => exact .ofExcept (Shape.rename_keeps wellFormed invocation)
  | fields => exact .ofExcept (Shape.fields_keeps wellFormed invocation)
  | makeTable => exact .ofExcept (Shape.makeTable_keeps wellFormed invocation)
  | head => exact .ofExcept (Shape.head_keeps wellFormed invocation engine.policy)
  | reverse => exact .ofExcept (.ok (wellFormed.takeRows _))
  | dedup => exact .ofExcept (Shape.dedup_keeps wellFormed invocation)
  | sort => exact .ofExcept (Shape.sort_keeps wellFormed invocation)
  | fillNull => exact .ofExcept (Shape.fillNull_keeps wellFormed invocation)
  | coalesce => exact .ofExcept (Shape.coalesce_keeps wellFormed invocation)
  | rex => exact .ofExcept (Extraction.rex_keeps wellFormed invocation)
  | regex => exact .ofExcept (Extraction.regex_keeps wellFormed invocation)
  | base64 => exact .ofExcept (Extraction.base64_keeps wellFormed invocation)
  | spath => exact .ofExcept (Extraction.spath_keeps wellFormed invocation)
  | mvExpand => exact .ofExcept (Multivalue.expand_keeps wellFormed invocation)
  | mvJoin | mvCombine => exact .ofExcept (Multivalue.join_keeps wellFormed invocation _)
  | mvIndex => exact .ofExcept (Multivalue.index_keeps wellFormed invocation)
  | mvCount | mvDistinct => exact .ofExcept (Multivalue.derive_keeps wellFormed invocation _ _)
  | mvFind => exact .ofExcept (Multivalue.find_keeps wellFormed invocation)
  | mvZip => exact .ofExcept (Multivalue.zip_keeps wellFormed invocation)
  | mvReverse | mvDedup => exact .ofExcept (Multivalue.change_keeps wellFormed invocation _)
  | mvAppend => exact .ofExcept (Multivalue.append_keeps wellFormed invocation)
  | mvFilter => exact .ofExcept (Multivalue.filter_keeps wellFormed invocation)
  | lookup => exact Lookups.lookup_keeps table invocation
  | inputLookup => exact Lookups.input_keeps invocation
  | outputLookup => exact Lookups.output_keeps wellFormed invocation
  | join => exact Subsearch.join_keeps runs table invocation
  | append => exact Subsearch.append_keeps runs wellFormed invocation
  | appendPipe => exact Subsearch.appendPipe_keeps runs wellFormed invocation
  | multiSearch => exact Subsearch.multiSearch_keeps runs invocation
  | macroCall => exact Subsearch.macroCall_keeps runs engine.macros wellFormed invocation

end Engine

end LogPipe
