import LogPipe.Proofs.Engine.Subsearches
import LogPipe.Proofs.Lookup.Memory
import LogPipe.Proofs.Table.Stacking

/-!
# Stacking in one step and in several

Queries can be stacked by one `multisearch`, or one below the other by an `append` for each,
and tables by saves that append them to a lookup.  The steps make a stack inside a stack, so
the results agree as far as stacks in steps do.
-/

namespace LogPipe

open LogPipe.Query LogPipe.Text

namespace Engine

section Three

variable {σ : Type} [LookupStore σ] {engine : Engine} {top middle bottom : String} {store : σ}
  {finish : Table × σ}

/-- Two queries inside a directive find tables, one after the other. -/
def FindsBoth (engine : Engine) (middle bottom : String) (store : σ) (second third : Table)
    (left : σ) : Prop :=
  ∃ between,
    engine.nested.query (String.ofList (trim middle.toList)) store = (.ok second, between) ∧
      engine.nested.query (String.ofList (trim bottom.toList)) between = (.ok third, left)

variable (topClosed : Closed top.toList) (middleClosed : Closed middle.toList)
  (bottomClosed : Closed bottom.toList)

include topClosed middleClosed bottomClosed

theorem multisearch_runs (engine : Engine) (store : σ) :
    (∀ finish, (engine.execute ("| multisearch [" ++ top ++ "] [" ++ middle ++ "] [" ++ bottom ++
        "]") store).Ends finish ↔
      ∃ first second third after,
        engine.nested.query (String.ofList (trim top.toList)) store = (.ok first, after) ∧
        engine.FindsBoth middle bottom after second third finish.2 ∧
        finish.1 = Table.concat [first, second, third] ∧
        ∀ cap, engine.policy.rowCap = some cap → finish.1.rows ≤ cap) ∧
    ∀ error, (engine.nested.query (String.ofList (trim top.toList)) store).1 = .error error →
      ∃ keyword, (engine.execute ("| multisearch [" ++ top ++ "] [" ++ middle ++ "] [" ++ bottom ++
        "]") store).result = .error (.directive 0 keyword error) := by
  have text : "| multisearch [" ++ top ++ "] [" ++ middle ++ "] [" ++ bottom ++ "]" =
      "| " ++ String.ofList ("multisearch".toList ++
        blocksText [top.toList, middle.toList, bottom.toList]) := by
    apply String.toList_injective
    simp [blocksText]
  have isWord : IsWord "multisearch".toList := by decide
  have closed : ∀ query ∈ [top.toList, middle.toList, bottom.toList], Closed query := by
    simp [topClosed, middleClosed, bottomClosed]
  have applied := apply_multisearch engine (engine.nested : NestedRun σ) Table.empty closed
  rw [text]
  constructor
  · intro finish
    simp only [ends_execute_stage_iff isWord closed (by decide) (by decide) applied,
      Session.bind_pure_eq_ok_iff, List.map_cons, List.map_nil, Subsearch.runAll_cons_eq_ok_iff]
    constructor
    · rintro ⟨⟨_, ⟨first, after, _, firstRan, ⟨second, between, _, secondRan,
        ⟨third, _, _, thirdRan, done, rfl⟩, rfl⟩, rfl⟩, stacked⟩, fits⟩
      cases done
      exact ⟨first, second, third, after, firstRan, ⟨between, secondRan, thirdRan⟩, stacked.symm,
        fits⟩
    · rintro ⟨first, second, third, after, firstRan, ⟨between, secondRan, thirdRan⟩, stacked,
        fits⟩
      exact ⟨⟨_, ⟨first, after, _, firstRan, ⟨second, between, _, secondRan,
        ⟨third, finish.2, [], thirdRan, rfl, rfl⟩, rfl⟩, rfl⟩, stacked.symm⟩, fits⟩
  · intro error failed
    apply result_execute_stage_of_error isWord closed (by decide) (by decide) applied
    rw [List.map_cons, Subsearch.runAll, Session.bind_apply, Session.bind_apply]
    cases ran : engine.nested.query (String.ofList (trim top.toList)) store with
    | mk result left =>
        rw [ran] at failed
        cases failed
        rfl

theorem ends_appends_iff :
    (engine.execute (top ++ " | append [" ++ middle ++ "] | append [" ++ bottom ++ "]")
        store).Ends finish ↔
      ∃ first second third after, (engine.execute top store).Ends (first, after) ∧
        engine.FindsBoth middle bottom after second third finish.2 ∧
        finish.1 = Table.concat [Table.concat [first, second], third] ∧
        ∀ cap, engine.policy.rowCap = some cap → finish.1.rows ≤ cap := by
  have text : top ++ " | append [" ++ middle ++ "] | append [" ++ bottom ++ "]" =
      top ++ " | " ++ String.ofList ("append".toList ++ blocksText [middle.toList] ++
        " | ".toList ++ ("append".toList ++ blocksText [bottom.toList])) := by
    apply String.toList_injective
    simp [blocksText]
  have isWord : IsWord "append".toList := by decide
  have stage {query : List Char} (closed : Closed query) :=
    trimmedPieces_stage isWord (List.forall_mem_singleton.mpr closed) (by decide)
  have cut : trimmedPieces '|' (String.ofList ("append".toList ++ blocksText [middle.toList] ++
      " | ".toList ++ ("append".toList ++ blocksText [bottom.toList]))).toList =
        some (["append".toList ++ blocksText [middle.toList]] ++
          ["append".toList ++ blocksText [bottom.toList]]) := by
    rw [String.toList_ofList, trimmedPieces_join (stage middleClosed), stage bottomClosed]
    rfl
  rw [text, ends_execute_join_iff topClosed cut]
  constructor
  · rintro ⟨⟨first, after⟩, topEnds, leads⟩
    obtain ⟨⟨pair, between⟩, middleLeads, bottomLeads⟩ := leads_append_iff.mp leads
    obtain ⟨second, secondRan, rfl, -⟩ := (leads_append_query_iff middleClosed).mp middleLeads
    obtain ⟨third, thirdRan, stacked, fits⟩ := (leads_append_query_iff bottomClosed).mp bottomLeads
    exact ⟨first, second, third, after, topEnds, ⟨between, secondRan, thirdRan⟩, stacked, fits⟩
  · rintro ⟨first, second, third, after, topEnds, ⟨between, secondRan, thirdRan⟩, stacked, fits⟩
    have pairFits : ∀ cap, engine.policy.rowCap = some cap →
        (Table.concat [first, second]).rows ≤ cap := by
      intro cap given
      have whole := fits cap given
      rw [stacked, Table.concat, Table.totalRows] at whole
      exact Nat.le_trans (Nat.le_add_right _ _) whole
    exact ⟨(first, after), topEnds, leads_append_iff.mpr ⟨(Table.concat [first, second], between),
      (leads_append_query_iff middleClosed).mpr ⟨second, secondRan, rfl, pairFits⟩,
      (leads_append_query_iff bottomClosed).mpr ⟨third, thirdRan, stacked, fits⟩⟩⟩

end Three

/-- Stacking in steps keeps the names and their order, the rows and the kinds of the columns,
and the cells as well where the columns of the inner stack are transparent.  Three tables that
are saved one below the other make a stack inside a stack, and so do two queries that are
appended to a third.  A `multisearch` stacks what the three find at once, and it fails where
the appended queries do, or else over a limit, since its first query runs one level deeper. -/
theorem stacking_in_steps {σ : Type} [LookupStore σ] (engine : Engine) (store : σ)
    {top middle bottom : String} (topClosed : Closed top.toList)
    (middleClosed : Closed middle.toList) (bottomClosed : Closed bottom.toList) :
    let atOnce := engine.execute
      ("| multisearch [" ++ top ++ "] [" ++ middle ++ "] [" ++ bottom ++ "]") store
    let inSteps := engine.execute
      (top ++ " | append [" ++ middle ++ "] | append [" ++ bottom ++ "]") store
    (∀ first second third : Table,
      Table.Restacks [first, second] [first, second, third]
          (Table.concat [Table.concat [first, second], third]) ∧
        Table.Restacks [second, third] [first, second, third]
          (Table.concat [first, Table.concat [second, third]])) ∧
      (∀ (memory : LookupMemory) (name : String) (first second third : Table) (mode : SaveMode),
        memory.load name = .error (.notFound name) → mode.append = true →
        mode.keepsOld second = false → mode.keepsOld third = false →
        (((memory.save name first mode).save name second mode).save name third mode).load name =
          .ok (Table.concat [Table.concat [first, second], third])) ∧
      (∀ finish, atOnce.Ends finish → ∃ first second third,
        finish.1 = Table.concat [first, second, third] ∧
        inSteps.Ends (Table.concat [Table.concat [first, second], third], finish.2)) ∧
      ∀ finish, inSteps.Ends finish → ∃ first second third,
        finish.1 = Table.concat [Table.concat [first, second], third] ∧
        (atOnce.Ends (Table.concat [first, second, third], finish.2) ∨
          ∃ error, atOnce.result = .error error ∧ error.isLimit = true) := by
  intro atOnce inSteps
  have multisearch := multisearch_runs topClosed middleClosed bottomClosed engine store
  refine ⟨fun first second third => ⟨Table.restacks_left first second third,
    Table.restacks_right first second third⟩, ?_, ?_, ?_⟩
  · intro memory name first second third mode absent appends secondSaves thirdSaves
    have saved := LookupMemory.load_save_append
      (LookupMemory.load_save_of_absent first mode absent) appends secondSaves
    exact LookupMemory.load_save_append saved appends thirdSaves
  · intro finish ends
    obtain ⟨first, second, third, after, topRan, rest, stacked, fits⟩ :=
      (multisearch.1 finish).mp ends
    have topEnds := ends_execute_trim_iff.mp (ends_of_query topRan)
    refine ⟨first, second, third, stacked, ?_⟩
    refine (ends_appends_iff topClosed middleClosed bottomClosed).mpr
      ⟨first, second, third, after, topEnds, rest, rfl, fun cap given => ?_⟩
    have within := fits cap given
    rwa [stacked, ← (Table.restacks_left first second third).rows_eq] at within
  · intro finish ends
    obtain ⟨first, second, third, after, topEnds, rest, stacked, fits⟩ :=
      (ends_appends_iff topClosed middleClosed bottomClosed).mp ends
    refine ⟨first, second, third, stacked, ?_⟩
    rcases query_of_ends (ends_execute_trim_iff.mpr topEnds) with topRan | ⟨error, failed, limit⟩
    · refine .inl ((multisearch.1 _).mpr
        ⟨first, second, third, after, topRan, rest, rfl, fun cap given => ?_⟩)
      have within := fits cap given
      rwa [stacked, (Table.restacks_left first second third).rows_eq] at within
    · obtain ⟨keyword, same⟩ := multisearch.2 error failed
      exact .inr ⟨_, same, limit⟩

/-- A table with a whole number. -/
def wholeNumber : Table :=
  ⟨1, [("v", ⟨.int, [.int 1]⟩)]⟩

/-- A table with a broken number under the same name. -/
def brokenNumber : Table :=
  ⟨1, [("v", ⟨.float, [.float 2.5]⟩)]⟩

/-- A table with a word under the same name. -/
def loneWord : Table :=
  ⟨1, [("v", ⟨.text, [.text "x"]⟩)]⟩

/-- In steps the whole number is a float before it is a text, and is written as one. -/
theorem concat_not_associative :
    (wholeNumber.WellFormed ∧ brokenNumber.WellFormed ∧ loneWord.WellFormed) ∧
      (Table.concat [Table.concat [wholeNumber, brokenNumber], loneWord]).columns =
        [("v", ⟨.text, [.text "1.0", .text "2.5", .text "x"]⟩)] ∧
      (Table.concat [wholeNumber, brokenNumber, loneWord]).columns =
        [("v", ⟨.text, [.text "1", .text "2.5", .text "x"]⟩)] ∧
      Table.concat [Table.concat [wholeNumber, brokenNumber], loneWord] ≠
        Table.concat [wholeNumber, brokenNumber, loneWord] := by
  refine ⟨by decide +kernel, by decide +kernel, by decide +kernel, by decide +kernel⟩

/-- An engine of the three tables. -/
def mixedEngine : Engine :=
  { indexes := [("whole", wholeNumber), ("broken", brokenNumber), ("words", loneWord)] }

/-- The three tables are found by queries, which stack them at once and in steps. -/
theorem stacking_in_steps_mixed :
    let atOnce := mixedEngine.execute ("| multisearch [" ++ "index=whole" ++ "] [" ++
      "index=broken" ++ "] [" ++ "index=words" ++ "]") hostOwners
    let inSteps := mixedEngine.execute ("index=whole" ++ " | append [" ++ "index=broken" ++
      "] | append [" ++ "index=words" ++ "]") hostOwners
    ∃ table other, atOnce.result = .ok table ∧ inSteps.result = .ok other ∧
      inSteps.store = atOnce.store ∧ table.rows = 3 ∧ other.rows = 3 ∧
        other.kinds = table.kinds := by
  intro atOnce inSteps
  have closed {text : String} (whole : pieces '|' text.toList = some [text.toList]) :
      Closed text.toList := exists_pieces_iff.mp ⟨_, whole⟩
  obtain ⟨restacks, -, forward, -⟩ := stacking_in_steps mixedEngine hostOwners
    (@closed "index=whole" (by decide)) (@closed "index=broken" (by decide))
    (@closed "index=words" (by decide))
  obtain ⟨table, done, rows⟩ := Except.exists_ok_of_toOption
    (show atOnce.result.toOption.map Table.rows = some 3 by decide +kernel)
  obtain ⟨first, second, third, stacked, ended⟩ := forward (table, atOnce.store) ⟨done, rfl⟩
  have alike := (restacks first second third).1
  have same : table = Table.concat [first, second, third] := stacked
  subst same
  exact ⟨_, _, done, ended.1, ended.2, rows, alike.rows_eq.trans rows, alike.kinds_eq⟩

end Engine

end LogPipe
