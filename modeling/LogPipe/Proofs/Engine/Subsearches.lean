import LogPipe.Proofs.Engine.Limits
import LogPipe.Proofs.Engine.Pushdown
import LogPipe.Proofs.Query.Blocks

/-!
# Queries in square brackets

A stage of a keyword and closed texts in square brackets calls its directive with these texts
as queries.  What such a stage comes to is told by the runs of the queries, and a query that
ends well inside a directive does so on its own.
-/

namespace LogPipe

open LogPipe.Query LogPipe.Text

/-! ## Stages with queries in square brackets -/

section Texts

variable {word query : List Char} {queries : List (List Char)} (isWord : IsWord word)
  (closed : ∀ other ∈ query :: queries, Closed other)

include isWord closed

/-- A keyword and queries in square brackets make one stage. -/
theorem trimmedPieces_stage (noPipe : '|' ∉ word) :
    trimmedPieces '|' (word ++ blocksText (query :: queries)) =
      some [word ++ blocksText (query :: queries)] := by
  have someWord : word ≠ [] := by
    rintro rfl
    cases isWord
  have tight := isWord.tight.append (tight_blocks query queries) someWord
    (List.cons_ne_nil _ _) [' ']
  have shape : word ++ [' '] ++ '[' :: (query ++ ']' :: blocksText queries) =
      word ++ blocksText (query :: queries) := by
    simp [blocksText]
  rw [shape] at tight
  rw [trimmedPieces, pieces_plain_append (plain_of_isWord isWord noPipe),
    pieces_blocksText (by decide) closed]
  simp [trim_eq_self tight]

/-- Such a stage calls the directive of its keyword, with the blocks as its text. -/
theorem exists_lex_stage {directive : Directive}
    (called : Invocation.directive? (wordToken word 0) = some directive) :
    ∃ tokens, lex (String.ofList (word ++ blocksText (query :: queries))) =
        .ok (wordToken word 0 :: tokens) ∧
      Invocation.ofSegment? ⟨0, String.ofList (word ++ blocksText (query :: queries)),
          wordToken word 0 :: tokens⟩ =
        some ⟨directive, wordToken word 0, tokens,
          String.ofList (trim (blocksText (query :: queries)))⟩ := by
  obtain ⟨others, read⟩ := exists_lex_trim (closed_blocksText closed)
  rw [trim_blocksText] at read
  obtain ⟨tokens, found, -⟩ := exists_lex_word isWord read blankRun_space (by rintro c ⟨⟩; decide)
  refine ⟨tokens, found, ?_⟩
  have arguments : dropBytes (wordToken word 0).stop (word ++ blocksText (query :: queries)) =
      blocksText (query :: queries) := by
    rw [Token.stop, wordToken, Nat.zero_add, String.utf8ByteSize_ofList]
    exact dropBytes_utf8Len_append word _
  simp [Invocation.ofSegment?, Segment.keyword?, called, Segment.arguments, Segment.argumentText,
    arguments]

end Texts

namespace Session

/-- A session that shows what another one ends with. -/
theorem bind_pure_eq_ok_iff {σ α β : Type} {first : Session σ α} {view : α → β} {store left : σ}
    {result : β} :
    (first >>= fun value => pure (view value)) store = (.ok result, left) ↔
      ∃ value, first store = (.ok value, left) ∧ view value = result := by
  constructor
  · intro done
    obtain ⟨value, middle, ran, shown⟩ := exists_of_bind_eq_ok done
    cases shown
    exact ⟨value, ran, rfl⟩
  · rintro ⟨value, ran, rfl⟩
    rw [bind_apply, ran]
    rfl

end Session

namespace Subsearch

variable {σ : Type} {nested : NestedRun σ} {invocation : Invocation}

theorem append_of_block {query : String} (found : bracketBlocks invocation.text = .ok [query])
    (table : Table) :
    append nested table invocation =
      (nested.query query >>= fun extra => pure (Table.concat [table, extra])) := by
  rw [append, onlyBlock, found]
  rfl

theorem multiSearch_of_blocks {queries : List String}
    (found : bracketBlocks invocation.text = .ok queries) (two : 2 ≤ queries.length) :
    multiSearch nested invocation =
      (runAll nested queries >>= fun tables => pure (Table.concat tables)) := by
  rw [multiSearch, found]
  simp only [if_neg (Nat.not_lt.mpr two)]

theorem runAll_cons_eq_ok_iff {query : String} {queries : List String} {tables : List Table}
    {store left : σ} :
    runAll nested (query :: queries) store = (.ok tables, left) ↔
      ∃ table between rest, nested.query query store = (.ok table, between) ∧
        runAll nested queries between = (.ok rest, left) ∧ tables = table :: rest := by
  rw [runAll]
  constructor
  · intro ran
    obtain ⟨table, between, first, ran⟩ := Session.exists_of_bind_eq_ok ran
    obtain ⟨rest, later, rfl⟩ := Session.bind_pure_eq_ok_iff.mp ran
    exact ⟨table, between, rest, first, later, rfl⟩
  · rintro ⟨table, between, rest, first, later, rfl⟩
    rw [Session.bind_apply, first]
    exact Session.bind_pure_eq_ok_iff.mpr ⟨rest, later, rfl⟩

end Subsearch

namespace Engine

variable {σ : Type} [LookupStore σ] {engine : Engine}

/-- A query without an index clause starts from a table without rows and columns. -/
theorem execute_pipe {stage : List Char} {tokens : List Token} (someText : stage ≠ [])
    (cut : trimmedPieces '|' stage = some [stage])
    (read : lex (String.ofList stage) = .ok tokens) (store : σ) :
    engine.execute ("| " ++ String.ofList stage) store =
      engine.runSegments engine.nested Table.empty store [⟨0, String.ofList stage, tokens⟩] := by
  have cuts : separates '|' '|' = true := by decide
  have pieces : trimmedPieces '|' ("| " ++ String.ofList stage).toList = some [[], stage] := by
    have text : ("| " ++ String.ofList stage).toList = [] ++ '|' :: ([' '] ++ stage) := by simp
    rw [text, trimmedPieces_append_separator cuts rfl,
      trimmedPieces_blank_append (by decide) blankRun_space, cut]
    rfl
  have split : splitQuery ("| " ++ String.ofList stage) =
      .ok ⟨"", [], [⟨0, String.ofList stage, tokens⟩]⟩ := by
    have empty : lex (String.ofList []) = .ok [] := lex_trim_nil
    rw [← Except.toOption_eq_some_iff, splitQuery_toOption, pieces]
    simp [empty, segmentsFrom, someText, read]
    rfl
  have started : engine.startTable ⟨"", [], [⟨0, String.ofList stage, tokens⟩]⟩ =
      .ok Table.empty := by
    have admitted : engine.policy.admitRows "accelerator" Table.empty.rows = .ok () :=
      Policy.admitRows_eq_ok_iff.mpr fun cap _ => Nat.zero_le cap
    rw [startTable]
    simp [admitted]
  rw [execute, runQuery, split]
  simp only [started]

section Stage

variable {nested : NestedRun σ} {word query : List Char} {queries : List (List Char)}
  {directive : Directive} {session : Session σ Table} {table : Table} {store : σ}
  (isWord : IsWord word) (closed : ∀ other ∈ query :: queries, Closed other)
  (called : Invocation.directive? (wordToken word 0) = some directive)

include isWord closed called

/-- A stage with blocks leads where its directive does, if the row cap admits the table. -/
theorem leads_stage_iff {finish : Table × σ}
    (applied : ∀ tokens, engine.apply nested table ⟨directive, wordToken word 0, tokens,
      String.ofList (trim (blocksText (query :: queries)))⟩ = session) :
    engine.Leads nested [word ++ blocksText (query :: queries)] (table, store) finish ↔
      session store = (.ok finish.1, finish.2) ∧
        ∀ cap, engine.policy.rowCap = some cap → finish.1.rows ≤ cap := by
  obtain ⟨tokens, read, resolved⟩ := exists_lex_stage isWord closed called
  rw [leads_single_iff (by simp [blocksText]) read]
  simp only [runSegment_eq_ok_iff, resolved, Option.some.injEq, exists_eq_left', applied,
    Policy.admitRows_eq_ok_iff]

variable (noPipe : '|' ∉ word)
  (applied : ∀ tokens, engine.apply engine.nested Table.empty ⟨directive, wordToken word 0, tokens,
    String.ofList (trim (blocksText (query :: queries)))⟩ = session)

include noPipe applied

theorem ends_execute_stage_iff {finish : Table × σ} :
    (engine.execute ("| " ++ String.ofList (word ++ blocksText (query :: queries))) store).Ends
        finish ↔
      session store = (.ok finish.1, finish.2) ∧
        ∀ cap, engine.policy.rowCap = some cap → finish.1.rows ≤ cap := by
  obtain ⟨tokens, read, -⟩ := exists_lex_stage isWord closed called
  have someText : word ++ blocksText (query :: queries) ≠ [] := by simp [blocksText]
  have single : segmentsFrom 0 [word ++ blocksText (query :: queries)] =
      some [⟨0, String.ofList (word ++ blocksText (query :: queries)),
        wordToken word 0 :: tokens⟩] := by
    rw [segmentsFrom, if_neg (by simpa using someText), read]
    rfl
  rw [execute_pipe someText (trimmedPieces_stage isWord closed noPipe) read,
    ← leads_stage_iff isWord closed called applied, Leads, single]
  simp only [Option.some.injEq, exists_eq_left']

/-- When its directive fails, a query of one stage does, for the same reason. -/
theorem result_execute_stage_of_error {error : DirectiveError}
    (failed : (session store).1 = .error error) :
    ∃ keyword, (engine.execute ("| " ++ String.ofList (word ++ blocksText (query :: queries)))
      store).result = .error (.directive 0 keyword error) := by
  obtain ⟨tokens, read, resolved⟩ := exists_lex_stage isWord closed called
  rw [execute_pipe (by simp [blocksText]) (trimmedPieces_stage isWord closed noPipe) read,
    runSegments, runSegment, resolved]
  cases ran : session store with
  | mk result left =>
      rw [ran] at failed
      cases failed
      simp only [Session.bind_apply, applied, ran]
      exact ⟨_, rfl⟩

end Stage

/-! ## The two directives -/

/-- An `append` stage runs its query and stacks what that finds below the table. -/
theorem leads_append_query_iff {nested : NestedRun σ} {query : List Char} (closed : Closed query)
    {table : Table} {store : σ} {finish : Table × σ} :
    engine.Leads nested ["append".toList ++ blocksText [query]] (table, store) finish ↔
      ∃ extra, nested.query (String.ofList (trim query)) store = (.ok extra, finish.2) ∧
        finish.1 = Table.concat [table, extra] ∧
        ∀ cap, engine.policy.rowCap = some cap → finish.1.rows ≤ cap := by
  have each : ∀ other ∈ [query], Closed other := List.forall_mem_singleton.mpr closed
  have applied (tokens : List Token) : engine.apply nested table ⟨.append,
      wordToken "append".toList 0, tokens, String.ofList (trim (blocksText [query]))⟩ = _ :=
    Subsearch.append_of_block (bracketBlocks_blocksText each) table
  rw [leads_stage_iff (by decide) each (by decide) applied, Session.bind_pure_eq_ok_iff]
  constructor
  · rintro ⟨⟨extra, ran, stacked⟩, fits⟩
    exact ⟨extra, ran, stacked.symm, fits⟩
  · rintro ⟨extra, ran, stacked, fits⟩
    exact ⟨⟨extra, ran, stacked.symm⟩, fits⟩

/-- Stages behind a query go on with what it ends with. -/
theorem ends_execute_join_iff {query tail : String} {stages : List (List Char)}
    (closed : Closed query.toList) (cut : trimmedPieces '|' tail.toList = some stages)
    {store : σ} {finish : Table × σ} :
    (engine.execute (query ++ " | " ++ tail) store).Ends finish ↔
      ∃ middle, (engine.execute query store).Ends middle ∧
        engine.Leads engine.nested stages middle finish := by
  obtain ⟨raw, rawCut⟩ := exists_pieces_iff.mpr closed
  obtain ⟨first, later, rfl, -⟩ := exists_first_piece Scan.regular_start rawCut
  have front : trimmedPieces '|' query.toList = some (trim first :: later.map trim) := by
    rw [trimmedPieces, rawCut]
    rfl
  have whole : trimmedPieces '|' (query ++ " | " ++ tail).toList =
      some (trim first :: (later.map trim ++ stages)) := by
    rw [String.toList_append, String.toList_append, trimmedPieces_join front, cut]
    rfl
  simp only [ends_execute_iff, front, whole, Option.some.injEq]
  constructor
  · rintro ⟨_, tokens, table, rfl, read, started, leads⟩
    obtain ⟨middle, laterLeads, stagesLead⟩ := leads_append_iff.mp leads
    exact ⟨middle, ⟨_, tokens, table, rfl, read, started, laterLeads⟩, stagesLead⟩
  · rintro ⟨middle, ⟨_, tokens, table, rfl, read, started, laterLeads⟩, stagesLead⟩
    exact ⟨_, tokens, table, rfl, read, started,
      leads_append_iff.mpr ⟨middle, laterLeads, stagesLead⟩⟩

theorem apply_multisearch (engine : Engine) (nested : NestedRun σ) (table : Table)
    {first second : List Char} {queries : List (List Char)}
    (closed : ∀ other ∈ first :: second :: queries, Closed other)
    (tokens : List Token) :
    engine.apply nested table ⟨.multiSearch, wordToken "multisearch".toList 0, tokens,
        String.ofList (trim (blocksText (first :: second :: queries)))⟩ =
      (Subsearch.runAll nested ((first :: second :: queries).map fun query =>
        String.ofList (trim query)) >>= fun tables => pure (Table.concat tables)) :=
  Subsearch.multiSearch_of_blocks (bracketBlocks_blocksText closed) (by simp)

/-! ## Queries inside a directive and on their own -/

section Queries

variable {query : String} {store left : σ} {table : Table}

/-- Blanks around a query do not matter. -/
theorem ends_execute_trim_iff {finish : Table × σ} :
    (engine.execute (String.ofList (trim query.toList)) store).Ends finish ↔
      (engine.execute query store).Ends finish := by
  rw [ends_execute_iff, ends_execute_iff, String.toList_ofList, trimmedPieces_trim (by decide)]

/-- On its own a query runs one level higher, where no limit is nearer. -/
theorem inside_follows_execute (query : String) (store : σ) :
    (engine.runQuery (engine.nestedRun 1 engine.policy.nesting) query store).Follows
      (engine.execute query store) :=
  runQuery_follows (.refl engine) (.refl engine.policy)
    (nestedRun_follows (.refl engine) (.refl engine.policy) (Nat.zero_le 1)
      (Nat.le_succ engine.policy.nesting)) query store

theorem ends_of_query (ran : engine.nested.query query store = (.ok table, left)) :
    (engine.execute query store).Ends (table, left) := by
  obtain ⟨_, middle, admitted, ran⟩ := Session.exists_of_bind_eq_ok ran
  obtain rfl : store = middle := congrArg Prod.snd admitted
  have ended := Prod.ext_iff.mp ran
  have ends : (engine.runQuery (engine.nestedRun 1 engine.policy.nesting) query store).Ends
      (table, left) := ⟨Except.mapError_eq_ok_iff.mp ended.1, ended.2⟩
  obtain ⟨error, failed, -⟩ | same := inside_follows_execute query store
  · rw [ends.1] at failed
    cases failed
  · rwa [same] at ends

theorem query_of_ends (ends : (engine.execute query store).Ends (table, left)) :
    engine.nested.query query store = (.ok table, left) ∨
      ∃ error, (engine.nested.query query store).1 = .error error ∧ error.isLimit = true := by
  have ran : engine.nested.query query store = (Session.ofExcept
      ((engine.policy.admitDepth 1).mapError DirectiveError.policy) >>= fun _ =>
        asSession (engine.runQuery (engine.nestedRun 1 engine.policy.nesting) query)) store := rfl
  rw [ran, Session.bind_apply, Session.ofExcept]
  cases admits : engine.policy.admitDepth 1 with
  | error error => exact .inr ⟨.policy error, rfl, Policy.isLimit_of_admitDepth admits⟩
  | ok done =>
      simp only [Except.mapError, asSession]
      obtain ⟨error, failed, limit⟩ | same := inside_follows_execute query store
      · rw [failed]
        exact .inr ⟨.subsearch error, rfl, limit⟩
      · rw [same, ends.1, ends.2]
        exact .inl rfl

end Queries

end Engine

end LogPipe
