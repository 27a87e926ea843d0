import LogPipe.Proofs.Engine.Invariant
import LogPipe.Proofs.Engine.Composition
import LogPipe.Proofs.Filter.Selection

/-!
# Filters in index clauses

An index clause filters the rows of its index before the first stage.  A `search` stage with
the same clause selects the same rows: the tokens of the clause look the same behind the name
of the index and behind the keyword, and a table that is selected whole is the index itself.
-/

namespace LogPipe

open LogPipe.Query LogPipe.Text

section Texts

/-- A clause behind a blank keeps a gap to the text in front of it, unless it is blank. -/
theorem exists_gap_of_trim {front : List Char} (tight : Tight front) (someFront : front ≠ [])
    (clause : List Char) :
    ∃ gap, BlankRun gap ∧ trim (front ++ ' ' :: clause) = front ++ (gap ++ trim clause) ∧
      ∀ c ∈ (gap ++ trim clause).head?, isBlank c = true := by
  by_cases blank : trim clause = []
  · refine ⟨[], blankRun_nil, ?_, by simp [blank]⟩
    have gap : BlankRun (' ' :: clause) :=
      blankRun_space.append (blankRun_of_trim_eq_nil blank)
    rw [trim_append_blank gap, trim_eq_self tight, blank, List.append_nil, List.append_nil]
  · obtain ⟨before, after, beforeBlank, afterBlank, split⟩ := exists_blanks_around_trim clause
    have whole := tight.append (tight_trim clause) someFront blank ([' '] ++ before)
    have trimmed := trim_of_tight whole blankRun_nil afterBlank
    refine ⟨' ' :: before, blankRun_space.append beforeBlank, ?_, ?_⟩
    · have shape : front ++ ' ' :: clause =
          [] ++ (front ++ ([' '] ++ before) ++ trim clause) ++ after := by
        conv => lhs; rw [split]
        simp
      rw [shape, trimmed]
      simp
    · rintro c ⟨⟩
      decide

/-- Behind a gap a clause is read as it is read alone. -/
theorem exists_lexFrom_gap {core gap : List Char} {others : List Token}
    (read : lex (String.ofList core) = .ok others) (blank : BlankRun gap) (whole : String)
    (place : Nat) :
    ∃ tokens, lexFrom whole [] place (gap ++ core) = .ok tokens ∧
      tokens.map Token.look = others.map Token.look := by
  have same : looks (lexFrom whole [] (place + String.utf8Len gap) core) =
      looks (lex (String.ofList core)) := by
    rw [lex, String.toList_ofList]
    exact looks_lexFrom _ _ _ rfl
  rw [read] at same
  obtain ⟨tokens, found, look⟩ := Option.map_eq_some_iff.mp same
  rw [lexFrom_blank_append blank]
  exact ⟨tokens, Except.toOption_eq_some_iff.mp found, look⟩

/-- A word, a gap and a clause are read as the token of the word and those of the clause. -/
theorem exists_lex_word {word core gap : List Char} {others : List Token} (isWord : IsWord word)
    (read : lex (String.ofList core) = .ok others) (blank : BlankRun gap)
    (ends : ∀ c ∈ (gap ++ core).head?, isBlank c = true) :
    ∃ tokens, lex (String.ofList (word ++ (gap ++ core))) = .ok (wordToken word 0 :: tokens) ∧
      tokens.map Token.look = others.map Token.look := by
  obtain ⟨tokens, found, look⟩ := exists_lexFrom_gap read blank
    (String.ofList (word ++ (gap ++ core))) (wordToken word 0).stop
  refine ⟨tokens, ?_, look⟩
  rw [lex, String.toList_ofList,
    lexFrom_word isWord fun c isFirst => isWordPart_of_isBlank (ends c isFirst)]
  simp only [found]
  rfl

/-- The tokens of two words with an equals sign between them. -/
def equationTokens (key value : List Char) : List Token :=
  let place := (wordToken key 0).stop
  [wordToken key 0, charToken .operator '=' place, wordToken value (place + 1)]

theorem exists_lex_equation {key value core gap : List Char} {others : List Token}
    (keyWord : IsWord key) (valueWord : IsWord value)
    (read : lex (String.ofList core) = .ok others) (blank : BlankRun gap)
    (ends : ∀ c ∈ (gap ++ core).head?, isBlank c = true) :
    ∃ tokens, lex (String.ofList (key ++ '=' :: (value ++ (gap ++ core)))) =
        .ok (equationTokens key value ++ tokens) ∧
      tokens.map Token.look = others.map Token.look := by
  have alone : (value ++ (gap ++ core)).head? ≠ some '=' := by
    cases value with
    | nil => cases valueWord
    | cons c rest =>
        rintro ⟨⟩
        cases valueWord.1.1
  obtain ⟨tokens, found, look⟩ := exists_lexFrom_gap read blank
    (String.ofList (key ++ '=' :: (value ++ (gap ++ core))))
    (wordToken value ((wordToken key 0).stop + 1)).stop
  refine ⟨tokens, ?_, look⟩
  rw [lex, String.toList_ofList, lexFrom_word keyWord (by rintro c ⟨⟩; decide)]
  simp only [lexFrom_equals alone,
    lexFrom_word valueWord fun c isFirst => isWordPart_of_isBlank (ends c isFirst), found]
  rfl

theorem isWord_index : IsWord "index".toList := by
  decide

theorem isWord_search : IsWord "search".toList := by
  decide

/-- A cut at pipes passes over a word that holds none. -/
theorem plain_of_isWord {word : List Char} (isWord : IsWord word) (noPipe : '|' ∉ word) :
    ∀ c ∈ word, isQuote c = false ∧ isBracket c = false ∧ c ≠ '|' := by
  intro c member
  obtain ⟨unquoted, noBracket⟩ := Lexeme.plain_of_isWordPart (isWord.parts c member)
  exact ⟨unquoted, noBracket, fun same => noPipe (same ▸ member)⟩

end Texts

theorem unquoted_wordToken (word : List Char) (place : Nat) :
    (wordToken word place).unquoted = String.ofList word := by
  rw [Token.unquoted, wordToken]
  split <;> simp_all

/-- An index clause that starts by naming an index selects from it what the rest selects. -/
theorem Indexes.toOption_select (indexes : Indexes) (name : List Char) (tokens : List Token) :
    ∃ text, (indexes.select (equationTokens "index".toList name ++ tokens)).toOption =
      (indexes.lookup (String.ofList name)).bind (FilterClause.select? tokens text) := by
  have clause : clauseOf (equationTokens "index".toList name ++ tokens) =
      equationTokens "index".toList name ++ tokens := rfl
  have named : takeName (equationTokens "index".toList name ++ tokens) =
      (some (String.ofList name), tokens) := by
    have key : (wordToken "index".toList 0).isKeyword "index" = true := by decide
    have sign (place : Nat) : (charToken .operator '=' place).isOperator "=" = true := by
      change (TokenKind.operator == .operator && String.singleton '=' == "=") = true
      decide
    simp only [equationTokens, List.cons_append, List.nil_append, takeName, key, sign,
      Bool.and_self, if_true, unquoted_wordToken]
  refine ⟨clauseText (equationTokens "index".toList name ++ tokens), ?_⟩
  rw [select]
  simp only [clause, named]
  cases indexes.lookup (String.ofList name) with
  | none => rfl
  | some table =>
      simp only [FilterClause.select?, Except.toOption_bind, Option.bind_some]
      cases FilterClause.ofTokens tokens _ with
      | error error => rfl
      | ok filter => exact Except.toOption_mapError (filter.apply table) IndexError.filter

namespace Engine

variable {σ : Type} [LookupStore σ] {engine : Engine} (uncapped : engine.policy.rowCap = none)

include uncapped

theorem admitRows_uncapped (subject : String) (rows : Nat) :
    engine.policy.admitRows subject rows = .ok () := by
  rw [Policy.admitRows, uncapped]

/-- Without a row cap a query starts from whatever its index clause selects. -/
theorem toOption_startTable (clause : String) (token : Token) (tokens : List Token) :
    (engine.startTable ⟨clause, token :: tokens, []⟩).toOption =
      (engine.indexes.select (token :: tokens)).toOption := by
  rw [startTable]
  simp only [List.isEmpty_cons, Bool.false_eq_true, if_false]
  cases engine.indexes.select (token :: tokens) with
  | error error => rfl
  | ok table =>
      simp only [Except.mapError, admitRows_uncapped uncapped]
      rfl

section Search

variable {nested : NestedRun σ} {stage : List Char} {keyword : Token} {tokens : List Token}
  (someText : stage ≠ []) (called : Invocation.directive? keyword = some .search)
  (read : lex (String.ofList stage) = .ok (keyword :: tokens))

include someText called read

/-- A search stage keeps the rows that its tokens select, and the store. -/
theorem leads_search_iff {start finish : Table × σ} :
    engine.Leads nested [stage] start finish ↔
      FilterClause.select? tokens "" start.1 = some finish.1 ∧ start.2 = finish.2 := by
  let segment : Segment := ⟨0, String.ofList stage, keyword :: tokens⟩
  let invocation : Invocation := ⟨.search, keyword, tokens, segment.argumentText⟩
  have resolved : Invocation.ofSegment? segment = some invocation := by
    simp [Invocation.ofSegment?, segment, Segment.keyword?, called, invocation, Segment.arguments]
  have searched (table : Table) : (Aggregation.search table invocation).toOption =
      FilterClause.select? tokens segment.argumentText table := by
    rw [Aggregation.search, FilterClause.select?, Except.toOption_bind]
    cases FilterClause.ofTokens tokens segment.argumentText with
    | error error => rfl
    | ok clause => exact Except.toOption_mapError (clause.apply table) DirectiveError.filter
  rw [leads_single_iff someText read, FilterClause.select?_congr rfl "" segment.argumentText,
    ← searched, Except.toOption_eq_some_iff]
  simp only [runSegment_eq_ok_iff]
  constructor
  · rintro ⟨_, called, found, -, applied, -⟩
    rw [resolved] at found
    cases found
    exact Prod.ext_iff.mp applied
  · intro applied
    exact ⟨_, invocation, resolved, rfl, Prod.ext_iff.mpr applied, admitRows_uncapped uncapped _ _⟩

/-- Stages behind a search stage go on with the rows that it keeps. -/
theorem leads_search_append_iff {stages : List (List Char)} {table : Table} {store : σ}
    {finish : Table × σ} :
    engine.Leads nested ([stage] ++ stages) (table, store) finish ↔
      ∃ kept, FilterClause.select? tokens "" table = some kept ∧
        engine.Leads nested stages (kept, store) finish := by
  rw [leads_append_iff]
  constructor
  · rintro ⟨⟨kept, _⟩, stageLeads, leads⟩
    obtain ⟨selected, rfl⟩ := (leads_search_iff uncapped someText called read).mp stageLeads
    exact ⟨kept, selected, leads⟩
  · rintro ⟨kept, selected, leads⟩
    exact ⟨(kept, store), (leads_search_iff uncapped someText called read).mpr ⟨selected, rfl⟩,
      leads⟩

end Search

end Engine

/-- A name that is one word of a query. -/
structure Indexes.WordName (name : String) : Prop where
  word : IsWord name.toList
  noPipe : '|' ∉ name.toList

section Clauses

variable {clause : List Char} (whole : pieces '|' clause = some [clause])

include whole

/-- Plain text in front of a clause without pipes makes one stage with it. -/
theorem trimmedPieces_front {front : List Char}
    (plain : ∀ c ∈ front, isQuote c = false ∧ isBracket c = false ∧ c ≠ '|') :
    trimmedPieces '|' (front ++ ' ' :: clause) = some [trim (front ++ ' ' :: clause)] := by
  have spaced : ∀ c ∈ front ++ [' '], isQuote c = false ∧ isBracket c = false ∧ c ≠ '|' := by
    intro c member
    rcases List.mem_append.mp member with inFront | isSpace
    · exact plain c inFront
    · rw [List.mem_singleton.mp isSpace]
      decide
  have shape : front ++ ' ' :: clause = front ++ [' '] ++ clause := by simp
  rw [trimmedPieces, shape, pieces_plain_append spaced, whole]
  simp

end Clauses

/-- The text that names an index. -/
def namingText (name : String) : List Char :=
  "index".toList ++ '=' :: name.toList

theorem plain_namingText {name : String} (wordName : Indexes.WordName name) :
    ∀ c ∈ namingText name, isQuote c = false ∧ isBracket c = false ∧ c ≠ '|' := by
  intro c member
  rcases List.mem_append.mp member with inKey | rest
  · exact plain_of_isWord isWord_index (by decide) c inKey
  · rcases List.mem_cons.mp rest with rfl | inName
    · decide
    · exact plain_of_isWord wordName.word wordName.noPipe c inName

theorem tight_namingText {name : String} (wordName : Indexes.WordName name) :
    Tight (namingText name) := by
  refine tight_of_solid fun c member => ?_
  rcases List.mem_append.mp member with inKey | rest
  · exact isBlank_of_isWordPart (isWord_index.parts c inKey)
  · rcases List.mem_cons.mp rest with rfl | inName
    · decide
    · exact isBlank_of_isWordPart (wordName.word.parts c inName)

theorem trimmedPieces_namingText {name : String} (wordName : Indexes.WordName name) :
    trimmedPieces '|' (namingText name) = some [namingText name] := by
  have cut := @pieces_plain_append '|' [] (namingText name) (plain_namingText wordName)
  rw [List.append_nil] at cut
  rw [trimmedPieces, cut]
  simp [pieces, piecesFrom, Scan.isTopLevel, trim_eq_self (tight_namingText wordName)]

namespace Engine

section Runs

variable {σ : Type} [LookupStore σ] {engine : Engine} (uncapped : engine.policy.rowCap = none)
  {name clause tail : String} (wordName : Indexes.WordName name)

include uncapped wordName

/-- A query starts from the rows that the clause behind the name of its index selects. -/
theorem exists_startTable_iff {core gap : List Char} {others : List Token}
    (read : lex (String.ofList core) = .ok others) (blank : BlankRun gap)
    (ends : ∀ c ∈ (gap ++ core).head?, isBlank c = true) :
    ∃ tokens, lex (String.ofList (namingText name ++ (gap ++ core))) = .ok tokens ∧
      ∀ text table, engine.startTable ⟨text, tokens, []⟩ = .ok table ↔
        ∃ base, engine.indexes.lookup name = some base ∧
          FilterClause.select? others "" base = some table := by
  obtain ⟨tokens, found, look⟩ := exists_lex_equation isWord_index wordName.word read blank ends
  have shape : namingText name ++ (gap ++ core) =
      "index".toList ++ '=' :: (name.toList ++ (gap ++ core)) := by
    rw [namingText, List.append_assoc, List.cons_append]
  refine ⟨_, shape ▸ found, fun text table => ?_⟩
  obtain ⟨quoted, selects⟩ := engine.indexes.toOption_select name.toList tokens
  have started : (engine.startTable ⟨text, equationTokens "index".toList name.toList ++ tokens,
      []⟩).toOption = _ := (toOption_startTable uncapped text _ _).trans selects
  rw [← Except.toOption_eq_some_iff, started, Option.bind_eq_some_iff, String.ofList_toList]
  simp only [FilterClause.select?_congr look quoted ""]

variable (whole : pieces '|' clause.toList = some [clause.toList]) {others : List Token}
  (read : lex (String.ofList (trim clause.toList)) = .ok others) {store : σ}
  {finish : Table × σ}

include whole read

/-- A query with a clause in front starts from the rows that its tokens select. -/
theorem ends_clause_iff :
    (engine.execute ("index=" ++ name ++ " " ++ clause ++ " | " ++ tail) store).Ends finish ↔
      ∃ base table stages, engine.indexes.lookup name = some base ∧
        FilterClause.select? others "" base = some table ∧
        trimmedPieces '|' tail.toList = some stages ∧
        engine.Leads engine.nested stages (table, store) finish := by
  obtain ⟨gap, blank, trimmed, ends⟩ :=
    exists_gap_of_trim (tight_namingText wordName) (by simp [namingText]) clause.toList
  obtain ⟨tokens, clauseRead, started⟩ := exists_startTable_iff uncapped wordName read blank ends
  have text : ("index=" ++ name ++ " " ++ clause ++ " | " ++ tail).toList =
      namingText name ++ ' ' :: clause.toList ++ " | ".toList ++ tail.toList := by
    simp [namingText]
  rw [ends_execute_iff, text, trimmedPieces_join (trimmedPieces_front whole
    (plain_namingText wordName)), trimmed]
  constructor
  · rintro ⟨_, _, table, cut, same, start, leads⟩
    obtain ⟨stages, tailCut, rfl⟩ := Option.map_eq_some_iff.mp cut
    rw [List.singleton_append, List.headD_cons, clauseRead] at same
    cases same
    obtain ⟨base, found, selected⟩ := (started _ table).mp start
    exact ⟨base, table, stages, found, selected, tailCut, leads⟩
  · rintro ⟨base, table, stages, found, selected, tailCut, leads⟩
    exact ⟨[namingText name ++ (gap ++ trim clause.toList)] ++ stages, tokens, table,
      by rw [tailCut]; rfl, clauseRead, (started _ table).mpr ⟨base, found, selected⟩, leads⟩

/-- A query with a search stage goes on with the rows that its tokens select. -/
theorem ends_search_iff (wellFormed : ∀ entry ∈ engine.indexes, entry.2.WellFormed) :
    (engine.execute ("index=" ++ name ++ " | search " ++ clause ++ " | " ++ tail) store).Ends
        finish ↔
      ∃ base table stages, engine.indexes.lookup name = some base ∧
        FilterClause.select? others "" base = some table ∧
        trimmedPieces '|' tail.toList = some stages ∧
        engine.Leads engine.nested stages (table, store) finish := by
  obtain ⟨gap, blank, trimmed, ends⟩ :=
    exists_gap_of_trim isWord_search.tight (by decide) clause.toList
  obtain ⟨searching, stageRead, look⟩ := exists_lex_word isWord_search read blank ends
  obtain ⟨naming, namingRead, started⟩ :=
    exists_startTable_iff uncapped wordName lex_trim_nil blankRun_nil (by rintro c ⟨⟩)
  have namingShape : namingText name ++ ([] ++ trim []) = namingText name := List.append_nil _
  rw [namingShape] at namingRead
  have someText : "search".toList ++ (gap ++ trim clause.toList) ≠ [] := by simp
  generalize "search".toList ++ (gap ++ trim clause.toList) = stage at trimmed stageRead someText
  have searched {stages : List (List Char)} {base : Table} :
      engine.Leads engine.nested ([stage] ++ stages) (base, store) finish ↔
        ∃ kept, FilterClause.select? others "" base = some kept ∧
          engine.Leads engine.nested stages (kept, store) finish := by
    rw [leads_search_append_iff uncapped someText (by decide) stageRead]
    simp only [FilterClause.select?_congr look "" ""]
  have text : ("index=" ++ name ++ " | search " ++ clause ++ " | " ++ tail).toList =
      namingText name ++ " | ".toList ++
        ("search".toList ++ ' ' :: clause.toList ++ " | ".toList ++ tail.toList) := by
    simp [namingText]
  rw [ends_execute_iff, text, trimmedPieces_join (trimmedPieces_namingText wordName),
    trimmedPieces_join (trimmedPieces_front whole (plain_of_isWord isWord_search (by decide))),
    trimmed]
  have selected {base : Table} (found : engine.indexes.lookup name = some base) :
      FilterClause.select? [] "" base = some base :=
    FilterClause.select?_nil (wellFormed _ (Table.mem_of_lookup found)) ""
  constructor
  · rintro ⟨_, _, start, cut, same, startGiven, leads⟩
    obtain ⟨_, rest, rfl⟩ := Option.map_eq_some_iff.mp cut
    obtain ⟨stages, tailCut, rfl⟩ := Option.map_eq_some_iff.mp rest
    rw [List.singleton_append, List.headD_cons, namingRead] at same
    cases same
    obtain ⟨base, found, chosen⟩ := (started _ start).mp startGiven
    rw [selected found] at chosen
    cases chosen
    obtain ⟨table, kept, tailLeads⟩ := searched.mp leads
    exact ⟨start, table, stages, found, kept, tailCut, tailLeads⟩
  · rintro ⟨base, table, stages, found, kept, tailCut, leads⟩
    exact ⟨[namingText name] ++ ([stage] ++ stages), naming, base, by rw [tailCut]; rfl,
      namingRead, (started _ base).mpr ⟨base, found, selected found⟩,
      searched.mpr ⟨table, kept, leads⟩⟩

end Runs

/-- Filtering in an index clause is a search that is pushed down.  Without a row cap, a query
whose index clause names an index and filters its rows fails when the query does that names
the index alone and filters in a search stage; otherwise both end with the same table and
leave the same lookups. -/
theorem index_clause_is_search {σ : Type} [LookupStore σ] (engine : Engine) (store : σ)
    (uncapped : engine.policy.rowCap = none)
    (wellFormed : ∀ entry ∈ engine.indexes, entry.2.WellFormed) {name clause : String}
    (tail : String) (wordName : Indexes.WordName name) (closed : Closed clause.toList)
    (noPipe : ∀ before after, clause.toList = before ++ '|' :: after → ¬Closed before) :
    let pushed := engine.execute ("index=" ++ name ++ " " ++ clause ++ " | " ++ tail) store
    let plain := engine.execute ("index=" ++ name ++ " | search " ++ clause ++ " | " ++ tail) store
    ((∃ error, pushed.result = .error error) ∧ ∃ error, plain.result = .error error) ∨
      ∃ table, pushed.result = .ok table ∧ plain.result = .ok table ∧
        plain.store = pushed.store := by
  intro pushed plain
  have whole := (pieces_eq_single_iff (by decide)).mpr ⟨closed, noPipe⟩
  obtain ⟨tokens, read⟩ := exists_lex_trim closed
  have same {finish : Table × σ} : pushed.Ends finish ↔ plain.Ends finish :=
    (ends_clause_iff uncapped wordName whole read).trans
      (ends_search_iff uncapped wordName whole read wellFormed).symm
  cases done : pushed.result with
  | ok table =>
      have ends : pushed.Ends (table, pushed.store) := ⟨done, rfl⟩
      obtain ⟨plainDone, left⟩ := same.mp ends
      exact .inr ⟨table, rfl, plainDone, left⟩
  | error error =>
      refine .inl ⟨⟨error, rfl⟩, ?_⟩
      cases plainDone : plain.result with
      | error other => exact ⟨other, rfl⟩
      | ok table =>
          have ends : plain.Ends (table, plain.store) := ⟨plainDone, rfl⟩
          obtain ⟨pushedDone, -⟩ := same.mpr ends
          rw [done] at pushedDone
          cases pushedDone

/-- A clause with brackets, and with a pipe inside quotes. -/
def quotedClause : String :=
  "(host=\"a\" OR status<300) host!=\"|\""

/-- Both requests are selected, one by each side of the disjunction. -/
theorem index_clause_is_search_quoted :
    ∃ table,
      (webEngine.execute ("index=" ++ "web" ++ " " ++ quotedClause ++ " | " ++
        "lookup owners host | outputlookup kept") hostOwners).result = .ok table ∧
      (webEngine.execute ("index=" ++ "web" ++ " | search " ++ quotedClause ++ " | " ++
        "lookup owners host | outputlookup kept") hostOwners).result = .ok table ∧
      table.rows = 2 := by
  have whole : pieces '|' quotedClause.toList = some [quotedClause.toList] := by decide +kernel
  obtain ⟨closed, noPipe⟩ := (pieces_eq_single_iff (by decide)).mp whole
  have wordName : Indexes.WordName "web" := ⟨by decide, by decide⟩
  have same := index_clause_is_search webEngine hostOwners rfl
    (List.forall_mem_singleton.mpr (by decide)) "lookup owners host | outputlookup kept" wordName
    closed noPipe
  obtain ⟨table, done, rows⟩ := Except.exists_ok_of_toOption
    (show (webEngine.execute ("index=" ++ "web" ++ " " ++ quotedClause ++ " | " ++
      "lookup owners host | outputlookup kept") hostOwners).result.toOption.map Table.rows =
        some 2 by decide +kernel)
  obtain ⟨⟨_, failed⟩, -⟩ | ⟨other, pushed, plain, -⟩ := same
  · rw [done] at failed
    cases failed
  · rw [done] at pushed
    cases pushed
    exact ⟨table, done, plain, rows⟩

end Engine

end LogPipe
