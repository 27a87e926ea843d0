import LogPipe.Proofs.Engine.Pushdown
import LogPipe.Proofs.Filter.Equivalence

/-!
# The name of an index in front of a filter

The name of an index is cut out of its clause, and what stands behind it is read as a filter of
its own.  So a filter may stand next to the name.  A keyword between the two belongs to neither:
it is left in front of the filter, where it joins nothing, and every index refuses the clause.
-/

namespace LogPipe

open LogPipe.Query LogPipe.Text String

/-- A filter does not start with a keyword that joins two of them. -/
theorem Filter.ofTokens_and {token : Token} (word : token.isKeyword "AND" = true)
    (tokens : List Token) :
    Filter.ofTokens (token :: tokens) = .error (.keywordAlone token.value token.offset) := by
  have kind : token.kind = .identifier := kind_of_isKeyword word
  have noBracket : token.isPunctuation "(" = false := by simp [Token.isPunctuation, kind]
  have notTrue : token.isKeyword "true" = false := not_isKeyword_of_isKeyword (by decide) word
  have notFalse : token.isKeyword "false" = false := not_isKeyword_of_isKeyword (by decide) word
  have alone : Filter.isKeyword token = true := by simp [Filter.isKeyword, word]
  have operand (limit : Nat) : readPrimary limit (token :: tokens) =
      .error (.keywordAlone token.value token.offset) := by
    rw [readPrimary_single noBracket]
    simp [readOperand, kind, notTrue, notFalse, alone]
  simp only [Filter.ofTokens, readDisjunction, readConjunction, readPredicate, operand]

namespace FilterClause

/-- Tokens that look like a filter are read as one, wherever they stand. -/
theorem ofTokens_of_looks {tokens others : List Token} {clause : String} {filter : FilterClause}
    (accepted : ofTokens others clause = .ok filter)
    (look : tokens.map Token.look = others.map Token.look) (text : String) :
    ofTokens tokens text = .ok ⟨text, filter.filter⟩ := by
  cases others with
  | nil =>
      obtain rfl := List.map_eq_nil_iff.mp look
      cases accepted
      rfl
  | cons first later =>
      obtain ⟨token, rest, rfl, -, -⟩ := List.map_eq_cons_iff.mp look
      cases read : Filter.ofTokens (first :: later) with
      | error fault =>
          rw [ofTokens] at accepted
          · simp only [read] at accepted
            cases accepted
          · exact List.cons_ne_nil _ _
      | ok found =>
          have same := Filter.toOption_ofTokens look
          rw [read] at same
          have readHere := Except.toOption_eq_some_iff.mp same
          rw [ofTokens] at accepted ⊢
          · simp only [read] at accepted
            cases accepted
            simp only [readHere]
          · exact List.cons_ne_nil _ _
          · exact List.cons_ne_nil _ _

/-- A clause is read when its tokens are. -/
theorem exists_tokens_of_ofText {clause : String} {filter : FilterClause}
    (accepted : ofText clause = .ok filter) :
    ∃ tokens, lex clause = .ok tokens ∧ ofTokens tokens clause = .ok filter := by
  rw [ofText] at accepted
  cases read : lex clause with
  | error error =>
      rw [read] at accepted
      cases accepted
  | ok tokens =>
      rw [read] at accepted
      exact ⟨tokens, rfl, accepted⟩

/-- A filter that was read is not refused by a table for the way it is written. -/
theorem apply_ne_keywordAlone {table : Table} (wellFormed : table.WellFormed)
    (clause : FilterClause) (text value : String) (offset : Nat) :
    clause.apply table ≠ .error (.malformed text (.keywordAlone value offset)) := by
  have kept (mask : List Bool) : (table.filterRows mask).mapError FilterError.table ≠
      .error (.malformed text (.keywordAlone value offset)) := by
    intro failed
    obtain ⟨error, -, wrapped⟩ := Except.mapError_eq_error_iff.mp failed
    cases wrapped
  intro failed
  obtain ⟨quoted, filter⟩ := clause
  cases filter with
  | none => exact kept _ failed
  | some filter =>
      have answers := mask_answers wellFormed quoted filter
      rw [apply] at failed
      cases masked : mask ⟨quoted, some filter⟩ table with
      | ok rows =>
          rw [masked] at failed
          exact kept rows failed
      | error error =>
          rw [masked] at failed answers
          cases failed
          have blames := @Filter.fault_blames table.names filter
          generalize foretold : (fun clause => filter.fault clause table.names) = fault at blames
          have here : filter.fault quoted table.names = fault quoted := congrFun foretold quoted
          rw [here] at answers
          cases blames with
          | nothing =>
              obtain ⟨_, succeeded, -⟩ := answers
              cases succeeded
          | column absent => cases answers
          | literal listed notTruth => cases answers

end FilterClause

namespace Indexes

/-- The ways to write the name of an index: as a word, or in quotes. -/
inductive Spells : List Char → String → Prop where
  | word {word : List Char} : IsWord word → Spells word (ofList word)
  | quoted {quote : Char} {inside : List Char} :
      isQuote quote = true → Quotable quote inside →
      Spells (quote :: (inside ++ [quote])) (unquote (ofList (quote :: (inside ++ [quote]))))

/-- The tokens in front of a filter, up to the name. -/
def nameTokens (value : Token) : List Token :=
  [wordToken "index".toList 0, charToken .operator '=' 5, value]

/-- The name in front of a blank is one token. -/
theorem Spells.exists_lexFrom {spelling : List Char} {name : String}
    (spelled : Spells spelling name) (whole : String) (rest : List Char) :
    ∃ value : Token, value.unquoted = name ∧ value.stop = 6 + utf8Len spelling ∧
      lexFrom whole [] 0 ("index=".toList ++ (spelling ++ ' ' :: rest)) = (do
        let tokens ← lexFrom whole [] (value.stop + 1) rest
        pure (nameTokens value ++ tokens)) := by
  have behind (place : Nat) : lexFrom whole [] place (' ' :: rest) =
      lexFrom whole [] (place + 1) rest := lexFrom_blank_append blankRun_space
  have front (alone : (spelling ++ ' ' :: rest).head? ≠ some '=') :
      lexFrom whole [] 0 ("index=".toList ++ (spelling ++ ' ' :: rest)) = (do
        let tokens ← lexFrom whole [] 6 (spelling ++ ' ' :: rest)
        pure (wordToken "index".toList 0 :: charToken .operator '=' 5 :: tokens)) := by
    have shape : "index=".toList ++ (spelling ++ ' ' :: rest) =
        "index".toList ++ '=' :: (spelling ++ ' ' :: rest) := rfl
    rw [shape, lexFrom_word isWord_index (by rintro c ⟨⟩; decide)]
    simp only [lexFrom_equals alone]
    have stop : (wordToken "index".toList 0).stop = 5 := by decide
    rw [stop]
    cases lexFrom whole [] 6 (spelling ++ ' ' :: rest) <;> rfl
  -- Behind the sign the two spellings differ in what ends them only.
  cases spelled with
  | word isWord =>
      refine ⟨wordToken spelling 6, unquoted_wordToken spelling 6, ?_, ?_⟩
      · rw [Token.stop, wordToken, utf8ByteSize_ofList]
      · have alone : (spelling ++ ' ' :: rest).head? ≠ some '=' := by
          cases spelling with
          | nil => cases isWord
          | cons c later =>
              rintro ⟨⟩
              cases isWord.1.1
        rw [front alone, lexFrom_word isWord (by rintro c ⟨⟩; decide)]
        simp only [behind]
        cases lexFrom whole [] _ rest <;> rfl
  | @quoted quote inside isOpening quotable =>
      refine ⟨⟨.quotedLiteral, ofList (quote :: (inside ++ [quote])), 6⟩, rfl, ?_, ?_⟩
      · rw [Token.stop, utf8ByteSize_ofList]
      · have alone : (quote :: (inside ++ [quote]) ++ ' ' :: rest).head? ≠ some '=' := by
          rintro ⟨⟩
          cases isOpening
        have shape : quote :: (inside ++ [quote]) ++ ' ' :: rest =
            quote :: (inside ++ quote :: ' ' :: rest) := by simp
        rw [front alone, shape, lexFrom_quoted isOpening quotable]
        simp only [behind]
        cases lexFrom whole [] _ rest <;> rfl

variable (indexes : Indexes)

/-- What stands behind the name of an index filters its rows. -/
theorem select_nameTokens (value : Token) (tokens : List Token) :
    indexes.select (nameTokens value ++ tokens) =
      match indexes.lookup value.unquoted with
      | none => .error (.unknownIndex value.unquoted)
      | some table =>
          match FilterClause.ofTokens tokens (clauseText (nameTokens value ++ tokens)) with
          | .error error => .error (.filter error)
          | .ok filter => (filter.apply table).mapError .filter := by
  have clause : clauseOf (nameTokens value ++ tokens) = nameTokens value ++ tokens := rfl
  have named : takeName (nameTokens value ++ tokens) = (some value.unquoted, tokens) := by
    have key : (wordToken "index".toList 0).isKeyword "index" = true := by decide
    have sign : (charToken .operator '=' 5).isOperator "=" = true := by decide
    simp only [nameTokens, List.cons_append, List.nil_append, takeName, key, sign, Bool.and_self,
      if_true]
  cases found : indexes.lookup value.unquoted with
  | none => simp only [select, clause, named, found]
  | some table =>
      cases read : FilterClause.ofTokens tokens (clauseText (nameTokens value ++ tokens)) with
      | error error => simp only [select, clause, named, found, read]
      | ok filter => simp only [select, clause, named, found, read]

section Clauses

variable {spelling name clause : String} {filter : FilterClause}
  (spelled : Spells spelling.toList name) (accepted : FilterClause.ofText clause = .ok filter)

include spelled accepted

/-- A filter next to the name of an index filters its rows. -/
theorem exists_select_adjacent :
    ∃ tokens, lex ("index=" ++ spelling ++ " " ++ clause) = .ok tokens ∧
      indexes.select tokens =
        match indexes.lookup name with
        | none => .error (.unknownIndex name)
        | some table =>
            (FilterClause.apply ⟨clauseText tokens, filter.filter⟩ table).mapError .filter := by
  obtain ⟨others, read, parsed⟩ := FilterClause.exists_tokens_of_ofText accepted
  rw [← ofList_toList (s := clause)] at read
  have text : ("index=" ++ spelling ++ " " ++ clause).toList =
      "index=".toList ++ (spelling.toList ++ ' ' :: clause.toList) := by simp
  obtain ⟨value, rfl, -, named⟩ :=
    spelled.exists_lexFrom ("index=" ++ spelling ++ " " ++ clause) clause.toList
  obtain ⟨tokens, found, look⟩ := exists_lexFrom_gap read blankRun_nil
    ("index=" ++ spelling ++ " " ++ clause) (value.stop + 1)
  rw [List.nil_append] at found
  refine ⟨nameTokens value ++ tokens, ?_, ?_⟩
  · rw [lex, text, named, found]
    rfl
  · rw [select_nameTokens]
    simp only [FilterClause.ofTokens_of_looks parsed look]

/-- A keyword between the name of an index and a filter is left in front of the filter. -/
theorem exists_select_joined :
    ∃ tokens, lex ("index=" ++ spelling ++ " AND " ++ clause) = .ok tokens ∧
      indexes.select tokens =
        match indexes.lookup name with
        | none => .error (.unknownIndex name)
        | some _ => .error (.filter (.malformed (clauseText tokens)
            (.keywordAlone "AND" ("index=" ++ spelling ++ " ").utf8ByteSize))) := by
  obtain ⟨others, read, -⟩ := FilterClause.exists_tokens_of_ofText accepted
  rw [← ofList_toList (s := clause)] at read
  have text : ("index=" ++ spelling ++ " AND " ++ clause).toList =
      "index=".toList ++ (spelling.toList ++ ' ' :: ("AND".toList ++ ' ' :: clause.toList)) := by
    simp
  obtain ⟨value, rfl, stop, named⟩ := spelled.exists_lexFrom
    ("index=" ++ spelling ++ " AND " ++ clause) ("AND".toList ++ ' ' :: clause.toList)
  have place : value.stop + 1 = ("index=" ++ spelling ++ " ").utf8ByteSize := by
    have front : "index=".utf8ByteSize = 6 := by decide
    have blank : " ".utf8ByteSize = 1 := by decide
    rw [stop, utf8ByteSize_append, utf8ByteSize_append, utf8Len_toList, front, blank]
  obtain ⟨tokens, found, -⟩ := exists_lexFrom_gap read blankRun_space
    ("index=" ++ spelling ++ " AND " ++ clause) (wordToken "AND".toList (value.stop + 1)).stop
  rw [List.singleton_append] at found
  have keyword : (wordToken "AND".toList (value.stop + 1)).isKeyword "AND" = true := by
    change (wordToken "AND".toList 0).isKeyword "AND" = true
    decide
  refine ⟨nameTokens value ++ wordToken "AND".toList (value.stop + 1) :: tokens, ?_, ?_⟩
  · rw [lex, text, named, lexFrom_word (by decide) (by rintro c ⟨⟩; decide)]
    simp only [found]
    rfl
  · rw [select_nameTokens, ← place]
    simp only [FilterClause.ofTokens, Filter.ofTokens_and keyword]
    cases indexes.lookup value.unquoted <;> rfl

/-- A filter stands next to the name of an index.  When the two are joined by a keyword, every
index refuses the clause, because the keyword has nothing on its left once the name is cut out:
so joining them is like writing them side by side only for a name that is unknown anyway. -/
theorem select_joined_iff (wellFormed : ∀ entry ∈ indexes, entry.2.WellFormed) :
    ∃ adjacent joined,
      lex ("index=" ++ spelling ++ " " ++ clause) = .ok adjacent ∧
      lex ("index=" ++ spelling ++ " AND " ++ clause) = .ok joined ∧
      (∀ table, indexes.lookup name = some table →
        indexes.select adjacent =
            (FilterClause.apply ⟨clauseText adjacent, filter.filter⟩ table).mapError .filter ∧
          indexes.select joined = .error (.filter (.malformed (clauseText joined)
            (.keywordAlone "AND" ("index=" ++ spelling ++ " ").utf8ByteSize)))) ∧
      (indexes.select joined = indexes.select adjacent ↔ indexes.lookup name = none) := by
  obtain ⟨adjacent, adjacentRead, adjacentSelects⟩ :=
    exists_select_adjacent indexes spelled accepted
  obtain ⟨joined, joinedRead, joinedSelects⟩ := exists_select_joined indexes spelled accepted
  refine ⟨adjacent, joined, adjacentRead, joinedRead, ?_, ?_⟩
  · intro table found
    rw [adjacentSelects, joinedSelects, found]
    exact ⟨rfl, rfl⟩
  · rw [adjacentSelects, joinedSelects]
    cases found : indexes.lookup name with
    | none => exact ⟨fun _ => rfl, fun _ => rfl⟩
    | some table =>
        constructor
        · intro same
          obtain ⟨error, applied, wrapped⟩ := Except.mapError_eq_error_iff.mp same.symm
          cases wrapped
          exact absurd applied
            (FilterClause.apply_ne_keywordAlone (wellFormed _ (Table.mem_of_lookup found)) _ _ _ _)
        · rintro ⟨⟩

end Clauses

/-- Requests under a name with a blank in it. -/
def spacedIndexes : Indexes :=
  [("web logs", Engine.webRequests)]

theorem select_joined_iff_quoted :
    ∃ adjacent joined,
      lex ("index=" ++ "\"web logs\"" ++ " " ++ "host=\"b\" status<300") = .ok adjacent ∧
      lex ("index=" ++ "\"web logs\"" ++ " AND " ++ "host=\"b\" status<300") = .ok joined ∧
      (spacedIndexes.select adjacent).toOption.map Table.rows = some 1 ∧
      spacedIndexes.select joined ≠ spacedIndexes.select adjacent := by
  have requestsFormed : Engine.webRequests.WellFormed := by decide
  have wellFormed : ∀ entry ∈ spacedIndexes, entry.2.WellFormed :=
    List.forall_mem_singleton.mpr requestsFormed
  have spelled : Spells "\"web logs\"".toList "web logs" :=
    @Spells.quoted '"' "web logs".toList (by decide) (quotable_of_plain (by simp))
  obtain ⟨filter, accepted, -⟩ := Except.exists_ok_of_toOption
    (show (FilterClause.ofText "host=\"b\" status<300").toOption.map FilterClause.text =
      some "host=\"b\" status<300" by decide +kernel)
  obtain ⟨adjacent, joined, read, joinedRead, -, same⟩ :=
    select_joined_iff spacedIndexes spelled accepted wellFormed
  refine ⟨adjacent, joined, read, joinedRead, ?_, ?_⟩
  · have selected :
        ((lex ("index=" ++ "\"web logs\"" ++ " " ++ "host=\"b\" status<300")).toOption.bind
          fun tokens => (spacedIndexes.select tokens).toOption).map Table.rows = some 1 := by
      decide +kernel
    rwa [read] at selected
  · intro equal
    have unknown : spacedIndexes.lookup "web logs" = none := same.mp equal
    cases unknown

/-- A filter selects a request beside the name of its index, and none when it is joined to the
name. -/
theorem select_refuses_joined :
    ∃ filter adjacent joined, FilterClause.ofText "status=200" = .ok filter ∧
      lex "index=web status=200" = .ok adjacent ∧ lex "index=web AND status=200" = .ok joined ∧
      Indexes.select [("web", Engine.webRequests)] adjacent =
        .ok ⟨1, [("host", ⟨.text, [.text "b"]⟩), ("status", ⟨.int, [.int 200]⟩)]⟩ ∧
      Indexes.select [("web", Engine.webRequests)] joined =
        .error (.filter (.malformed (clauseText joined) (.keywordAlone "AND" 10))) := by
  let naming : List Token :=
    [⟨.identifier, "index", 0⟩, ⟨.operator, "=", 5⟩, ⟨.identifier, "web", 6⟩]
  let status (place : Nat) : List Token := [⟨.identifier, "status", place⟩,
    ⟨.operator, "=", place + 6⟩, ⟨.number, "200", place + 7⟩]
  refine ⟨⟨"status=200", some (.compare .eq (.column "status") (.literal (.int 200)))⟩,
    naming ++ status 10, naming ++ ⟨.identifier, "AND", 10⟩ :: status 14, ?_, ?_, ?_, ?_, ?_⟩
  · exact Except.toOption_eq_some_iff.mp (by decide +kernel)
  · exact Except.toOption_eq_some_iff.mp (by decide +kernel)
  · exact Except.toOption_eq_some_iff.mp (by decide +kernel)
  · exact Except.toOption_eq_some_iff.mp (by decide +kernel)
  · rfl

end Indexes

end LogPipe
