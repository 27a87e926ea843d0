import LogPipe.Engine.Run
import LogPipe.Lookup.Memory
import LogPipe.Proofs.Except
import LogPipe.Proofs.Query.Agreement
import LogPipe.Proofs.Query.Pieces

/-!
# Composition of pipelines

Joining two pipelines by a pipe is running one after the other.  The first half is
about text: whatever quotes, brackets and escapes the two texts hold, the joined text
is cut into the segments of the first and those of the second, numbered on.  The
second half is about runs: the table and the store of lookups that the first run
leaves are what the second starts from, and the number of a segment is only seen
in the error that names it.
-/

namespace LogPipe

open LogPipe.Query LogPipe.Text

namespace Engine

/-- What is left of a trimmed text when the pipe that it may start with is taken off. -/
def afterPipe : List Char → List Char
  | '|' :: rest => trim rest
  | rest => rest

/-- The text of a pipeline without blanks around it and without a leading pipe. -/
def pipelineBody (text : List Char) : List Char :=
  afterPipe (trim text)

theorem afterPipe_eq_self {text : List Char} (noPipe : text.head? ≠ some '|') :
    afterPipe text = text := by
  cases text with
  | nil => rfl
  | cons c rest =>
      unfold afterPipe
      split
      · next equal =>
          cases equal
          exact absurd rfl noPipe
      · rfl

/-- More text leaves the text after the leading pipe in front. -/
theorem exists_afterPipe_append {core right : List Char} (rightTight : Tight right)
    (rightSome : right ≠ []) (coreSome : afterPipe core ≠ []) (middle : List Char) :
    ∃ gap, BlankRun gap ∧
      afterPipe (core ++ middle ++ right) = afterPipe core ++ gap ++ middle ++ right := by
  by_cases piped : core.head? = some '|'
  · obtain ⟨rest, rfl⟩ := List.head?_eq_some_iff.mp piped
    have restSome : trim rest ≠ [] := coreSome
    obtain ⟨before, gap, beforeBlank, gapBlank, cut⟩ := exists_blanks_around_trim rest
    have tight := (tight_trim rest).append rightTight restSome rightSome (gap ++ middle)
    refine ⟨gap, gapBlank, ?_⟩
    calc
      afterPipe ('|' :: rest ++ middle ++ right) = trim (rest ++ middle ++ right) := rfl
      _ = trim (before ++ (trim rest ++ (gap ++ middle) ++ right) ++ []) := by
        conv => lhs; rw [cut]
        simp only [List.append_assoc, List.append_nil]
      _ = trim rest ++ (gap ++ middle) ++ right := trim_of_tight tight beforeBlank blankRun_nil
      _ = afterPipe ('|' :: rest) ++ gap ++ middle ++ right := by
        rw [← List.append_assoc]
        rfl
  · have same : afterPipe core = core := afterPipe_eq_self piped
    rw [same] at coreSome
    have joinedHead : (core ++ middle ++ right).head? ≠ some '|' := by
      obtain ⟨c, rest, rfl⟩ := List.exists_cons_of_ne_nil coreSome
      exact piped
    refine ⟨[], blankRun_nil, ?_⟩
    rw [afterPipe_eq_self joinedHead, same, List.append_nil]

/-- A joined pipeline holds the first body, a pipe between blanks and the second text. -/
theorem exists_pipelineBody_join {p q : List Char} (firstSome : pipelineBody p ≠ [])
    (secondSome : trim q ≠ []) :
    ∃ before after, BlankRun before ∧ BlankRun after ∧
      pipelineBody (p ++ " | ".toList ++ q) =
        (pipelineBody p ++ before) ++ '|' :: (after ++ trim q) := by
  have coreSome : trim p ≠ [] := by
    intro empty
    rw [pipelineBody, empty] at firstSome
    exact firstSome rfl
  obtain ⟨lead, left, leadBlank, leftBlank, firstCut⟩ := exists_blanks_around_trim p
  obtain ⟨right, tail, rightBlank, tailBlank, secondCut⟩ := exists_blanks_around_trim q
  have spaced : " | ".toList = [' '] ++ '|' :: [' '] := rfl
  have joined : p ++ " | ".toList ++ q =
      lead ++ (trim p ++ (left ++ [' '] ++ '|' :: ([' '] ++ right)) ++ trim q) ++ tail := by
    conv => lhs; rw [firstCut, secondCut, spaced]
    simp only [List.append_assoc, List.cons_append, List.nil_append]
  have tight := (tight_trim p).append (tight_trim q) coreSome secondSome
    (left ++ [' '] ++ '|' :: ([' '] ++ right))
  obtain ⟨gap, gapBlank, body⟩ := exists_afterPipe_append (tight_trim q) secondSome
    firstSome (left ++ [' '] ++ '|' :: ([' '] ++ right))
  refine ⟨gap ++ (left ++ [' ']), [' '] ++ right,
    gapBlank.append (leftBlank.append blankRun_space), blankRun_space.append rightBlank, ?_⟩
  rw [pipelineBody, joined, trim_of_tight tight leadBlank tailBlank, body]
  simp only [pipelineBody, List.append_assoc, List.cons_append, List.nil_append]

theorem splitPipeline_eq (text : String) :
    splitPipeline text =
      if (pipelineBody text.toList).isEmpty then .ok []
      else (splitQuery ("| " ++ String.ofList (pipelineBody text.toList))).map
        SplitQuery.segments :=
  rfl

/-- A pipeline with segments is read from the trimmed pieces of its body. -/
theorem splitPipeline_eq_ok_iff {text : String} {segments : List Segment}
    (someSegment : segments ≠ []) :
    splitPipeline text = .ok segments ↔
      pipelineBody text.toList ≠ [] ∧
        (trimmedPieces '|' (pipelineBody text.toList)).bind (segmentsFrom 0) =
          some segments := by
  rw [splitPipeline_eq, ← splitQuery_pipe]
  cases body : pipelineBody text.toList with
  | nil =>
      constructor
      · intro blank
        cases blank
        exact absurd rfl someSegment
      · intro read
        exact absurd rfl read.1
  | cons c rest =>
      rw [if_neg (by simp)]
      cases splitQuery ("| " ++ String.ofList (c :: rest)) with
      | error error =>
          constructor
          · intro failed
            cases failed
          · intro read
            cases read.2
      | ok split =>
          constructor
          · intro read
            cases read
            exact ⟨List.cons_ne_nil c rest, rfl⟩
          · intro read
            cases read.2
            rfl

/-- The segments of a joined pipeline. -/
theorem splitPipeline_join {p q : String} {first second : List Segment}
    (firstSplit : splitPipeline p = .ok first) (firstSome : first ≠ [])
    (secondSplit : splitPipeline q = .ok second) (secondSome : second ≠ [])
    (noPipe : (trim q.toList).head? ≠ some '|') :
    splitPipeline (p ++ " | " ++ q) =
      .ok (first ++ second.map (Segment.shift first.length)) := by
  obtain ⟨firstBody, firstRead⟩ := (splitPipeline_eq_ok_iff firstSome).mp firstSplit
  obtain ⟨secondBody, secondRead⟩ := (splitPipeline_eq_ok_iff secondSome).mp secondSplit
  have unpiped : pipelineBody q.toList = trim q.toList := afterPipe_eq_self noPipe
  rw [unpiped] at secondBody secondRead
  obtain ⟨firstPieces, firstCut, firstSegments⟩ := Option.bind_eq_some_iff.mp firstRead
  obtain ⟨secondPieces, secondCut, secondSegments⟩ := Option.bind_eq_some_iff.mp secondRead
  obtain ⟨before, after, beforeBlank, afterBlank, joined⟩ :=
    exists_pipelineBody_join firstBody secondBody
  have text : (p ++ " | " ++ q).toList = p.toList ++ " | ".toList ++ q.toList := by
    rw [String.toList_append, String.toList_append]
  have solid : isBlank '|' = false := by decide
  have cuts : separates '|' '|' = true := by decide
  have cut : trimmedPieces '|' (pipelineBody (p ++ " | " ++ q).toList) =
      some (firstPieces ++ secondPieces) := by
    rw [text, joined, trimmedPieces_append_separator cuts
      (trimmedPieces_append_blank solid beforeBlank firstCut),
      trimmedPieces_blank_append solid afterBlank, secondCut]
    rfl
  have joinedSome : first ++ second.map (Segment.shift first.length) ≠ [] := by
    intro empty
    exact firstSome (List.append_eq_nil_iff.mp empty).1
  refine (splitPipeline_eq_ok_iff joinedSome).mpr ⟨?_, ?_⟩
  · rw [text, joined]
    intro empty
    exact nomatch (List.append_eq_nil_iff.mp empty).2
  · rw [cut, Option.bind_some]
    exact segmentsFrom_join firstSegments secondSegments

end Engine

/-- The error of a run whose segments are numbered higher. -/
def QueryError.shift (count : Nat) : QueryError → QueryError
  | .directive place keyword error => .directive (place + count) keyword error
  | error => error

/-- The entry of a segment that is numbered higher. -/
def LedgerEntry.shift (count : Nat) (entry : LedgerEntry) : LedgerEntry :=
  { entry with index := entry.index + count }

namespace Outcome

variable {σ : Type}

/-- The outcome of a run whose segments are numbered higher. -/
def shift (count : Nat) (outcome : Outcome σ) : Outcome σ where
  result := outcome.result.mapError (QueryError.shift count)
  entries := outcome.entries.map (LedgerEntry.shift count)
  store := outcome.store

/-- Goes on with the table and the store of a run, unless it failed. -/
def andThen (outcome : Outcome σ) (next : Table → σ → Outcome σ) : Outcome σ :=
  match outcome.result with
  | .error _ => outcome
  | .ok table =>
      let after := next table outcome.store
      { after with entries := outcome.entries ++ after.entries }

theorem andThen_of_error {outcome : Outcome σ} {error : QueryError}
    (failed : outcome.result = .error error) (next : Table → σ → Outcome σ) :
    outcome.andThen next = outcome := by
  rw [andThen, failed]

theorem andThen_of_ok {outcome : Outcome σ} {table : Table}
    (finished : outcome.result = .ok table) (next : Table → σ → Outcome σ) :
    outcome.andThen next =
      { next table outcome.store with
        entries := outcome.entries ++ (next table outcome.store).entries } := by
  rw [andThen, finished]

end Outcome

namespace Engine

variable {σ : Type} [LookupStore σ]

/-- A directive does not see the number of its segment. -/
theorem runSegment_shift (engine : Engine) (nested : NestedRun σ) (count : Nat)
    (segment : Segment) (table : Table) :
    engine.runSegment nested (segment.shift count) table =
      engine.runSegment nested segment table :=
  rfl

theorem runSegments_shift (engine : Engine) (nested : NestedRun σ) (count : Nat)
    (table : Table) (store : σ) (segments : List Segment) :
    engine.runSegments nested table store (segments.map (Segment.shift count)) =
      (engine.runSegments nested table store segments).shift count := by
  induction segments generalizing table store with
  | nil => rfl
  | cons segment segments induction =>
      simp only [List.map_cons, runSegments, runSegment_shift]
      obtain ⟨result, after⟩ := engine.runSegment nested segment table store
      cases result with
      | error error => rfl
      | ok produced =>
          obtain ⟨name, next⟩ := produced
          simp only [induction next after]
          rfl

/-- More segments go on from where the first ones end. -/
theorem runSegments_append (engine : Engine) (nested : NestedRun σ) (table : Table) (store : σ)
    (first second : List Segment) :
    engine.runSegments nested table store (first ++ second) =
      (engine.runSegments nested table store first).andThen fun next after =>
        engine.runSegments nested next after second := by
  induction first generalizing table store with
  | nil => rfl
  | cons segment segments induction =>
      simp only [List.cons_append, runSegments]
      obtain ⟨result, after⟩ := engine.runSegment nested segment table store
      cases result with
      | error error => rfl
      | ok produced =>
          obtain ⟨name, next⟩ := produced
          simp only [induction next after]
          cases finished : (engine.runSegments nested next after segments).result with
          | error error => simp only [Outcome.andThen, finished]
          | ok table => simp only [Outcome.andThen, finished, List.cons_append]

/-- Segments fail at one of them. -/
theorem exists_segment_of_runSegments_error {engine : Engine} {nested : NestedRun σ}
    {table : Table} {store : σ} {segments : List Segment} {error : QueryError}
    (failed : (engine.runSegments nested table store segments).result = .error error) :
    ∃ segment ∈ segments, ∃ source,
      error = .directive segment.index segment.keywordText source := by
  induction segments generalizing table store with
  | nil => cases failed
  | cons segment segments induction =>
      simp only [runSegments] at failed
      generalize engine.runSegment nested segment table store = ran at failed
      obtain ⟨result, after⟩ := ran
      cases result with
      | error source =>
          cases failed
          exact ⟨segment, List.mem_cons_self, source, rfl⟩
      | ok produced =>
          obtain ⟨later, member, source, named⟩ := induction failed
          exact ⟨later, List.mem_cons_of_mem segment member, source, named⟩

theorem runPipeline_of_split (engine : Engine) (table : Table) (store : σ) {text : String}
    {segments : List Segment} (split : splitPipeline text = .ok segments) :
    engine.runPipeline table text store =
      engine.runSegments engine.nested table store segments := by
  rw [runPipeline, split]

/-- A joined pipeline is the first pipeline and then the second, numbered on. -/
theorem runPipeline_join (engine : Engine) (table : Table) (store : σ) {p q : String}
    {first second : List Segment}
    (firstSplit : splitPipeline p = .ok first) (firstSome : first ≠ [])
    (secondSplit : splitPipeline q = .ok second) (secondSome : second ≠ [])
    (noPipe : (trim q.toList).head? ≠ some '|') :
    engine.runPipeline table (p ++ " | " ++ q) store =
      (engine.runPipeline table p store).andThen fun next after =>
        (engine.runPipeline next q after).shift first.length := by
  have joined := splitPipeline_join firstSplit firstSome secondSplit secondSome noPipe
  rw [engine.runPipeline_of_split table store joined,
    engine.runPipeline_of_split table store firstSplit, runSegments_append]
  congr 1
  funext next after
  rw [engine.runPipeline_of_split next after secondSplit, runSegments_shift]

/-- Pipelines compose.  A joined pipeline fails as the first one does; otherwise it gives
what the second gives on the table and store of the first, and an error of the second
is only numbered on by the number of segments before it. -/
theorem runPipeline_composes (engine : Engine) (table : Table) (store : σ) (p q : String)
    (first second : List Segment)
    (firstSplit : splitPipeline p = .ok first) (firstSome : first ≠ [])
    (secondSplit : splitPipeline q = .ok second) (secondSome : second ≠ [])
    (noPipe : (trim q.toList).head? ≠ some '|') :
    let whole := engine.runPipeline table (p ++ " | " ++ q) store
    let before := engine.runPipeline table p store
    (∀ error, before.result = .error error →
      whole.result = .error error ∧ whole.store = before.store) ∧
    (∀ next, before.result = .ok next →
      let after := engine.runPipeline next q before.store
      whole.store = after.store ∧
      (∀ out, after.result = .ok out → whole.result = .ok out) ∧
      (∀ error, after.result = .error error →
        ∃ segment ∈ second, ∃ source,
          error = .directive segment.index segment.keywordText source ∧
          whole.result =
            .error (.directive (segment.index + first.length) segment.keywordText source))) := by
  intro whole before
  have composed : whole = before.andThen fun next after =>
      (engine.runPipeline next q after).shift first.length :=
    engine.runPipeline_join table store firstSplit firstSome secondSplit secondSome noPipe
  constructor
  · intro error failed
    rw [composed, Outcome.andThen_of_error failed]
    exact ⟨failed, rfl⟩
  · intro next finished after
    rw [composed, Outcome.andThen_of_ok finished]
    refine ⟨rfl, ?_, ?_⟩
    · intro out given
      change after.result.mapError _ = _
      rw [given]
      rfl
    · intro error failed
      have ran := failed
      change (engine.runPipeline next q before.store).result = .error error at ran
      rw [engine.runPipeline_of_split next before.store secondSplit] at ran
      obtain ⟨segment, member, source, rfl⟩ := exists_segment_of_runSegments_error ran
      refine ⟨segment, member, source, rfl, ?_⟩
      change after.result.mapError _ = _
      rw [failed]
      rfl

/-- Two events. -/
def keptEvents : Table := ⟨2, [("n", ⟨.int, [.int 1, .int 2]⟩)]⟩

/-- The first of the events. -/
def firstKept : Table := ⟨1, [("n", ⟨.int, [.int 1]⟩)]⟩

/-- A pipeline of two segments that leaves a lookup behind. -/
def keepingText : String := "outputlookup kept | head 1"

/-- A second pipeline loads what the first has saved, or fails as the third segment. -/
theorem runPipeline_composes_sample :
    let run := fun second =>
      (Engine.runPipeline {} keptEvents (keepingText ++ " | " ++ second) ({} : LookupMemory)).result
    run "inputlookup kept" = .ok keptEvents ∧
      ∃ keyword source, run "fields absent" = .error (.directive 2 keyword source) := by
  intro run
  obtain ⟨first, firstSplit, firstLength⟩ := Except.exists_ok_of_toOption
    (show (splitPipeline keepingText).toOption.map List.length = some 2 by decide +kernel)
  obtain ⟨load, loadSplit, loadIndexes⟩ := Except.exists_ok_of_toOption
    (show (splitPipeline "inputlookup kept").toOption.map (·.map Segment.index) = some [0] by
      decide +kernel)
  obtain ⟨fail, failSplit, failIndexes⟩ := Except.exists_ok_of_toOption
    (show (splitPipeline "fields absent").toOption.map (·.map Segment.index) = some [0] by
      decide +kernel)
  have firstSome : first ≠ [] := by
    rintro rfl
    cases firstLength
  have loadSome : load ≠ [] := by
    rintro rfl
    cases loadIndexes
  have failSome : fail ≠ [] := by
    rintro rfl
    cases failIndexes
  obtain ⟨next, finished, rfl⟩ := Except.exists_ok_of_toOption
    (show (Engine.runPipeline {} keptEvents keepingText ({} : LookupMemory)).result.toOption.map id =
        some firstKept by decide +kernel)
  constructor
  · obtain ⟨-, continued⟩ := runPipeline_composes {} keptEvents ({} : LookupMemory)
      keepingText "inputlookup kept" first load firstSplit firstSome loadSplit loadSome (by decide)
    obtain ⟨-, loaded, -⟩ := continued _ finished
    obtain ⟨out, given, rfl⟩ := Except.exists_ok_of_toOption
      (show (Engine.runPipeline {} firstKept "inputlookup kept"
        (Engine.runPipeline {} keptEvents keepingText ({} : LookupMemory)).store).result.toOption.map
          id = some keptEvents by decide +kernel)
    exact loaded _ given
  · obtain ⟨-, continued⟩ := runPipeline_composes {} keptEvents ({} : LookupMemory)
      keepingText "fields absent" first fail firstSplit firstSome failSplit failSome (by decide)
    obtain ⟨-, -, failed⟩ := continued _ finished
    obtain ⟨error, broke⟩ := Except.exists_error_of_toOption
      (show (Engine.runPipeline {} firstKept "fields absent"
        (Engine.runPipeline {} keptEvents keepingText ({} : LookupMemory)).store).result.toOption =
          none by decide +kernel)
    obtain ⟨segment, member, source, -, whole⟩ := failed error broke
    have number : segment.index = 0 := by
      have listed := List.mem_map_of_mem (f := Segment.index) member
      rw [failIndexes] at listed
      exact List.mem_singleton.mp listed
    rw [number, firstLength] at whole
    exact ⟨segment.keywordText, source, whole⟩

end Engine

/-! ## Stages of a run

What a run comes to is a relation between the table and the store that it starts from and
those that it ends with.  The texts of the stages decide it, and stages that are put one
after the other compose.  So a pipeline or a query may be taken apart at its pipes without
a word about numbers of segments or entries of ledgers. -/

variable {σ : Type}

namespace Outcome

/-- A run that ends with a table, and with the store that it leaves. -/
def Ends (outcome : Outcome σ) (finish : Table × σ) : Prop :=
  outcome.result = .ok finish.1 ∧ outcome.store = finish.2

variable {outcome other : Outcome σ} {finish : Table × σ}

theorem ends_shift_iff {count : Nat} : (outcome.shift count).Ends finish ↔ outcome.Ends finish := by
  simp only [Ends, shift, Except.mapError_eq_ok_iff]

theorem ends_andThen_iff {next : Table → σ → Outcome σ} :
    (outcome.andThen next).Ends finish ↔
      ∃ middle, outcome.Ends middle ∧ (next middle.1 middle.2).Ends finish := by
  cases finished : outcome.result with
  | error error =>
      rw [andThen_of_error finished]
      constructor
      · rintro ⟨done, -⟩
        rw [finished] at done
        cases done
      · rintro ⟨middle, ⟨done, -⟩, -⟩
        rw [finished] at done
        cases done
  | ok table =>
      rw [andThen_of_ok finished]
      constructor
      · intro ends
        exact ⟨(table, outcome.store), ⟨finished, rfl⟩, ends⟩
      · rintro ⟨⟨next, left⟩, ⟨done, rfl⟩, ends⟩
        rw [finished] at done
        cases done
        exact ends

end Outcome

namespace Engine

variable [LookupStore σ] {engine : Engine} {nested : NestedRun σ} {start finish : Table × σ}

/-- The stages of some trimmed texts lead from one table and store to another. -/
def Leads (engine : Engine) (nested : NestedRun σ) (stages : List (List Char))
    (start finish : Table × σ) : Prop :=
  ∃ segments, segmentsFrom 0 stages = some segments ∧
    (engine.runSegments nested start.1 start.2 segments).Ends finish

theorem leads_append_iff {before after : List (List Char)} :
    engine.Leads nested (before ++ after) start finish ↔
      ∃ middle, engine.Leads nested before start middle ∧
        engine.Leads nested after middle finish := by
  constructor
  · rintro ⟨segments, read, ends⟩
    rw [segmentsFrom_append] at read
    obtain ⟨first, firstRead, rest⟩ := Option.bind_eq_some_iff.mp read
    obtain ⟨later, laterRead, rfl⟩ := Option.map_eq_some_iff.mp rest
    rw [segmentsFrom_shift] at laterRead
    obtain ⟨second, secondRead, rfl⟩ := Option.map_eq_some_iff.mp laterRead
    rw [runSegments_append, Outcome.ends_andThen_iff] at ends
    obtain ⟨middle, firstEnds, secondEnds⟩ := ends
    rw [runSegments_shift, Outcome.ends_shift_iff] at secondEnds
    exact ⟨middle, ⟨first, firstRead, firstEnds⟩, second, secondRead, secondEnds⟩
  · rintro ⟨middle, ⟨first, firstRead, firstEnds⟩, second, secondRead, secondEnds⟩
    refine ⟨_, segmentsFrom_join firstRead secondRead, ?_⟩
    rw [runSegments_append, Outcome.ends_andThen_iff]
    refine ⟨middle, firstEnds, ?_⟩
    rwa [runSegments_shift, Outcome.ends_shift_iff]

/-- One stage is one segment. -/
theorem leads_single_iff {stage : List Char} {tokens : List Token} (someText : stage ≠ [])
    (read : lex (String.ofList stage) = .ok tokens) :
    engine.Leads nested [stage] start finish ↔
      ∃ name, engine.runSegment nested ⟨0, String.ofList stage, tokens⟩ start.1 start.2 =
        (.ok (name, finish.1), finish.2) := by
  have single : segmentsFrom 0 [stage] = some [⟨0, String.ofList stage, tokens⟩] := by
    rw [segmentsFrom, if_neg (by simpa using someText), read]
    rfl
  obtain ⟨out, final⟩ := finish
  constructor
  · rintro ⟨segments, segmentsRead, done, left⟩
    rw [single] at segmentsRead
    cases segmentsRead
    rw [runSegments] at done left
    generalize engine.runSegment nested _ start.1 start.2 = ran at done left ⊢
    obtain ⟨result, store⟩ := ran
    cases result with
    | error error => cases done
    | ok made =>
        cases done
        cases left
        exact ⟨made.1, rfl⟩
  · rintro ⟨name, ran⟩
    refine ⟨_, single, ?_⟩
    rw [runSegments, ran]
    exact ⟨rfl, rfl⟩

/-- A text with a body has the segments of its stages. -/
theorem splitPipeline_toOption {text : String} (someText : pipelineBody text.toList ≠ []) :
    (splitPipeline text).toOption =
      (trimmedPieces '|' (pipelineBody text.toList)).bind (segmentsFrom 0) := by
  rw [splitPipeline_eq, if_neg (by simpa using someText), ← splitQuery_pipe]
  cases splitQuery ("| " ++ String.ofList (pipelineBody text.toList)) <;> rfl

theorem ends_runPipeline_iff {table : Table} {store : σ} {text : String}
    (someText : pipelineBody text.toList ≠ []) :
    (engine.runPipeline table text store).Ends finish ↔
      ∃ stages, trimmedPieces '|' (pipelineBody text.toList) = some stages ∧
        engine.Leads engine.nested stages (table, store) finish := by
  have ran : (engine.runPipeline table text store).Ends finish ↔
      ∃ segments, (splitPipeline text).toOption = some segments ∧
        (engine.runSegments engine.nested table store segments).Ends finish := by
    rw [runPipeline]
    cases splitPipeline text with
    | error error => simp [Except.toOption, Outcome.Ends]
    | ok segments => simp [Except.toOption]
  simp only [ran, splitPipeline_toOption someText, Option.bind_eq_some_iff, Leads]
  constructor
  · rintro ⟨segments, ⟨stages, cut, read⟩, ends⟩
    exact ⟨stages, cut, segments, read, ends⟩
  · rintro ⟨stages, cut, segments, read, ends⟩
    exact ⟨segments, ⟨stages, cut, read⟩, ends⟩

/-- A query has an index clause and the segments of its stages. -/
theorem splitQuery_toOption (query : String) :
    (splitQuery query).toOption = (trimmedPieces '|' query.toList).bind fun texts =>
      (lex (String.ofList (texts.headD []))).toOption.bind fun tokens =>
        (segmentsFrom 0 texts.tail).map fun segments =>
          ⟨String.ofList (texts.headD []), tokens, segments⟩ := by
  rw [trimmedPieces, ← splitTopLevel_eq_pieces, splitQuery, Except.toOption_bind]
  cases splitTopLevel query '|' with
  | error error => rfl
  | ok found =>
      have clause : trim ((found.head?.map Prod.snd).getD []) =
          ((found.map Prod.snd).map trim).headD [] := by
        cases found <;> rfl
      have stages : ((found.map Prod.snd).map trim).tail = (found.tail.map Prod.snd).map trim := by
        cases found <;> rfl
      have given : (Except.ok found : Except LexError _).toOption = some found := rfl
      simp only [given, Except.toOption_bind, Option.map_some, Option.bind_some, clause, stages,
        ← readSegments_eq_segmentsFrom query]
      cases lex (String.ofList (((found.map Prod.snd).map trim).headD [])) with
      | error error => rfl
      | ok tokens => cases readSegments query 0 found.tail <;> rfl

theorem ends_execute_iff {query : String} {store : σ} :
    (engine.execute query store).Ends finish ↔
      ∃ texts tokens table, trimmedPieces '|' query.toList = some texts ∧
        lex (String.ofList (texts.headD [])) = .ok tokens ∧
        engine.startTable ⟨String.ofList (texts.headD []), tokens, []⟩ = .ok table ∧
        engine.Leads engine.nested texts.tail (table, store) finish := by
  have ran : (engine.execute query store).Ends finish ↔
      ∃ parts table, (splitQuery query).toOption = some parts ∧
        engine.startTable parts = .ok table ∧
        (engine.runSegments engine.nested table store parts.segments).Ends finish := by
    rw [execute, runQuery]
    cases splitQuery query with
    | error error => simp [Except.toOption, Outcome.Ends]
    | ok parts =>
        cases started : engine.startTable parts with
        | error error => simp [Except.toOption, Outcome.Ends, started]
        | ok table => simp [Except.toOption, started]
  simp only [ran, splitQuery_toOption, Option.bind_eq_some_iff, Option.map_eq_some_iff,
    Except.toOption_eq_some_iff, Leads]
  constructor
  · rintro ⟨_, table, ⟨texts, cut, tokens, read, segments, segmentsRead, rfl⟩, started, ends⟩
    exact ⟨texts, tokens, table, cut, read, started, segments, segmentsRead, ends⟩
  · rintro ⟨texts, tokens, table, cut, read, started, segments, segmentsRead, ends⟩
    exact ⟨_, table, ⟨texts, cut, tokens, read, segments, segmentsRead, rfl⟩, started, ends⟩

end Engine

end LogPipe
