import LogPipe.Proofs.Engine.Limits
import LogPipe.Proofs.Engine.Composition
import LogPipe.Proofs.Query.Reading
import Mathlib.Data.List.TakeWhile

/-!
# Macros are inlined

A macro call runs its template as a pipeline of its own, one level deeper.  Written out in
place of the call, the template is cut into the same stages, and what these do one level
deeper they do without the level as well.
-/

namespace LogPipe

open LogPipe.Query LogPipe.Text

namespace MacroCall

/-- A name that is called by writing it between backquotes.  It holds no backquote, and none
of its backslashes reaches the closing one; a parenthesis would start arguments, and blanks
at its ends would not belong to it. -/
structure BareName (name : String) : Prop where
  quotable : Quotable '\x60' name.toList
  unquoted : '\x60' ∉ name.toList
  noArguments : '(' ∉ name.toList
  tight : Tight name.toList

/-- The text of a call without arguments. -/
def bareText (name : String) : List Char :=
  '\x60' :: (name.toList ++ ['\x60'])

/-- The token of a call without arguments at the start of a stage. -/
def bareToken (name : String) : Token :=
  ⟨.quotedLiteral, String.ofList (bareText name), 0⟩

theorem tight_bareText (name : String) : Tight (bareText name) := by
  constructor
  · rintro c ⟨⟩
    decide
  · intro c isLast
    rw [bareText, List.getLast?_cons, List.getLast?_concat] at isLast
    cases isLast
    decide

theorem resolveEscapes_eq_self {quote : Char} {text : List Char} (unquoted : quote ∉ text) :
    resolveEscapes quote text = text := by
  fun_induction resolveEscapes quote text with
  | case1 c rest closes induction =>
      obtain rfl := eq_of_beq closes
      simp at unquoted
  | case2 c rest differs induction =>
      rw [induction fun member => unquoted (List.mem_cons_of_mem _ member)]
  | case3 c rest notSlash induction =>
      rw [induction fun member => unquoted (List.mem_cons_of_mem _ member)]
  | case4 => rfl

namespace BareName

variable {name : String} (bare : BareName name)

include bare

theorem lex_bareText : lex (String.ofList (bareText name)) = .ok [bareToken name] := by
  rw [lex, String.toList_ofList, bareText, lexFrom_quoted (by decide) bare.quotable]
  simp only [lexFrom_nil]
  rfl

theorem trimmedPieces_bareText : trimmedPieces '|' (bareText name) = some [bareText name] := by
  rw [trimmedPieces, bareText, pieces_quoted (by decide) bare.quotable]
  simp only [Option.map_some, List.map_cons, List.map_nil]
  rw [← bareText, trim_eq_self (tight_bareText name)]

theorem ofText?_unquoted : ofText? (bareToken name).unquoted = some ⟨name, []⟩ := by
  have inside : (bareToken name).unquoted = name := by
    have quoted : isQuote '\x60' = true := by decide
    rw [bareToken, Token.unquoted, unquote, String.toList_ofList, bareText]
    simp [unquoteChars, quoted, resolveEscapes_eq_self bare.unquoted]
  have noBody : (name.toList.dropWhile fun c => c != '(') = [] := by
    rw [List.dropWhile_eq_nil_iff]
    intro c member
    have other : c ≠ '(' := fun same => bare.noArguments (same ▸ member)
    simpa using other
  rw [inside, ofText?, trim_eq_self bare.tight, noBody, String.ofList_toList]

end BareName

/-- A word without backslashes is a name that can be called. -/
theorem BareName.of_word {name : String} (word : IsWord name.toList)
    (noSlash : '\\' ∉ name.toList) : BareName name := by
  have other {c d : Char} (member : c ∈ name.toList) (outside : isWordPart d = false) : c ≠ d := by
    rintro rfl
    rw [word.parts c member] at outside
    cases outside
  exact ⟨quotable_of_plain fun c member =>
      ⟨other member (by decide), fun same => noSlash (same ▸ member)⟩,
    fun member => other member (by decide) rfl, fun member => other member (by decide) rfl,
    word.tight⟩

end MacroCall

section Calls

variable {name template : String} {macros : Macros}

theorem Macros.expand?_bare (known : macros.lookup name = some template) :
    macros.expand? ⟨name, []⟩ = some template := by
  rw [expand?, known]
  rfl

open MacroCall in
/-- A call without arguments runs the template of its macro. -/
theorem Subsearch.expansion_bare (bare : BareName name)
    (known : macros.lookup name = some template) (text : String) :
    expansion macros ⟨.macroCall, bareToken name, [], text⟩ = .ok template := by
  rw [expansion]
  simp [bare.ofText?_unquoted, Macros.expand?_bare known]

theorem Invocation.ofSegment?_bare (index : Nat) (text : String) :
    ofSegment? ⟨index, text, [MacroCall.bareToken name]⟩ =
      some ⟨.macroCall, MacroCall.bareToken name, [],
        Segment.argumentText ⟨index, text, [MacroCall.bareToken name]⟩⟩ := by
  have called : isMacroCall (MacroCall.bareToken name) = true := by
    simp [isMacroCall, MacroCall.bareToken, MacroCall.bareText]
  have directive : directive? (MacroCall.bareToken name) = some .macroCall := by
    rw [directive?, if_pos called]
  simp [ofSegment?, Segment.keyword?, Segment.arguments, directive]

end Calls

namespace Engine

variable {σ : Type} [LookupStore σ] {engine : Engine} {start finish : Table × σ}

/-- A pipeline inside a directive that ends well does so as its segments do. -/
theorem ends_of_pipeline {depth fuel : Nat} {text : String} {segments : List Segment}
    (split : splitPipeline text = .ok segments)
    (ran : (engine.nestedRun depth (fuel + 1)).pipeline start.1 text start.2 =
      (.ok finish.1, finish.2)) :
    (engine.runSegments (engine.nestedRun (depth + 1) fuel) start.1 start.2 segments).Ends
      finish := by
  obtain ⟨_, store, admitted, ran⟩ := Session.exists_of_bind_eq_ok ran
  obtain rfl : start.2 = store := congrArg Prod.snd admitted
  obtain ⟨others, store, cut, ran⟩ := Session.exists_of_bind_eq_ok ran
  rw [split] at cut
  cases cut
  have ended := Prod.ext_iff.mp ran
  exact ⟨Except.mapError_eq_ok_iff.mp ended.1, ended.2⟩

/-- A macro call ends as its template does, without the level that it takes. -/
theorem leads_bareText {name template : String} (bare : MacroCall.BareName name)
    (known : engine.macros.lookup name = some template) {segments : List Segment}
    (split : splitPipeline template = .ok segments)
    (leads : engine.Leads engine.nested [MacroCall.bareText name] start finish) :
    (engine.runSegments engine.nested start.1 start.2 segments).Ends finish := by
  obtain ⟨label, ran⟩ := (leads_single_iff (List.cons_ne_nil _ _) bare.lex_bareText).mp leads
  obtain ⟨invocation, read, -, applied, -⟩ := runSegment_eq_ok_iff.mp ran
  rw [Invocation.ofSegment?_bare] at read
  cases read
  obtain ⟨text, store, expanded, ran⟩ := Session.exists_of_bind_eq_ok applied
  rw [Subsearch.expansion_bare bare known] at expanded
  cases expanded
  have deeper := ends_of_pipeline split ran
  have shallower := runSegments_follows (.refl engine) (.refl engine.policy)
    (nestedRun_follows (.refl engine) (.refl engine.policy) (Nat.zero_le 1)
      (Nat.le_succ engine.policy.nesting)) start.1 start.2 segments
  obtain ⟨error, failed, -⟩ | same := shallower
  · rw [deeper.1] at failed
    cases failed
  · rw [same] at deeper
    exact deeper

section Text

theorem solid_pipe : isBlank '|' = false := by
  decide

theorem tight_pipe : Tight ['|'] := by
  constructor <;> rintro _ ⟨⟩ <;> decide

/-- Of a text that starts with a pipe the body is what stands behind it. -/
theorem pipelineBody_pipe {gap : List Char} (blank : BlankRun gap) {rest : List Char}
    (someText : trim rest ≠ []) : pipelineBody (gap ++ '|' :: rest) = trim rest := by
  obtain ⟨before, after, beforeBlank, afterBlank, split⟩ := exists_blanks_around_trim rest
  have tight := tight_pipe.append (tight_trim rest) (List.cons_ne_nil _ _) someText before
  have shape : gap ++ '|' :: rest = gap ++ (['|'] ++ before ++ trim rest) ++ after := by
    conv => lhs; rw [split]
    simp
  have core : trim (before ++ trim rest) = trim rest := by
    rw [trim_blank_append beforeBlank, trim_eq_self (tight_trim rest)]
  rw [pipelineBody, shape, trim_of_tight tight blank afterBlank]
  exact core

/-- A text without a body is blank but for a pipe. -/
theorem exists_pipe_of_body_nil {p : List Char} (empty : pipelineBody p = []) :
    BlankRun p ∨ ∃ before after, BlankRun before ∧ BlankRun after ∧ p = before ++ '|' :: after := by
  obtain ⟨before, after, beforeBlank, afterBlank, split⟩ := exists_blanks_around_trim p
  cases core : trim p with
  | nil => exact .inl (blankRun_of_trim_eq_nil core)
  | cons c rest =>
      rw [pipelineBody, core] at empty
      have piped : c = '|' := by
        by_contra other
        rw [afterPipe_eq_self (by simpa using other)] at empty
        cases empty
      subst piped
      refine .inr ⟨before, rest ++ after, beforeBlank,
        (blankRun_of_trim_eq_nil empty).append afterBlank, ?_⟩
      rw [split, core]
      simp

theorem closed_pipelineBody {p : List Char} (closed : Closed p) : Closed (pipelineBody p) := by
  have trimmed := closed_trim closed
  rw [pipelineBody]
  by_cases piped : (trim p).head? = some '|'
  · obtain ⟨rest, core⟩ := List.head?_eq_some_iff.mp piped
    rw [core, ← closedFrom_nil_iff, closedFrom_plain_iff (by decide) (by decide)] at trimmed
    rw [core]
    exact closed_trim trimmed
  · rwa [afterPipe_eq_self piped]

/-- A text in front of a pipe puts these stages in front of those of any text behind it. -/
def Fronts (p : List Char) (front : List (List Char)) : Prop :=
  ∀ rest, trim rest ≠ [] →
    pipelineBody (p ++ " | ".toList ++ rest) ≠ [] ∧
      trimmedPieces '|' (pipelineBody (p ++ " | ".toList ++ rest)) =
        (trimmedPieces '|' rest).map (front ++ ·)

theorem fronts_of_blank {p : List Char} (blank : BlankRun p) : Fronts p [] := by
  intro rest someText
  have spaced : p ++ " | ".toList ++ rest = p ++ [' '] ++ '|' :: ([' '] ++ rest) := by simp
  have trimmed : trim ([' '] ++ rest) = trim rest := trim_blank_append blankRun_space rest
  have body : pipelineBody (p ++ " | ".toList ++ rest) = trim rest := by
    rw [spaced, pipelineBody_pipe (blank.append blankRun_space) (by rwa [trimmed]), trimmed]
  rw [body, trimmedPieces_trim solid_pipe]
  exact ⟨someText, Option.map_id'.symm ▸ rfl⟩

/-- A pipe in front of the joint leaves a blank stage, whatever comes behind it. -/
theorem fronts_of_pipe {before after : List Char} (beforeBlank : BlankRun before)
    (afterBlank : BlankRun after) : Fronts (before ++ '|' :: after) [[]] := by
  intro rest _
  have shape : before ++ '|' :: after ++ " | ".toList ++ rest =
      before ++ '|' :: (after ++ " | ".toList ++ rest) := by simp
  have someText : trim (after ++ " | ".toList ++ rest) ≠ [] := by
    intro nothing
    have blank := blankRun_of_trim_eq_nil nothing '|' (by simp)
    rw [solid_pipe] at blank
    cases blank
  have blankStage : trimmedPieces '|' after = some [[]] := by
    have cut := trimmedPieces_blank_append solid_pipe afterBlank []
    rwa [List.append_nil] at cut
  rw [shape, pipelineBody_pipe beforeBlank someText, trimmedPieces_trim solid_pipe,
    trimmedPieces_join blankStage]
  exact ⟨someText, rfl⟩

theorem fronts_of_body {p : List Char} {front : List (List Char)} (someBody : pipelineBody p ≠ [])
    (cut : trimmedPieces '|' (pipelineBody p) = some front) : Fronts p front := by
  intro rest someText
  obtain ⟨before, after, beforeBlank, afterBlank, joined⟩ :=
    exists_pipelineBody_join someBody someText
  have cuts : separates '|' '|' = true := by decide
  rw [joined, trimmedPieces_append_separator cuts
    (trimmedPieces_append_blank solid_pipe beforeBlank cut),
    trimmedPieces_blank_append solid_pipe afterBlank, trimmedPieces_trim solid_pipe]
  exact ⟨by simp, rfl⟩

theorem exists_fronts {p : List Char} (closed : Closed p) : ∃ front, Fronts p front := by
  by_cases empty : pipelineBody p = []
  · obtain blank | ⟨before, after, beforeBlank, afterBlank, rfl⟩ := exists_pipe_of_body_nil empty
    · exact ⟨[], fronts_of_blank blank⟩
    · exact ⟨[[]], fronts_of_pipe beforeBlank afterBlank⟩
  · obtain ⟨raw, rawCut⟩ := exists_pieces_iff.mpr (closed_pipelineBody closed)
    have cut : trimmedPieces '|' (pipelineBody p) = some (raw.map trim) := by
      rw [trimmedPieces, rawCut]
      rfl
    exact ⟨raw.map trim, fronts_of_body empty cut⟩

end Text

/-- A pipeline is its front, and then what stands behind a pipe. -/
theorem ends_runPipeline_front (engine : Engine) (table : Table) (store : σ) {p : String}
    (closed : Closed p.toList) :
    ∃ front, ∀ (rest : String) (finish : Table × σ), trim rest.toList ≠ [] →
      ((engine.runPipeline table (p ++ " | " ++ rest) store).Ends finish ↔
        ∃ middle stages, engine.Leads engine.nested front (table, store) middle ∧
          trimmedPieces '|' rest.toList = some stages ∧
          engine.Leads engine.nested stages middle finish) := by
  obtain ⟨front, fronts⟩ := exists_fronts closed
  refine ⟨front, fun rest finish someText => ?_⟩
  obtain ⟨someBody, cut⟩ := fronts rest.toList someText
  have text : (p ++ " | " ++ rest).toList = p.toList ++ " | ".toList ++ rest.toList := by
    rw [String.toList_append, String.toList_append]
  rw [← text] at someBody cut
  rw [ends_runPipeline_iff someBody, cut]
  constructor
  · rintro ⟨_, joined, leads⟩
    obtain ⟨stages, restCut, rfl⟩ := Option.map_eq_some_iff.mp joined
    obtain ⟨middle, frontLeads, restLeads⟩ := leads_append_iff.mp leads
    exact ⟨middle, stages, frontLeads, restCut, restLeads⟩
  · rintro ⟨middle, stages, frontLeads, restCut, restLeads⟩
    exact ⟨front ++ stages, by rw [restCut]; rfl,
      leads_append_iff.mpr ⟨middle, frontLeads, restLeads⟩⟩

/-- A text between two pipes runs its stages between the front and what stands behind it. -/
theorem ends_runPipeline_between (engine : Engine) (table : Table) (store : σ) {p : String}
    (closed : Closed p.toList) :
    ∃ front, ∀ (inner back : String) (stages : List (List Char)) (finish : Table × σ),
      trim inner.toList ≠ [] → trimmedPieces '|' inner.toList = some stages →
      ((engine.runPipeline table (p ++ " | " ++ inner ++ " | " ++ back) store).Ends finish ↔
        ∃ before after later, engine.Leads engine.nested front (table, store) before ∧
          engine.Leads engine.nested stages before after ∧
          trimmedPieces '|' back.toList = some later ∧
          engine.Leads engine.nested later after finish) := by
  obtain ⟨front, fronted⟩ := ends_runPipeline_front engine table store closed
  refine ⟨front, fun inner back stages finish someText cut => ?_⟩
  have text : p ++ " | " ++ inner ++ " | " ++ back = p ++ " | " ++ (inner ++ " | " ++ back) := by
    simp only [String.append_assoc]
  have someWhole : trim (inner ++ " | " ++ back).toList ≠ [] := by
    rw [String.append_assoc, String.toList_append]
    exact trim_append_ne_nil someText _
  rw [text, fronted _ finish someWhole, String.toList_append, String.toList_append,
    trimmedPieces_join cut]
  constructor
  · rintro ⟨before, _, frontLeads, joined, leads⟩
    obtain ⟨later, laterCut, rfl⟩ := Option.map_eq_some_iff.mp joined
    obtain ⟨after, innerLeads, laterLeads⟩ := leads_append_iff.mp leads
    exact ⟨before, after, later, frontLeads, innerLeads, laterCut, laterLeads⟩
  · rintro ⟨before, after, later, frontLeads, innerLeads, laterCut, laterLeads⟩
    exact ⟨before, stages ++ later, frontLeads, by rw [laterCut]; rfl,
      leads_append_iff.mpr ⟨after, innerLeads, laterLeads⟩⟩

/-- The segments of a template, read as stages. -/
theorem exists_stages_of_split {template : String} {segments : List Segment}
    (split : splitPipeline template = .ok segments) (someText : trim template.toList ≠ [])
    (noPipe : (trim template.toList).head? ≠ some '|') :
    ∃ stages, trimmedPieces '|' template.toList = some stages ∧
      segmentsFrom 0 stages = some segments := by
  have body : pipelineBody template.toList = trim template.toList := afterPipe_eq_self noPipe
  have parted := splitPipeline_toOption (by rwa [body])
  rw [split, body, trimmedPieces_trim solid_pipe] at parted
  exact Option.bind_eq_some_iff.mp parted.symm

/-- A macro call means its expansion.  If a pipeline with a call of a macro without arguments
ends with a table, then it ends with the same table and leaves the same lookups when the
template of the macro is written in place of the call. -/
theorem macro_call_inlines (engine : Engine) (table : Table) (store : σ)
    {name template p : String} (q : String) (bare : MacroCall.BareName name)
    (known : engine.macros.lookup name = some template) {segments : List Segment}
    (split : splitPipeline template = .ok segments) (someText : trim template.toList ≠ [])
    (noPipe : (trim template.toList).head? ≠ some '|') (closed : Closed p.toList) :
    let called := engine.runPipeline table (p ++ " | \x60" ++ name ++ "\x60 | " ++ q) store
    let inlined := engine.runPipeline table (p ++ " | " ++ template ++ " | " ++ q) store
    ∀ out, called.result = .ok out → inlined.result = .ok out ∧ inlined.store = called.store := by
  intro called inlined out done
  generalize left : called.store = final
  have calledEnds : called.Ends (out, final) := ⟨done, left⟩
  obtain ⟨front, between⟩ := ends_runPipeline_between engine table store closed
  have calledText : p ++ " | \x60" ++ name ++ "\x60 | " ++ q =
      p ++ " | " ++ String.ofList (MacroCall.bareText name) ++ " | " ++ q := by
    apply String.toList_injective
    simp [MacroCall.bareText]
  have someCall : trim (String.ofList (MacroCall.bareText name)).toList ≠ [] := by
    rw [String.toList_ofList, trim_eq_self (MacroCall.tight_bareText name)]
    exact List.cons_ne_nil _ _
  have callCut : trimmedPieces '|' (String.ofList (MacroCall.bareText name)).toList =
      some [MacroCall.bareText name] := by
    rw [String.toList_ofList, bare.trimmedPieces_bareText]
  simp only [called, calledText] at calledEnds
  obtain ⟨before, after, later, frontLeads, callLeads, laterCut, laterLeads⟩ :=
    (between _ _ _ _ someCall callCut).mp calledEnds
  obtain ⟨inside, insideCut, insideRead⟩ := exists_stages_of_split split someText noPipe
  have insideLeads : engine.Leads engine.nested inside before after :=
    ⟨segments, insideRead, leads_bareText bare known split callLeads⟩
  exact (between _ _ _ _ someText insideCut).mpr
    ⟨before, after, later, frontLeads, insideLeads, laterCut, laterLeads⟩

/-- A pipeline that runs a query inside it. -/
def appendingText : String :=
  "append [index=web | head 1] | lookup owners host"

/-- An engine whose macro may run its query, but no deeper one. -/
def macroEngine : Engine :=
  { webEngine with policy := { nesting := 2 }, macros := [("owned", appendingText)] }

/-- The macro is called between two directives, of which the last saves the table. -/
theorem macro_call_inlines_appending :
    let called := macroEngine.runPipeline webRequests
      ("reverse" ++ " | \x60" ++ "owned" ++ "\x60 | " ++ "outputlookup kept") hostOwners
    let inlined := macroEngine.runPipeline webRequests
      ("reverse" ++ " | " ++ appendingText ++ " | " ++ "outputlookup kept") hostOwners
    ∃ out, called.result = .ok out ∧ out.rows = 3 ∧ inlined.result = .ok out ∧
      inlined.store = called.store := by
  intro called inlined
  have bare : MacroCall.BareName "owned" := .of_word (by decide) (by decide)
  obtain ⟨segments, split, -⟩ := Except.exists_ok_of_toOption
    (show (splitPipeline appendingText).toOption.map List.length = some 2 by decide +kernel)
  have cut : pieces '|' "reverse".toList = some ["reverse".toList] := by decide
  obtain ⟨out, done, rows⟩ := Except.exists_ok_of_toOption
    (show called.result.toOption.map Table.rows = some 3 by decide +kernel)
  exact ⟨out, done, rows, macro_call_inlines macroEngine webRequests hostOwners
    "outputlookup kept" bare rfl split (by decide) (by decide)
    (exists_pieces_iff.mp ⟨_, cut⟩) out done⟩

end Engine

end LogPipe
