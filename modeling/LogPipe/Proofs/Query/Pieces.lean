import LogPipe.Proofs.Text.Trimming
import LogPipe.Query.Split

/-!
# Pieces of a text

The splitter reports offsets and stops with an error that quotes the whole text.
Neither matters for where a text is cut.  This module describes the cuts alone
and shows how they behave when texts are joined: a separator between two texts
that are closed puts their pieces one after the other, and blanks at either end
of a text do not change its trimmed pieces.  So the segments of two queries that are joined
by a pipe are those of the first followed by those of the second, numbered on.
-/

namespace LogPipe.Query

open LogPipe.Text

namespace Scan

/-- A scan without the offsets of its open quote and brackets. -/
def shape (scan : Scan) : Scan where
  quote := scan.quote.map fun opened => (opened.1, 0)
  escaped := scan.escaped
  brackets := scan.brackets.map fun opened => (opened.1, 0)

@[simp] theorem isTopLevel_shape (scan : Scan) :
    scan.shape.isTopLevel = scan.isTopLevel := by
  cases quote : scan.quote <;> cases brackets : scan.brackets <;>
    simp [shape, isTopLevel, quote, brackets]

/-- Offsets are only carried along. -/
theorem shape_step? (scan : Scan) (offset : Nat) (c : Char) :
    scan.shape.step? 0 c = (scan.step? offset c).map shape := by
  obtain ⟨quote, escaped, brackets⟩ := scan
  cases quote with
  | some opened =>
      obtain ⟨opener, start⟩ := opened
      simp only [step?, shape, Option.map_some]
      cases escaped with
      | true => rfl
      | false =>
          by_cases slash : (c == '\\') = true
          · simp [slash, shape]
          · by_cases closes : (c == opener) = true
            · simp [slash, closes, shape]
            · simp [slash, closes, shape]
  | none =>
      simp only [step?, shape, Option.map_none]
      by_cases quotes : isQuote c = true
      · simp [quotes, shape]
      · by_cases opens : (c == '(' || c == '[') = true
        · simp [quotes, opens, shape]
        · by_cases closes : (c == ')' || c == ']') = true
          · cases brackets with
            | nil => simp [quotes, opens, closes]
            | cons opened outer =>
                by_cases fits : (closerOf opened.1 == c) = true
                · simp [quotes, opens, closes, fits, shape]
                · simp [quotes, opens, closes, fits]
          · simp [quotes, opens, closes, shape]

/-- Outside quotes no backslash is pending. -/
def Settled (scan : Scan) : Prop :=
  scan.quote = none → scan.escaped = false

theorem settled_start : Settled {} :=
  fun _ => rfl

theorem Settled.step {scan next : Scan} {offset : Nat} {c : Char}
    (settled : scan.Settled) (stepped : scan.step? offset c = some next) :
    next.Settled := by
  obtain ⟨quote, escaped, brackets⟩ := scan
  cases quote with
  | some opened =>
      simp only [step?] at stepped
      split at stepped
      · cases stepped
        exact fun _ => rfl
      · next notEscaped =>
          have calm : escaped = false := by simpa using notEscaped
          split at stepped
          · cases stepped
            intro unquoted
            cases unquoted
          · split at stepped
            · cases stepped
              exact fun _ => calm
            · cases stepped
              exact fun _ => calm
  | none =>
      have calm : escaped = false := settled rfl
      simp only [step?] at stepped
      split at stepped
      · cases stepped
        intro unquoted
        cases unquoted
      · split at stepped
        · cases stepped
          exact fun _ => calm
        · split at stepped
          · split at stepped
            · split at stepped
              · cases stepped
                exact fun _ => calm
              · cases stepped
            · cases stepped
          · cases stepped
            exact fun _ => calm

/-- At the top level a settled scan knows nothing of the text before it. -/
theorem Settled.eq_start {scan : Scan} (settled : scan.Settled)
    (top : scan.isTopLevel = true) : scan = {} := by
  obtain ⟨quote, escaped, brackets⟩ := scan
  simp only [isTopLevel, Bool.and_eq_true, Option.isNone_iff_eq_none,
    List.isEmpty_iff] at top
  obtain ⟨rfl, rfl⟩ := top
  have notEscaped : escaped = false := settled rfl
  rw [notEscaped]

/-- A blank is neither a quote nor a bracket. -/
theorem step?_blank {scan : Scan} {c : Char} (top : scan.isTopLevel = true)
    (blank : isBlank c = true) : scan.step? 0 c = some scan := by
  have other : ∀ d : Char, isBlank d = false → (c == d) = false := by
    intro d solid
    rw [beq_eq_false_iff_ne]
    rintro rfl
    rw [blank] at solid
    cases solid
  obtain ⟨quote, escaped, brackets⟩ := scan
  simp only [isTopLevel, Bool.and_eq_true, Option.isNone_iff_eq_none,
    List.isEmpty_iff] at top
  obtain ⟨rfl, rfl⟩ := top
  have notQuote : isQuote c = false := by
    simp [isQuote, other '"' (by decide), other '\'' (by decide), other '\x60' (by decide)]
  have notOpener : (c == '(' || c == '[') = false := by
    simp [other '(' (by decide), other '[' (by decide)]
  have notCloser : (c == ')' || c == ']') = false := by
    simp [other ')' (by decide), other ']' (by decide)]
  simp [step?, notQuote, notOpener, notCloser]

end Scan

/-- The pieces of the rest of a text, which must end outside quotes and brackets.
`piece` holds the characters of the current piece from the last to the first. -/
def piecesFrom (separator : Char) (scan : Scan) (piece : List Char) :
    List Char → Option (List (List Char))
  | [] => if scan.isTopLevel then some [piece.reverse] else none
  | c :: rest =>
      if scan.isTopLevel && separates separator c then
        (piecesFrom separator scan [] rest).map (piece.reverse :: ·)
      else
        (scan.step? 0 c).bind fun scan => piecesFrom separator scan (c :: piece) rest

/-- The pieces of a text. -/
def pieces (separator : Char) (text : List Char) : Option (List (List Char)) :=
  piecesFrom separator {} [] text

/-- Where the splitter succeeds, it finds the pieces. -/
theorem splitFrom_eq_piecesFrom (whole : String) (separator : Char) (scan : Scan)
    (start offset : Nat) (piece text : List Char) :
    (splitFrom whole separator scan start offset piece text).toOption.map (·.map Prod.snd) =
      piecesFrom separator scan.shape piece text := by
  induction text generalizing scan start offset piece with
  | nil =>
      obtain ⟨quote, escaped, brackets⟩ := scan
      cases quote with
      | some opened => rfl
      | none =>
          cases brackets with
          | nil => rfl
          | cons opened outer => rfl
  | cons c rest induction =>
      simp only [splitFrom, piecesFrom, Scan.isTopLevel_shape]
      by_cases cut : (scan.isTopLevel && separates separator c) = true
      · rw [if_pos cut, if_pos cut, ← induction scan (offset + c.utf8Size) (offset + c.utf8Size)]
        cases splitFrom whole separator scan (offset + c.utf8Size) (offset + c.utf8Size) [] rest with
        | error error => rfl
        | ok found => rfl
      · rw [if_neg cut, if_neg cut, Scan.shape_step? scan offset c]
        cases scan.step? offset c with
        | none => rfl
        | some next => exact induction next start (offset + c.utf8Size) (c :: piece)

theorem splitTopLevel_eq_pieces (text : String) (separator : Char) :
    (splitTopLevel text separator).toOption.map (·.map Prod.snd) =
      pieces separator text.toList :=
  splitFrom_eq_piecesFrom text separator {} 0 0 [] text.toList

/-- A text that can be cut puts its pieces in front of those of the text after a
separator, because the scan is back at its start there. -/
theorem piecesFrom_append_separator {separator : Char}
    (cuts : separates separator separator = true) (after : List Char)
    {scan : Scan} (settled : scan.Settled) {piece text : List Char}
    {found : List (List Char)} (cut : piecesFrom separator scan piece text = some found) :
    piecesFrom separator scan piece (text ++ separator :: after) =
      (pieces separator after).map (found ++ ·) := by
  induction text generalizing scan piece found with
  | nil =>
      have top : scan.isTopLevel = true := by
        by_cases top : scan.isTopLevel = true
        · exact top
        · simp [piecesFrom, top] at cut
      simp only [piecesFrom, if_pos top, Option.some.injEq] at cut
      have fresh := settled.eq_start top
      subst cut fresh
      simp only [List.nil_append, piecesFrom, cuts, top, Bool.and_self, if_true, pieces,
        List.singleton_append]
  | cons c rest induction =>
      simp only [piecesFrom, List.cons_append] at cut ⊢
      by_cases isCut : (scan.isTopLevel && separates separator c) = true
      · rw [if_pos isCut] at cut ⊢
        obtain ⟨later, laterCut, rfl⟩ := Option.map_eq_some_iff.mp cut
        rw [induction settled laterCut, Option.map_map]
        rfl
      · rw [if_neg isCut] at cut ⊢
        obtain ⟨next, stepped, laterCut⟩ := Option.bind_eq_some_iff.mp cut
        rw [stepped, Option.bind_some]
        exact induction (settled.step stepped) laterCut

theorem piecesFrom_blank {separator : Char} (solid : isBlank separator = false)
    {scan : Scan} (top : scan.isTopLevel = true) {c : Char} (blank : isBlank c = true)
    (piece rest : List Char) :
    piecesFrom separator scan piece (c :: rest) =
      piecesFrom separator scan (c :: piece) rest := by
  have notCut : separates separator c = false := by
    have different : (c == separator) = false := by
      rw [beq_eq_false_iff_ne]
      rintro rfl
      rw [blank] at solid
      cases solid
    simp [separates, different]
  simp only [piecesFrom, notCut, Bool.and_false, Bool.false_eq_true, if_false,
    Scan.step?_blank top blank, Option.bind_some]

/-- Blanks at the top level go into the current piece. -/
theorem piecesFrom_blank_append {separator : Char} (solid : isBlank separator = false)
    {scan : Scan} (top : scan.isTopLevel = true) {gap : List Char} (blank : BlankRun gap)
    (piece text : List Char) :
    piecesFrom separator scan piece (gap ++ text) =
      piecesFrom separator scan (gap.reverse ++ piece) text := by
  induction gap generalizing piece with
  | nil => rfl
  | cons c rest induction =>
      have headBlank : isBlank c = true := blank c List.mem_cons_self
      have restBlank : BlankRun rest := fun d member => blank d (List.mem_cons_of_mem c member)
      rw [List.cons_append, piecesFrom_blank solid top headBlank, induction restBlank,
        List.reverse_cons, List.append_assoc, List.singleton_append]

/-- The pieces of a text without the blanks around each. -/
def trimmedPieces (separator : Char) (text : List Char) : Option (List (List Char)) :=
  (pieces separator text).map (·.map trim)

theorem trimmedPieces_append_separator {separator : Char}
    (cuts : separates separator separator = true) {before : List Char}
    {found : List (List Char)} (cut : trimmedPieces separator before = some found)
    (after : List Char) :
    trimmedPieces separator (before ++ separator :: after) =
      (trimmedPieces separator after).map (found ++ ·) := by
  obtain ⟨raw, rawCut, rfl⟩ := Option.map_eq_some_iff.mp cut
  simp only [trimmedPieces, pieces] at rawCut ⊢
  rw [piecesFrom_append_separator cuts after Scan.settled_start rawCut, Option.map_map,
    Option.map_map]
  congr 1
  funext later
  exact List.map_append

/-- Blanks at the start of the current piece do not show once it is trimmed. -/
theorem map_trim_piecesFrom_append_blank (separator : Char) {gap : List Char}
    (blank : BlankRun gap) (scan : Scan) (piece text : List Char) :
    (piecesFrom separator scan (piece ++ gap.reverse) text).map (·.map trim) =
      (piecesFrom separator scan piece text).map (·.map trim) := by
  have sameHead : ∀ piece : List Char,
      trim (piece ++ gap.reverse).reverse = trim piece.reverse := by
    intro piece
    rw [List.reverse_append, List.reverse_reverse, trim_blank_append blank]
  induction text generalizing scan piece with
  | nil =>
      simp only [piecesFrom]
      by_cases top : scan.isTopLevel = true
      · simp only [if_pos top, Option.map_some, List.map_cons, List.map_nil, sameHead]
      · simp only [if_neg top, Option.map_none]
  | cons c rest induction =>
      simp only [piecesFrom]
      by_cases isCut : (scan.isTopLevel && separates separator c) = true
      · simp only [if_pos isCut, Option.map_map]
        congr 1
        funext later
        simp only [Function.comp_apply, List.map_cons, sameHead]
      · simp only [if_neg isCut]
        cases scan.step? 0 c with
        | none => rfl
        | some next => exact induction next (c :: piece)

theorem trimmedPieces_blank_append {separator : Char} (solid : isBlank separator = false)
    {gap : List Char} (blank : BlankRun gap) (text : List Char) :
    trimmedPieces separator (gap ++ text) = trimmedPieces separator text := by
  have top : Scan.isTopLevel {} = true := rfl
  have entered := piecesFrom_blank_append solid top blank [] text
  have trimmedSame := map_trim_piecesFrom_append_blank separator blank {} [] text
  rw [List.nil_append] at trimmedSame
  rw [List.append_nil] at entered
  rw [trimmedPieces, pieces, entered, trimmedSame]
  rfl

/-- Blanks at the end of a text go into its last piece. -/
theorem piecesFrom_append_blank {separator : Char} (solid : isBlank separator = false)
    {gap : List Char} (blank : BlankRun gap) {scan : Scan} {piece text : List Char}
    {found : List (List Char)} (cut : piecesFrom separator scan piece text = some found) :
    (piecesFrom separator scan piece (text ++ gap)).map (·.map trim) =
      some (found.map trim) := by
  induction text generalizing scan piece found with
  | nil =>
      simp only [piecesFrom] at cut
      by_cases top : scan.isTopLevel = true
      · rw [if_pos top] at cut
        cases cut
        have entered := piecesFrom_blank_append solid top blank piece []
        rw [List.append_nil] at entered
        rw [List.nil_append, entered]
        simp only [piecesFrom, if_pos top, Option.map_some, List.map_cons, List.map_nil,
          List.reverse_append, List.reverse_reverse, trim_append_blank blank]
      · rw [if_neg top] at cut
        cases cut
  | cons c rest induction =>
      simp only [piecesFrom, List.cons_append] at cut ⊢
      by_cases isCut : (scan.isTopLevel && separates separator c) = true
      · rw [if_pos isCut] at cut ⊢
        obtain ⟨later, laterCut, rfl⟩ := Option.map_eq_some_iff.mp cut
        obtain ⟨grown, grownCut, grownTrim⟩ := Option.map_eq_some_iff.mp (induction laterCut)
        rw [grownCut]
        simp only [Option.map_some, List.map_cons, grownTrim]
      · rw [if_neg isCut] at cut ⊢
        obtain ⟨next, stepped, laterCut⟩ := Option.bind_eq_some_iff.mp cut
        rw [stepped, Option.bind_some]
        exact induction laterCut

theorem trimmedPieces_append_blank {separator : Char} (solid : isBlank separator = false)
    {gap : List Char} (blank : BlankRun gap) {text : List Char}
    {found : List (List Char)} (cut : trimmedPieces separator text = some found) :
    trimmedPieces separator (text ++ gap) = some found := by
  obtain ⟨raw, rawCut, rfl⟩ := Option.map_eq_some_iff.mp cut
  exact piecesFrom_append_blank solid blank rawCut

/-- Texts that are joined by a pipe between blanks put their pieces one after the other. -/
theorem trimmedPieces_join {before : List Char} {found : List (List Char)}
    (cut : trimmedPieces '|' before = some found) (after : List Char) :
    trimmedPieces '|' (before ++ " | ".toList ++ after) =
      (trimmedPieces '|' after).map (found ++ ·) := by
  have solid : isBlank '|' = false := by decide
  have cuts : separates '|' '|' = true := by decide
  have spaced : before ++ " | ".toList ++ after =
      (before ++ [' ']) ++ '|' :: ([' '] ++ after) := by simp
  rw [spaced, trimmedPieces_append_separator cuts
    (trimmedPieces_append_blank solid blankRun_space cut),
    trimmedPieces_blank_append solid blankRun_space]

/-! ## Segments of joined queries -/

/-- A segment whose number is raised. -/
def Segment.shift (count : Nat) (segment : Segment) : Segment :=
  { segment with index := segment.index + count }

/-- The segments of trimmed pieces, none of which may be blank. -/
def segmentsFrom (index : Nat) : List (List Char) → Option (List Segment)
  | [] => some []
  | text :: texts =>
      if text.isEmpty then none
      else do
        let tokens ← (lex (String.ofList text)).toOption
        let segments ← segmentsFrom (index + 1) texts
        some (⟨index, String.ofList text, tokens⟩ :: segments)

/-- Where the reader succeeds, it finds the segments of the trimmed pieces. -/
theorem readSegments_eq_segmentsFrom (query : String) (index : Nat)
    (found : List (Nat × List Char)) :
    (readSegments query index found).toOption =
      segmentsFrom index ((found.map Prod.snd).map trim) := by
  induction found generalizing index with
  | nil => rfl
  | cons head rest induction =>
      obtain ⟨offset, piece⟩ := head
      simp only [readSegments, List.map_cons, segmentsFrom]
      by_cases empty : (trim piece).isEmpty = true
      · rw [if_pos empty, if_pos empty]
        rfl
      · rw [if_neg empty, if_neg empty, ← induction (index + 1)]
        cases lex (String.ofList (trim piece)) with
        | error error => rfl
        | ok tokens =>
            cases readSegments query (index + 1) rest with
            | error error => rfl
            | ok segments => rfl

theorem segmentsFrom_length {index : Nat} {texts : List (List Char)} {segments : List Segment}
    (read : segmentsFrom index texts = some segments) : segments.length = texts.length := by
  induction texts generalizing index segments with
  | nil =>
      cases read
      rfl
  | cons text texts induction =>
      simp only [segmentsFrom] at read
      split at read
      · cases read
      · obtain ⟨tokens, -, afterTokens⟩ := Option.bind_eq_some_iff.mp read
        obtain ⟨later, laterRead, finished⟩ := Option.bind_eq_some_iff.mp afterTokens
        cases finished
        rw [List.length_cons, List.length_cons, induction laterRead]

/-- The segments of more pieces are numbered on from those before. -/
theorem segmentsFrom_append (index : Nat) (before after : List (List Char)) :
    segmentsFrom index (before ++ after) =
      (segmentsFrom index before).bind fun first =>
        (segmentsFrom (index + before.length) after).map (first ++ ·) := by
  induction before generalizing index with
  | nil =>
      simp only [segmentsFrom, List.nil_append, Option.bind_some, List.length_nil, Nat.add_zero]
      exact Option.map_id'.symm ▸ rfl
  | cons text texts induction =>
      have numbered : index + 1 + texts.length = index + (text :: texts).length := by
        rw [List.length_cons]
        omega
      simp only [segmentsFrom, List.cons_append]
      by_cases empty : text.isEmpty = true
      · rw [if_pos empty, if_pos empty]
        rfl
      · rw [if_neg empty, if_neg empty, induction, numbered]
        cases (lex (String.ofList text)).toOption with
        | none => rfl
        | some tokens =>
            cases segmentsFrom (index + 1) texts with
            | none => rfl
            | some first =>
                cases segmentsFrom (index + (text :: texts).length) after with
                | none => rfl
                | some later => rfl

theorem segmentsFrom_shift (index count : Nat) (texts : List (List Char)) :
    segmentsFrom (index + count) texts =
      (segmentsFrom index texts).map (·.map (Segment.shift count)) := by
  induction texts generalizing index with
  | nil => rfl
  | cons text texts induction =>
      simp only [segmentsFrom]
      by_cases empty : text.isEmpty = true
      · rw [if_pos empty, if_pos empty]
        rfl
      · rw [if_neg empty, if_neg empty, Nat.add_right_comm, induction]
        cases (lex (String.ofList text)).toOption with
        | none => rfl
        | some tokens =>
            cases segmentsFrom (index + 1) texts with
            | none => rfl
            | some later => rfl

/-- Raising the numbers by the length of what stands in front joins two readings. -/
theorem segmentsFrom_join {before after : List (List Char)} {first second : List Segment}
    (firstRead : segmentsFrom 0 before = some first)
    (secondRead : segmentsFrom 0 after = some second) :
    segmentsFrom 0 (before ++ after) =
      some (first ++ second.map (Segment.shift first.length)) := by
  have numbered := segmentsFrom_shift 0 before.length after
  rw [secondRead] at numbered
  rw [segmentsFrom_append, firstRead, Option.bind_some, numbered,
    segmentsFrom_length firstRead]
  rfl

theorem lexFrom_nil (whole : String) (offset : Nat) : lexFrom whole [] offset [] = .ok [] := by
  unfold lexFrom
  rfl

theorem lex_trim_nil : lex (String.ofList (trim [])) = .ok [] := by
  unfold lex
  rw [String.toList_ofList]
  exact lexFrom_nil _ 0

/-- A query that starts with a pipe has a blank index clause. -/
theorem splitQuery_of_blank_clause {query : String} {offset : Nat}
    {rest : List (Nat × List Char)}
    (cut : splitTopLevel query '|' = .ok ((offset, []) :: rest)) :
    splitQuery query = (readSegments query 0 rest).map fun segments => ⟨"", [], segments⟩ := by
  rw [splitQuery, cut]
  change (do
    let tokens ← lex (String.ofList (trim []))
    let segments ← readSegments query 0 rest
    pure (⟨String.ofList (trim []), tokens, segments⟩ : SplitQuery)) = _
  rw [lex_trim_nil]
  cases readSegments query 0 rest with
  | error error => rfl
  | ok segments => rfl

/-- The segments of a query that starts with a pipe and has no index clause. -/
theorem splitQuery_pipe (body : List Char) :
    (splitQuery ("| " ++ String.ofList body)).toOption.map SplitQuery.segments =
      (trimmedPieces '|' body).bind (segmentsFrom 0) := by
  have text : ("| " ++ String.ofList body).toList = '|' :: (' ' :: body) := by
    simp [String.toList_append]
  have opened : pieces '|' ('|' :: (' ' :: body)) =
      (pieces '|' (' ' :: body)).map ([] :: ·) := rfl
  have solid : isBlank '|' = false := by decide
  have blank := trimmedPieces_blank_append solid blankRun_space body
  have viewed := splitTopLevel_eq_pieces ("| " ++ String.ofList body) '|'
  rw [text, opened] at viewed
  rw [List.singleton_append] at blank
  rw [← blank, trimmedPieces]
  cases found : splitTopLevel ("| " ++ String.ofList body) '|' with
  | error error =>
      rw [found] at viewed
      have uncut : pieces '|' (' ' :: body) = none := Option.map_eq_none_iff.mp viewed.symm
      rw [uncut, splitQuery, found]
      rfl
  | ok numbered =>
      rw [found] at viewed
      obtain ⟨raw, rawCut, split⟩ := Option.map_eq_some_iff.mp viewed.symm
      cases numbered with
      | nil => cases split
      | cons head rest =>
          obtain ⟨offset, clause⟩ := head
          obtain ⟨rfl, rfl⟩ : [] = clause ∧ raw = rest.map Prod.snd := by
            simpa using split
          rw [splitQuery_of_blank_clause found, rawCut, Option.map_some, Option.bind_some,
            ← readSegments_eq_segmentsFrom ("| " ++ String.ofList body)]
          cases readSegments ("| " ++ String.ofList body) 0 rest with
          | error error => rfl
          | ok segments => rfl

end LogPipe.Query
